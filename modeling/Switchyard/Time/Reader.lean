import Switchyard.Time.Calendar
import Switchyard.Number.Power
import Switchyard.Text.Blank

/-!
# Reading dates and times

A reader takes its part from the front of the text and hands on the rest. Blanks may stand before numbers
and separators; years may have any number of digits if they carry a sign.
-/

namespace Switchyard

/-- Why a text is no date or time. -/
inductive TimeFault where
  | tooShort
  | invalid
  | outOfRange
  | tooLong
  | impossible
  deriving DecidableEq, Repr

/-- The wording of a fault. -/
def TimeFault.message : TimeFault → String
  | .tooShort => "premature end of input"
  | .invalid => "input contains invalid characters"
  | .outOfRange => "input is out of range"
  | .tooLong => "trailing input"
  | .impossible => "no possible date and time matching input"

namespace Time

/-- A text without the blanks at its front. -/
def skipBlanks (cs : List Char) : List Char := cs.dropWhile isBlank

/-- The value of a decimal digit. -/
def digit? (c : Char) : Option Nat := if '0' ≤ c ∧ c ≤ '9' then some (c.toNat - 48) else none

/-- Appends up to `width` digits to a value that stays below 63 bits. -/
def digitsUpTo : (width : Nat) → (value : Nat) → List Char → Except TimeFault (Nat × List Char)
  | 0, value, cs => .ok (value, cs)
  | _ + 1, value, [] => .ok (value, [])
  | width + 1, value, c :: rest =>
    match digit? c with
    | none => .ok (value, c :: rest)
    | some d =>
      if twoTo 63 ≤ value * 10 + d then .error .outOfRange else digitsUpTo width (value * 10 + d) rest

/-- A number of one to `width` digits. -/
def number (width : Nat) (cs : List Char) : Except TimeFault (Nat × List Char) :=
  match cs with
  | [] => .error .tooShort
  | c :: _ => if (digit? c).isSome then digitsUpTo width 0 cs else .error .invalid

/-- A number of one or two digits within bounds. -/
def numberIn (least greatest : Nat) (cs : List Char) : Except TimeFault (Nat × List Char) := do
  let (n, rest) ← number 2 (skipBlanks cs)
  if least ≤ n ∧ n ≤ greatest then return (n, rest) else .error .outOfRange

/-- A single character. -/
def mark (c : Char) : List Char → Except TimeFault (List Char)
  | [] => .error .tooShort
  | d :: rest => if c = d then .ok rest else .error .invalid

/-- A single character that blanks may precede. -/
def spacedMark (c : Char) (cs : List Char) : Except TimeFault (List Char) := mark c (skipBlanks cs)

/-- A year: four digits at most, any number after a sign. -/
def year (cs : List Char) : Except TimeFault (Int × List Char) := do
  let (n, rest) ← match skipBlanks cs with
    | '-' :: tail => (number tail.length tail).map fun (n, rest) => (-(n : Int), rest)
    | '+' :: tail => (number tail.length tail).map fun (n, rest) => ((n : Int), rest)
    | tail => (number 4 tail).map fun (n, rest) => ((n : Int), rest)
  if -(twoTo 31) ≤ n ∧ n < twoTo 31 then return (n, rest) else .error .outOfRange

/-- Year, month and day with hyphens between them; whether the calendar has the day is not yet asked. -/
def dateFields (cs : List Char) : Except TimeFault (Date × List Char) := do
  let (y, cs) ← year cs
  let cs ← spacedMark '-' cs
  let (m, cs) ← numberIn 1 12 cs
  let cs ← spacedMark '-' cs
  let (d, cs) ← numberIn 1 31 cs
  return (⟨y, m, d⟩, cs)

/-- A date of the calendar. -/
def checkDate (d : Date) : Except TimeFault Date := if d.isValid then .ok d else .error .outOfRange

/-- A fraction of a second after its point: nine digits count, further ones are skipped. -/
def fraction (cs : List Char) : Except TimeFault (Nat × List Char) := do
  let (n, rest) ← number 9 cs
  return (n * tenTo (9 - (cs.length - rest.length)), rest.dropWhile fun c => (digit? c).isSome)

/-- A colon, the seconds and an optional fraction. The sixtieth second is a leap second. -/
def seconds (cs : List Char) : Except TimeFault ((Nat × Nat) × List Char) := do
  let cs ← spacedMark ':' cs
  let (s, cs) ← numberIn 0 60 cs
  let (nano, cs) ← match cs with
    | '.' :: tail => fraction tail
    | _ => pure (0, cs)
  return (if s = 60 then (59, nano + 1000000000) else (s, nano), skipBlanks cs)

/-- Hour and minute with a colon between them. -/
def hourMinute (cs : List Char) : Except TimeFault ((Nat × Nat) × List Char) := do
  let (h, cs) ← numberIn 0 23 cs
  let cs ← spacedMark ':' cs
  let (m, cs) ← numberIn 0 59 cs
  return ((h, m), cs)

/-- Nothing but blanks. -/
def finish {α : Type} (a : α) (cs : List Char) : Except TimeFault α :=
  if (skipBlanks cs).isEmpty then .ok a else .error .tooLong

/-- Reads a date. -/
def readDate (s : String) : Except TimeFault Date := do
  let (d, cs) ← dateFields s.toList
  let d ← finish d cs
  checkDate d

/-- Reads a time; without readable seconds they count as missing. -/
def readTime (s : String) : Except TimeFault TimeOfDay := do
  let ((h, m), cs) ← hourMinute s.toList
  let ((s, nano), cs) := match seconds cs with
    | .ok r => r
    | .error _ => ((0, 0), cs)
  finish ⟨h, m, s, nano⟩ cs

/-- A time with seconds. -/
def fullTime (cs : List Char) : Except TimeFault (TimeOfDay × List Char) := do
  let ((h, m), cs) ← hourMinute cs
  let ((s, nano), cs) ← seconds cs
  return (⟨h, m, s, nano⟩, cs)

/-- Reads a date and a time joined by a `T`. -/
def readDateTime (s : String) : Except TimeFault DateTime := do
  let (d, cs) ← dateFields s.toList
  let cs ← spacedMark 'T' cs
  let (t, cs) ← fullTime cs
  let (d, t) ← finish (d, t) cs
  let d ← checkDate d
  return ⟨d, t⟩

/-! ## Offsets -/

/-- Two decimal digits. -/
def twoDigits : List Char → Except TimeFault (Nat × Nat × List Char)
  | a :: b :: rest =>
    match digit? a, digit? b with
    | some a, some b => .ok (a, b, rest)
    | _, _ => .error .invalid
  | [a] => if a.utf8Size < 2 then .error .tooShort else .error .invalid
  | [] => .error .tooShort

/-- An offset from universal time in minutes: `Z`, the name of universal time, or hours and minutes after
a sign. -/
def offset (cs : List Char) : Except TimeFault (Int × List Char) :=
  if (cs.take 3).map Char.toUpper = ['U', 'T', 'C'] then .ok (0, cs.drop 3)
  else
    match cs with
    | [] => .error .tooShort
    | c :: rest =>
      if c = 'Z' ∨ c = 'z' then .ok (0, rest)
      else if c ≠ '+' ∧ c ≠ '-' ∧ c ≠ '−' then .error .invalid
      else do
        let (a, b, rest) ← twoDigits rest
        let rest := rest.dropWhile fun c => c = ':' || isBlank c
        let (m, n, rest) ← twoDigits rest
        if 6 ≤ m then .error .outOfRange
        else
          let minutes : Int := (a * 10 + b) * 60 + m * 10 + n
          return (if c = '+' then minutes else -minutes, rest)

/-- Reads a date, a time and an offset. -/
def readOffsetDateTime (s : String) : Except TimeFault OffsetDateTime := do
  let (d, cs) ← dateFields s.toList
  let cs ← match cs with
    | [] => .error .tooShort
    | c :: rest => if c = 't' ∨ c = 'T' ∨ c = ' ' then .ok rest else .error .invalid
  let (t, cs) ← fullTime cs
  let (o, cs) ← offset cs
  let (d, t) ← finish (d, t) cs
  let d ← checkDate d
  let moment : OffsetDateTime := ⟨⟨d, t⟩, o⟩
  if 1440 ≤ o.natAbs then .error .outOfRange
  else if moment.universal?.isNone then .error .impossible
  else return moment

end Time

end Switchyard
