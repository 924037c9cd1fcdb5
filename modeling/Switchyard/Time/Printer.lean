import Switchyard.Time.Calendar

/-!
# Writing dates and times

Years outside four digits carry a sign. A fraction of a second has three, six or nine digits, the fewest
that lose nothing, and is left out when it is zero.
-/

namespace Switchyard

/-- The decimal digits of a number, with zeros in front up to a width. -/
def padded (width n : Nat) : String :=
  let digits := Nat.toDigits 10 n
  .ofList (List.replicate (width - digits.length) '0' ++ digits)

namespace Date

/-- The text of a year. -/
def yearText (year : Int) : String :=
  if 0 ≤ year ∧ year ≤ 9999 then padded 4 year.natAbs
  else (if year < 0 then "-" else "+") ++ padded 4 year.natAbs

/-- The text of a date. -/
def text (d : Date) : String := s!"{yearText d.year}-{padded 2 d.month}-{padded 2 d.day}"

end Date

namespace TimeOfDay

/-- The fraction of a second. -/
def fractionText (nano : Nat) : String :=
  if nano = 0 then ""
  else if nano % 1000000 = 0 then "." ++ padded 3 (nano / 1000000)
  else if nano % 1000 = 0 then "." ++ padded 6 (nano / 1000)
  else "." ++ padded 9 nano

/-- The text of a time; a leap second is the sixtieth. -/
def text (t : TimeOfDay) : String :=
  let leap := 1000000000 ≤ t.nano
  let second := if leap then t.second + 1 else t.second
  let nano := if leap then t.nano - 1000000000 else t.nano
  s!"{padded 2 t.hour}:{padded 2 t.minute}:{padded 2 second}{fractionText nano}"

end TimeOfDay

namespace DateTime

/-- The text with `mark` between date and time. -/
def textWith (mark : String) (t : DateTime) : String := t.date.text ++ mark ++ t.time.text

end DateTime

namespace OffsetDateTime

/-- The text of an offset. -/
def offsetText (offset : Int) : String :=
  (if offset < 0 then "-" else "+") ++ s!"{padded 2 (offset.natAbs / 60)}:{padded 2 (offset.natAbs % 60)}"

/-- The text for readers. -/
def text (t : OffsetDateTime) : String := t.wall.textWith " " ++ " " ++ offsetText t.offset

/-- The text for documents; no offset is a `Z`. -/
def documentText (t : OffsetDateTime) : String :=
  t.wall.textWith "T" ++ if t.offset = 0 then "Z" else offsetText t.offset

end OffsetDateTime

end Switchyard
