import Switchyard.Number.Floating

/-!
# The shortest decimal of a floating-point value

Of the decimals that round to a value, those with the fewest digits are found by testing, for one digit,
two digits and so on, the two neighbours of the value on the grid of decimals of that length. The nearer
neighbour wins.
-/

namespace Switchyard

/-- A positive decimal `digits * 10 ^ exponent`. -/
structure Decimal where
  digits : Nat
  exponent : Int
  deriving DecidableEq, Repr

namespace Decimal

/-- The interval of reals that round to a value, on a common denominator; its ends belong to it or not. -/
structure Interval where
  low : Nat
  value : Nat
  high : Nat
  den : Nat
  closed : Bool

/-- The interval around `mantissa * 2 ^ (power - depth)`: half a step on each side, and half of the smaller
step below a power of two. -/
def Interval.around (f : FloatFormat) (mantissa power : Nat) : Interval :=
  let lower := if mantissa = twoTo f.fraction ∧ power ≠ 0 then 1 else 2
  let low := 4 * mantissa - lower
  let value := 4 * mantissa
  let high := 4 * mantissa + 2
  if f.depth ≤ power then
    let k := twoTo (power - f.depth)
    ⟨low * k, value * k, high * k, 4, mantissa % 2 = 0⟩
  else ⟨low, value, high, 4 * twoTo (f.depth - power), mantissa % 2 = 0⟩

/-- Whether the decimal `n * 10 ^ e` lies in the interval. -/
def Interval.holds (i : Interval) (n : Nat) (e : Int) : Bool :=
  let a := if 0 ≤ e then n * tenTo e.toNat * i.den else n * i.den
  let s := if 0 ≤ e then 1 else tenTo (-e).toNat
  if i.closed then i.low * s ≤ a && a ≤ i.high * s else i.low * s < a && a < i.high * s

/-- The decimal exponent of the leading digit of a positive ratio. -/
def leadingExponent (num den : Nat) : Int :=
  let guess : Int := (((num.log2 : Int) - den.log2) * 30103) / 100000
  let fits (e : Int) : Bool := if 0 ≤ e then den * tenTo e.toNat ≤ num else den ≤ num * tenTo (-e).toNat
  if fits (guess + 1) then guess + 1 else if fits guess then guess else guess - 1

/-- The candidate of `n` digits, if a neighbour of the value on that grid lies in the interval. -/
def candidate? (i : Interval) (lead : Int) (n : Nat) : Option Decimal :=
  let e := lead - (n - 1 : Nat)
  let num := if 0 ≤ e then i.value else i.value * tenTo (-e).toNat
  let den := if 0 ≤ e then i.den * tenTo e.toNat else i.den
  let below := num / den
  let rest := num % den
  match i.holds below e && below != 0, i.holds (below + 1) e with
  | false, false => none
  | true, false => some ⟨below, e⟩
  | false, true => some ⟨below + 1, e⟩
  | true, true => some ⟨if 2 * rest < den ∨ (2 * rest = den ∧ below % 2 = 0) then below else below + 1, e⟩

/-- The first candidate among `n`, `n + 1`, … digits. -/
def firstCandidate (i : Interval) (lead : Int) : (fuel n : Nat) → Decimal
  | 0, _ => ⟨0, 0⟩
  | fuel + 1, n => (candidate? i lead n).getD (firstCandidate i lead fuel (n + 1))

/-- Moves trailing zeros into the exponent. -/
def stripZeros : (fuel : Nat) → Decimal → Decimal
  | 0, d => d
  | fuel + 1, d =>
    if d.digits ≠ 0 ∧ d.digits % 10 = 0 then stripZeros fuel ⟨d.digits / 10, d.exponent + 1⟩ else d

/-- The shortest decimal of a positive finite pattern. -/
def shortest (f : FloatFormat) (mantissa power : Nat) : Decimal :=
  let i := Interval.around f mantissa power
  stripZeros 20 (firstCandidate i (leadingExponent i.value i.den) 20 1)

end Decimal

/-! ## Decimal texts -/

/-- The decimal digits of a number. -/
def decimalDigits (n : Nat) : List Char := Nat.toDigits 10 n

/-- How a format writes floating-point values. -/
structure RealFormat where
  /-- The least decimal exponent of the leading digit that is written positionally. -/
  least : Int
  /-- The first decimal exponent of the leading digit that no longer is. -/
  limit : Int
  /-- A positive exponent carries a plus. -/
  plus : Bool
  nan : String
  infinity : String

/-- The digits around the point, with at least one on each side. -/
def Decimal.positional (d : Decimal) : List Char :=
  let digits := decimalDigits d.digits
  if 0 ≤ d.exponent then digits ++ List.replicate d.exponent.toNat '0' ++ ['.', '0']
  else
    let places := (-d.exponent).toNat
    if places < digits.length then
      digits.take (digits.length - places) ++ '.' :: digits.drop (digits.length - places)
    else '0' :: '.' :: (List.replicate (places - digits.length) '0' ++ digits)

/-- One digit before the point, an exponent after the others. -/
def Decimal.scientific (plus : Bool) (d : Decimal) : List Char :=
  let digits := decimalDigits d.digits
  let lead : Int := d.exponent + (digits.length - 1 : Nat)
  let mantissa := match digits with
    | [] => []
    | [c] => [c]
    | c :: rest => c :: '.' :: rest
  let sign := if lead < 0 then ['-'] else if plus then ['+'] else []
  mantissa ++ 'e' :: (sign ++ decimalDigits lead.natAbs)

/-- The text of a value in a format. -/
def RealFormat.write {f : FloatFormat} (format : RealFormat) (x : Floating f) : String :=
  match x.classify with
  | .nan => format.nan
  | .infinite s => (if s then "-" else "") ++ format.infinity
  | .finite s m p =>
    let sign := if s then ['-'] else []
    if m = 0 then .ofList (sign ++ ['0', '.', '0'])
    else
      let d := Decimal.shortest f m p
      let lead : Int := d.exponent + ((decimalDigits d.digits).length - 1 : Nat)
      .ofList (sign ++ if format.least ≤ lead ∧ lead < format.limit then d.positional
        else d.scientific format.plus)

/-- The form of messages: always positional. -/
def plainReal : RealFormat := ⟨-1000, 1000, false, "NaN", "inf"⟩

/-! ## Reading decimals -/

/-- Why a text is no floating-point value. -/
inductive RealFault where
  | empty
  | malformed
  deriving DecidableEq, Repr

/-- The wording of a fault. -/
def RealFault.message : RealFault → String
  | .empty => "cannot parse float from empty string"
  | .malformed => "invalid float literal"

/-- The value of a run of digits. -/
def digitsValue (cs : List Char) : Nat := cs.foldl (fun n c => n * 10 + (c.toNat - 48)) 0

/-- A character of the class of decimal digits. -/
def isDigit (c : Char) : Bool := '0' ≤ c && c ≤ '9'

/-- An optional sign, then digits to the end; the value is cut off where it no longer matters. -/
def readExponent? (cs : List Char) : Option Int :=
  let (negative, digits) := match cs with
    | '-' :: rest => (true, rest)
    | '+' :: rest => (false, rest)
    | _ => (false, cs)
  if digits.isEmpty || !digits.all isDigit then none
  else
    let significant := digits.dropWhile (· == '0')
    let size := if 9 < significant.length then 1000000000 else digitsValue significant
    some (if negative then -size else size)

/-- A decimal without its sign, as digits and exponent. -/
def readDecimal? (cs : List Char) : Option (Nat × Int) :=
  let whole := cs.takeWhile isDigit
  let rest := cs.dropWhile isDigit
  let (fraction, rest) := match rest with
    | '.' :: tail => (tail.takeWhile isDigit, tail.dropWhile isDigit)
    | _ => ([], rest)
  if whole.isEmpty && fraction.isEmpty then none
  else
    let digits := digitsValue (whole ++ fraction)
    match rest with
    | [] => some (digits, -(fraction.length : Int))
    | c :: tail =>
      if c = 'e' ∨ c = 'E' then (readExponent? tail).map fun e => (digits, e - fraction.length) else none

/-- Reads a signed decimal, an infinity or a NaN; letter case does not matter. -/
def readReal {f : FloatFormat} (s : String) : Except RealFault (Floating f) :=
  match s.toList with
  | [] => .error .empty
  | cs =>
    let (negative, body) := match cs with
      | '-' :: rest => (true, rest)
      | '+' :: rest => (false, rest)
      | _ => (false, cs)
    let word := String.ofList (body.map Char.toLower)
    if word = "inf" ∨ word = "infinity" then .ok (.infinity negative)
    else if word = "nan" then .ok (.quietNaN negative)
    else
      match readDecimal? body with
      | some (digits, exponent) => .ok (.ofDecimal negative digits exponent)
      | none => .error .malformed

end Switchyard
