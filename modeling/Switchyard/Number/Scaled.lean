import Switchyard.Number.Integer
import Switchyard.Number.Decimal

/-!
# Numbers of any size

Integers without bounds, whose digits may be grouped by underscores, and decimals held as an integer and
the number of its places.
-/

namespace Switchyard

/-! ## Integers -/

/-- Why a text is no number of any size. -/
inductive NumeralFault where
  | integer (fault : IntegerFault)
  | empty
  | exponentOverflow (text : String)
  deriving DecidableEq, Repr

/-- The wording of a fault. -/
def NumeralFault.message : NumeralFault → String
  | .integer fault => fault.message
  | .empty => "Failed to parse empty string"
  | .exponentOverflow text => s!"Exponent overflow when parsing '{text}'"

/-- Appends digits to a value; underscores are skipped. -/
def readGrouped (value : Nat) : List Char → Except NumeralFault Nat
  | [] => .ok value
  | c :: rest =>
    if c = '_' then readGrouped value rest
    else
      match digitValue? c with
      | some d => readGrouped (value * 10 + d) rest
      | none => .error (.integer .invalidDigit)

/-- Digits after an optional plus; the first must not be an underscore. -/
def readMagnitude (cs : List Char) : Except NumeralFault Nat :=
  let digits := match cs with
    | '+' :: '+' :: _ => cs
    | '+' :: rest => rest
    | _ => cs
  match digits with
  | [] => .error (.integer .empty)
  | '_' :: _ => .error (.integer .invalidDigit)
  | _ => readGrouped 0 digits

/-- An integer after an optional minus; no plus may follow the minus. -/
def readBigInteger (cs : List Char) : Except NumeralFault Int :=
  match cs with
  | '-' :: '+' :: _ => .error (.integer .invalidDigit)
  | '-' :: rest => (readMagnitude rest).map fun n => -(n : Int)
  | _ => (readMagnitude cs).map Int.ofNat

/-- The digits of a number to the base `2 ^ 32`, the least first; zero has none. -/
def wordsOf : (fuel : Nat) → Nat → List Nat
  | 0, _ => []
  | fuel + 1, n => if n = 0 then [] else n % twoTo 32 :: wordsOf fuel (n / twoTo 32)

/-- The digits of a number to the base `2 ^ 32`. -/
def words (n : Nat) : List Nat := wordsOf (n.log2 / 32 + 1) n

/-- The decimal text of an integer. -/
def integerText (n : Int) : String :=
  .ofList (if n < 0 then '-' :: decimalDigits n.natAbs else decimalDigits n.natAbs)

/-! ## Decimals -/

/-- The number `unscaled / 10 ^ scale`. -/
structure Scaled where
  unscaled : Int
  scale : Int
  deriving DecidableEq, Repr

namespace Scaled

/-- Cuts a text at the letter of its exponent. -/
def splitExponent (cs : List Char) : List Char × Option (List Char) :=
  let isLetter (c : Char) : Bool := c == 'e' || c == 'E'
  match cs.dropWhile (!isLetter ·) with
  | [] => (cs, none)
  | _ :: exponent => (cs.takeWhile (!isLetter ·), some exponent)

/-- The digits on both sides of the first point, and how many of them come after it; a point at the end
counts for nothing. -/
def splitPoint (base : List Char) : List Char × Nat :=
  match base.dropWhile (· != '.') with
  | [] => (base, 0)
  | _ :: trail =>
    let lead := base.takeWhile (· != '.')
    (lead ++ trail, (trail.filter (· != '_')).length)

/-- Reads a decimal with an optional exponent. -/
def read (s : String) : Except NumeralFault Scaled :=
  let (base, exponent) := splitExponent s.toList
  let exponent : Except NumeralFault Int := match exponent with
    | none => .ok 0
    | some cs => (IntegerType.i128.readChars cs).mapError NumeralFault.integer
  match exponent with
  | .error e => .error e
  | .ok exponent =>
    if base.isEmpty then .error .empty
    else
      let (digits, places) := splitPoint base
      let scale : Int := places - exponent
      if ¬ IntegerType.i64.Contains scale then .error (.exponentOverflow s)
      else
        match readBigInteger digits with
        | .error e => .error e
        | .ok n => .ok ⟨n, scale⟩

/-- One digit before the point and a negative exponent. -/
def scientific (digits : List Char) (scale : Int) : List Char :=
  let exponent : Int := (digits.length - 1 : Nat) - scale
  let mantissa := match digits with
    | c :: d :: rest => c :: '.' :: d :: rest
    | _ => digits
  let sign := if exponent < 0 then '-' else '+'
  mantissa ++ 'E' :: sign :: decimalDigits exponent.natAbs

/-- All digits, with zeros up to the point or after it. -/
def positional (digits : List Char) (scale : Int) : List Char :=
  if scale ≤ 0 then digits ++ List.replicate scale.natAbs '0'
  else
    let places := scale.natAbs
    if places < digits.length then
      digits.take (digits.length - places) ++ '.' :: digits.drop (digits.length - places)
    else '0' :: '.' :: (List.replicate (places - digits.length) '0' ++ digits)

/-- The text of a decimal: more than five zeros after the point, or more than fifteen before it, are
written as an exponent. -/
def text (d : Scaled) : String :=
  let digits := decimalDigits d.unscaled.natAbs
  if d.unscaled = 0 then "0"
  else
    let sign := if d.unscaled < 0 then ['-'] else []
    .ofList <| sign ++
      if 5 < d.scale - digits.length then scientific digits d.scale
      else if 15 < -d.scale then digits ++ 'e' :: '+' :: decimalDigits d.scale.natAbs
      else positional digits d.scale

end Scaled

end Switchyard
