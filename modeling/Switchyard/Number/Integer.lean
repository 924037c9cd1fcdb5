import Switchyard.Number.Power
import Switchyard.Text.Blank

/-!
# Fixed-width integers

An integer type is a width and a signedness. Reading a text goes digit by digit and stops at the first
fault, so of two faults in one text the one further left is reported.
-/

namespace Switchyard

/-- An integer type of a given width. -/
structure IntegerType where
  signed : Bool
  bits : Nat
  deriving DecidableEq, Repr

namespace IntegerType

/-- The least value of the type. -/
def least (t : IntegerType) : Int := if t.signed then -(twoTo (t.bits - 1)) else 0

/-- The greatest value of the type. -/
def greatest (t : IntegerType) : Int := if t.signed then twoTo (t.bits - 1) - 1 else twoTo t.bits - 1

/-- A value of the type. -/
def Contains (t : IntegerType) (n : Int) : Prop := t.least ≤ n ∧ n ≤ t.greatest

instance (t : IntegerType) (n : Int) : Decidable (t.Contains n) := inferInstanceAs (Decidable (_ ∧ _))

/-- Signed types of the usual widths. -/
def i8 : IntegerType := ⟨true, 8⟩
def i16 : IntegerType := ⟨true, 16⟩
def i32 : IntegerType := ⟨true, 32⟩
def i64 : IntegerType := ⟨true, 64⟩
def i128 : IntegerType := ⟨true, 128⟩

/-- Unsigned types of the usual widths. -/
def u8 : IntegerType := ⟨false, 8⟩
def u16 : IntegerType := ⟨false, 16⟩
def u32 : IntegerType := ⟨false, 32⟩
def u64 : IntegerType := ⟨false, 64⟩
def u128 : IntegerType := ⟨false, 128⟩

/-- The name of the type, a sign letter and the width. -/
def name (t : IntegerType) : String := (if t.signed then "i" else "u") ++ toString t.bits

end IntegerType

/-- A value of an integer type, with its bounds. -/
structure Bounded (t : IntegerType) where
  val : Int
  inRange : t.Contains val
  deriving DecidableEq

/-- Why a text is no value of an integer type. -/
inductive IntegerFault where
  | empty
  | invalidDigit
  | tooLarge
  | tooSmall
  deriving DecidableEq, Repr

/-- The wording of a fault. -/
def IntegerFault.message : IntegerFault → String
  | .empty => "cannot parse integer from empty string"
  | .invalidDigit => "invalid digit found in string"
  | .tooLarge => "number too large to fit in target type"
  | .tooSmall => "number too small to fit in target type"

/-- The value of a decimal digit. -/
def digitValue? (c : Char) : Option Nat :=
  if '0' ≤ c ∧ c ≤ '9' then some (c.toNat - 48) else none

namespace IntegerType

/-- Appends digits to a non-negative value, never passing the greatest one. -/
def readUp (t : IntegerType) (value : Int) : List Char → Except IntegerFault Int
  | [] => .ok value
  | c :: rest =>
    match digitValue? c with
    | none => .error .invalidDigit
    | some d =>
      let next := value * 10 + d
      if next ≤ t.greatest then readUp t next rest else .error .tooLarge

/-- Appends digits to a value at most zero, never passing the least one. -/
def readDown (t : IntegerType) (value : Int) : List Char → Except IntegerFault Int
  | [] => .ok value
  | c :: rest =>
    match digitValue? c with
    | none => .error .invalidDigit
    | some d =>
      let next := value * 10 - d
      if t.least ≤ next then readDown t next rest else .error .tooSmall

/-- Reads an optional sign and at least one digit; only a signed type knows the minus. -/
def readChars (t : IntegerType) : List Char → Except IntegerFault Int
  | [] => .error .empty
  | ['+'] => .error .invalidDigit
  | ['-'] => .error .invalidDigit
  | '+' :: digits => t.readUp 0 digits
  | '-' :: digits => if t.signed then t.readDown 0 digits else .error .invalidDigit
  | digits => t.readUp 0 digits

/-- Reads a whole text. -/
def read (t : IntegerType) (s : String) : Except IntegerFault Int := t.readChars s.toList

end IntegerType

end Switchyard
