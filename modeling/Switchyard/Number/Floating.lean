import Switchyard.Number.Power

/-!
# Binary floating-point values

A value is its bit pattern in an interchange format. Rounding a ratio to the nearest value of the format,
ties to the even neighbour, is exact arithmetic on natural numbers, and so are product and quotient.
-/

namespace Switchyard

/-- An interchange format: the widths of its fraction and exponent fields. -/
structure FloatFormat where
  fraction : Nat
  exponent : Nat
  deriving DecidableEq, Repr

/-- The format of 64 bits. -/
def binary64 : FloatFormat := ⟨52, 11⟩

/-- The format of 32 bits. -/
def binary32 : FloatFormat := ⟨23, 8⟩

namespace FloatFormat

/-- The exponent of the last bit of the smallest values, negated. -/
def depth (f : FloatFormat) : Nat := twoTo (f.exponent - 1) - 2 + f.fraction

/-- The pattern of positive infinity. -/
def infinityBits (f : FloatFormat) : Nat := (twoTo f.exponent - 1) * twoTo f.fraction

/-- The bit of the sign. -/
def signBit (f : FloatFormat) : Nat := twoTo (f.fraction + f.exponent)

end FloatFormat

/-- A value of a format, as its bit pattern. -/
structure Floating (f : FloatFormat) where
  bits : Nat
  deriving DecidableEq, Repr

/-- A value of 64 bits. -/
abbrev Binary64 := Floating binary64

/-- A value of 32 bits. -/
abbrev Binary32 := Floating binary32

/-- What a pattern stands for: a finite value is `mantissa * 2 ^ (power - depth)`. -/
inductive FloatClass where
  | nan
  | infinite (negative : Bool)
  | finite (negative : Bool) (mantissa power : Nat)
  deriving DecidableEq, Repr

/-- A quotient rounded to the nearest natural number, a tie to the even one. -/
def roundHalfEven (num den : Nat) : Nat :=
  let q := num / den
  let r := num % den
  if 2 * r < den then q
  else if den < 2 * r then q + 1
  else if q % 2 = 0 then q else q + 1

namespace Floating

variable {f : FloatFormat}

/-- Takes a pattern apart. -/
def classify (x : Floating f) : FloatClass :=
  let negative := x.bits / f.signBit % 2 = 1
  let exponent := x.bits / twoTo f.fraction % twoTo f.exponent
  let fraction := x.bits % twoTo f.fraction
  if exponent = twoTo f.exponent - 1 then
    if fraction = 0 then .infinite negative else .nan
  else if exponent = 0 then .finite negative fraction 0
  else .finite negative (fraction + twoTo f.fraction) (exponent - 1)

/-- Neither infinite nor a NaN. -/
def isFinite (x : Floating f) : Bool :=
  match x.classify with
  | .finite .. => true
  | _ => false

/-- Either zero. -/
def isZero (x : Floating f) : Bool := x.bits % f.signBit = 0

/-- Whether two patterns stand for equal numbers: the zeros do, a NaN equals nothing. -/
def sameValue (x y : Floating f) : Bool :=
  match x.classify, y.classify with
  | .nan, _ | _, .nan => false
  | _, _ => x.bits == y.bits || (x.isZero && y.isZero)

/-- The pattern with the sign set or not. -/
def withSign (negative : Bool) (magnitude : Nat) : Floating f :=
  ⟨if negative then f.signBit + magnitude else magnitude⟩

/-- The value with the other sign. -/
def neg (x : Floating f) : Floating f :=
  ⟨if x.bits / f.signBit % 2 = 1 then x.bits - f.signBit else x.bits + f.signBit⟩

/-- Infinity of a sign. -/
def infinity (negative : Bool) : Floating f := withSign negative f.infinityBits

/-- The quiet NaN of a sign. -/
def quietNaN (negative : Bool) : Floating f := withSign negative (f.infinityBits + twoTo (f.fraction - 1))

/-- The magnitude pattern nearest to `num / den`, infinity from the first ratio that rounds past the
greatest finite value. -/
def magnitudeOfRatio (f : FloatFormat) (num den : Nat) : Nat :=
  if num = 0 then 0
  else
    -- `shift` is the exponent that leaves one bit more than the fraction before the point
    let guess : Int := (num.log2 : Int) - den.log2 - f.fraction
    let low := if 0 ≤ guess then den * twoTo (guess.toNat + f.fraction) ≤ num
      else den * twoTo f.fraction ≤ num * twoTo (-guess).toNat
    let shift : Int := if low then guess else guess - 1
    let power : Nat := (shift + f.depth).toNat
    let scale : Int := (power : Int) - f.depth
    let mantissa := if 0 ≤ scale then roundHalfEven num (den * twoTo scale.toNat)
      else roundHalfEven (num * twoTo (-scale).toNat) den
    min (power * twoTo f.fraction + mantissa) f.infinityBits

/-- The value nearest to a signed ratio. -/
def ofRatio (negative : Bool) (num den : Nat) : Floating f :=
  withSign negative (magnitudeOfRatio f num den)

/-- The value nearest to `digits * 10 ^ exponent`; exponents far outside the format are not expanded. -/
def ofDecimal (negative : Bool) (digits : Nat) (exponent : Int) : Floating f :=
  let size : Int := (digits.log2 : Int) / 4 + exponent
  if digits = 0 then withSign negative 0
  else if 400 < size then infinity negative
  else if (digits.log2 : Int) + exponent < -400 then withSign negative 0
  else if 0 ≤ exponent then ofRatio negative (digits * tenTo exponent.toNat) 1
  else ofRatio negative digits (tenTo (-exponent).toNat)

/-- The value nearest to an integer. -/
def ofNat (n : Nat) : Floating f := ofRatio false n 1

/-- The magnitude of a finite pattern as a ratio. -/
def ratio (f : FloatFormat) (mantissa power : Nat) : Nat × Nat :=
  if f.depth ≤ power then (mantissa * twoTo (power - f.depth), 1) else (mantissa, twoTo (f.depth - power))

/-- The product of two values that are not NaN and not an infinity with a zero. -/
def mul (x y : Floating f) : Floating f :=
  match x.classify, y.classify with
  | .finite s m p, .finite t n q =>
    let a := ratio f m p
    let b := ratio f n q
    ofRatio (s != t) (a.1 * b.1) (a.2 * b.2)
  | .infinite s, .finite t _ _ | .finite s _ _, .infinite t | .infinite s, .infinite t => infinity (s != t)
  | _, _ => quietNaN false

/-- The quotient of two finite values, the second not zero. -/
def div (x y : Floating f) : Floating f :=
  match x.classify, y.classify with
  | .finite s m p, .finite t n q =>
    let a := ratio f m p
    let b := ratio f n q
    ofRatio (s != t) (a.1 * b.2) (a.2 * b.1)
  | .infinite s, .finite t _ _ => infinity (s != t)
  | .finite s _ _, .infinite t => withSign (s != t) 0
  | _, _ => quietNaN false

/-- The same value in another format, rounded if it has to be. -/
def convert {g : FloatFormat} (x : Floating f) : Floating g :=
  match x.classify with
  | .nan => quietNaN (x.bits / f.signBit % 2 = 1)
  | .infinite s => infinity s
  | .finite s m p => ofRatio s (ratio f m p).1 (ratio f m p).2

end Floating

end Switchyard
