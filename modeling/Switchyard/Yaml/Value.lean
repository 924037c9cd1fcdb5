import Switchyard.Yaml.Node
import Switchyard.Number.Decimal

/-!
# Values

What the nodes of a document stand for. A plain scalar reads as null, a truth value or a number if it is
written like one, and as a text otherwise; a tag may ask for one of these. The keys of a mapping are distinct,
nesting is limited, and so is how often references are followed.
-/

namespace Switchyard.Yaml

/-- A value. -/
inductive Value where
  | null
  | bool (b : Bool)
  | int (n : Int)
  | real (x : Binary64)
  | text (s : String)
  | sequence (items : List Value)
  | mapping (entries : List (Value × Value))
  | tagged (tag : String) (value : Value)

namespace Value

/-- A value without its tags. -/
def untagged : Value → Value
  | .tagged _ v => v.untagged
  | v => v

mutual

/-- Whether two values count as the same key. -/
def same : Value → Value → Bool
  | .null, .null => true
  | .bool a, .bool b => a == b
  | .int a, .int b => a == b
  | .real a, .real b => a.sameValue b || (a.classify == .nan && b.classify == .nan)
  | .text a, .text b => a == b
  | .sequence a, .sequence b => sameItems a b
  | .mapping a, .mapping b => a.length == b.length && sameEntries a b
  | .tagged s a, .tagged t b => s == t && same a b
  | _, _ => false

/-- Whether two lists hold the same values in the same order. -/
def sameItems : List Value → List Value → Bool
  | [], [] => true
  | a :: as, b :: bs => same a b && sameItems as bs
  | _, _ => false

/-- Whether every entry of one mapping is among those of another. -/
def sameEntries : List (Value × Value) → List (Value × Value) → Bool
  | [], _ => true
  | (k, v) :: rest, entries => entries.any (fun e => same k e.1 && same v e.2) && sameEntries rest entries

end

/-- Whether a key is among those of some entries. -/
def hasKey (k : Value) (entries : List (Value × Value)) : Bool := entries.any fun e => same k e.1

end Value

/-! ## Plain scalars -/

/-- The value of digits in a base, at least one. -/
def digitsInBase? (base : Nat) (cs : List Char) : Option Nat :=
  if cs.isEmpty then none
  else cs.foldlM (fun n c => (hexValue? c).bind fun d => if d < base then some (n * base + d) else none) 0

/-- The base of a mark in front of digits. -/
def baseOf? : List Char → Option (Nat × List Char)
  | '0' :: 'x' :: rest => some (16, rest)
  | '0' :: 'o' :: rest => some (8, rest)
  | '0' :: 'b' :: rest => some (2, rest)
  | _ => none

/-- A zero in front of more digits, which makes a text of them. -/
def hasLeadingZero (cs : List Char) : Bool :=
  let body := match cs with
    | '-' :: rest | '+' :: rest => rest
    | _ => cs
  match body with
  | '0' :: rest => !rest.isEmpty && rest.all isDigit
  | _ => false

/-- Digits with their base, or decimal ones. -/
def magnitude? (cs : List Char) : Option Nat :=
  match baseOf? cs with
  | some (base, rest) => digitsInBase? base rest
  | none => digitsInBase? 10 cs

/-- The integer that a plain scalar is written like, of any size. -/
def integer? (cs : List Char) : Option Int :=
  if hasLeadingZero cs then none
  else
    match cs with
    | '-' :: rest => (magnitude? rest).map fun n => -(n : Int)
    | '+' :: rest => (magnitude? rest).map fun n => (n : Int)
    | _ => (magnitude? cs).map fun n => (n : Int)

/-- How an integer is kept. -/
inductive IntegerReading where
  | value (n : Int)
  /-- An integer that is kept only in more than 64 bits. -/
  | wide
  /-- No integer, or one that is far too large. -/
  | none
  deriving DecidableEq, Repr

/-- Reads an integer by its size. -/
def readInteger (cs : List Char) : IntegerReading :=
  match integer? cs with
  | .none => .none
  | some n =>
    if -(twoTo 63) ≤ n ∧ n < twoTo 64 then .value n else if -(twoTo 127) ≤ n ∧ n < twoTo 128 then .wide else .none

/-- The null values. -/
def isNull (s : String) : Bool := ["null", "Null", "NULL", "~"].contains s

/-- The truth value of a word. -/
def truth? (s : String) : Option Bool :=
  if ["true", "True", "TRUE"].contains s then some true
  else if ["false", "False", "FALSE"].contains s then some false
  else none

/-- The floating-point value that a plain scalar is written like; it is finite unless it is one of the names. -/
def real? (s : String) : Option Binary64 :=
  let plus := s.toList.head? == some '+'
  let body := if plus then String.ofList (s.toList.drop 1) else s
  if plus && (body.toList.head?.any fun c => c == '+' || c == '-') then none
  else if [".inf", ".Inf", ".INF"].contains body then some (.infinity false)
  else if ["-.inf", "-.Inf", "-.INF"].contains s then some (.infinity true)
  else if [".nan", ".NaN", ".NAN"].contains s then some (.quietNaN false)
  else
    match readReal body with
    | .ok x => if x.isFinite then some x else none
    | .error _ => none

/-- What a plain scalar without a tag stands for. -/
def plainValue (s : String) : Option Value :=
  if s.isEmpty || isNull s then some .null
  else
    match truth? s with
    | some b => some (.bool b)
    | none =>
      match readInteger s.toList with
      | .value n => some (.int n)
      | .wide => none
      | .none =>
        if hasLeadingZero s.toList then some (.text s)
        else
          match real? s with
          | some x => some (.real x)
          | none => some (.text s)

/-- The beginning of the tags that every document knows. -/
def coreTag (name : String) : String := "tag:yaml.org,2002:" ++ name

/-- What a scalar stands for; `tag` is not one of those that name a variant. -/
def scalarValue (tag : Option String) (text : String) (plain : Bool) : Option Value :=
  match tag with
  | none => if plain then plainValue text else some (.text text)
  | some t =>
    if t = coreTag "bool" then (truth? text).map .bool
    else if t = coreTag "int" then
      match readInteger text.toList with
      | .value n => some (.int n)
      | _ => none
    else if t = coreTag "float" then (real? text).map .real
    else if t = coreTag "null" then if isNull text then some .null else none
    else some (.text text)

/-- The name of a tag that names a variant. -/
def variantTag? (tag : Option String) : Option String :=
  match tag.map String.toList with
  | some ['!'] => some "!"
  | some ('!' :: rest) => some (.ofList rest)
  | _ => none

/-- Puts the tag of a variant around a value. -/
def withVariant (tag : Option String) (v : Value) : Value :=
  match variantTag? tag with
  | some name => .tagged name v
  | none => v

/-- What a scalar stands for, under the tag of a variant if it has one. -/
def taggedScalar (tag : Option String) (text : String) (plain : Bool) : Option Value :=
  let bare := if (variantTag? tag).isSome then none else tag
  (scalarValue bare text plain).map (withVariant tag)

/-! ## Documents -/

/-- How deeply collections may be nested. -/
def nestingLimit : Nat := 128

/-- The node that a reference leads to. How many references have been followed is counted and limited. -/
def Document.follow (d : Document) : Node → StateT Nat Option Node
  | .alias id => fun jumps =>
    if d.size * 100 < jumps + 1 then none else (d.target? id).map fun target => (target, jumps + 1)
  | n => pure n

/-- Reads one entry of a mapping after others, whose keys it may not repeat. -/
def readEntry (value : Node → StateT Nat Option Value) (read : List (Value × Value)) :
    Node × Node → StateT Nat Option (List (Value × Value))
  | (k, v) => do
    let key ← value k
    if key.hasKey read then failure
    else
      let value ← value v
      return (key, value) :: read

/-- The value of a node inside of a document; `depth` is how many collections may still be entered, and the
state counts the references followed so far. -/
def nodeValue (d : Document) (depth : Nat) (n : Node) : StateT Nat Option Value := do
  match ← d.follow n with
  | .alias _ => failure
  | .scalar _ tag text plain => StateT.lift (taggedScalar tag text plain)
  | .sequence _ tag items =>
    match depth with
    | 0 => failure
    | depth + 1 => return withVariant tag (.sequence (← items.mapM (nodeValue d depth)))
  | .mapping _ tag entries =>
    match depth with
    | 0 => failure
    | depth + 1 =>
      return withVariant tag (.mapping (← entries.foldlM (readEntry (nodeValue d depth)) []).reverse)

/-- The value of a document; without one it is null. -/
def Document.value? (d : Document) : Option Value :=
  match d.root with
  | none => some .null
  | some n => (nodeValue d nestingLimit n 0).map (·.1)

/-- Whether a text is one document that has a value. -/
def isWellFormed (text : String) : Bool := ((document? text).bind (·.value?)).isSome

end Switchyard.Yaml
