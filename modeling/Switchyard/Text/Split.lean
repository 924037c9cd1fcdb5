/-!
# Cutting texts

Segments between separators, and the two sides of the first separator.
-/

namespace Switchyard

/-- The segments between the elements that `sep` holds of; there is one more than there are separators. -/
def splitAll {α : Type} (sep : α → Bool) : List α → List (List α)
  | [] => [[]]
  | c :: rest =>
    if sep c then [] :: splitAll sep rest
    else
      match splitAll sep rest with
      | [] => [[c]]
      | first :: others => (c :: first) :: others

/-- What stands before and after the first element that `sep` holds of. -/
def splitFirst? {α : Type} (sep : α → Bool) : List α → Option (List α × List α)
  | [] => none
  | c :: rest =>
    if sep c then some ([], rest)
    else (splitFirst? sep rest).map fun (before, after) => (c :: before, after)

/-- What follows `start`, if the list begins with it. -/
def afterStart? {α : Type} [BEq α] : (start : List α) → List α → Option (List α)
  | [], rest => some rest
  | _ :: _, [] => none
  | a :: start, b :: rest => if a == b then afterStart? start rest else none

/-- What precedes `tail`, if the list ends with it. -/
def beforeEnd? {α : Type} [BEq α] (tail : List α) (cs : List α) : Option (List α) :=
  (afterStart? tail.reverse cs.reverse).map List.reverse

/-- The texts joined with a separator between neighbours. -/
def joinWith (sep : String) : List String → String
  | [] => ""
  | [s] => s
  | s :: rest => s ++ sep ++ joinWith sep rest

end Switchyard
