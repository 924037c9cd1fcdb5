import Switchyard.Text.Blank

/-!
# Paths of routes

A path is a controller's prefix joined with a template. The parts of a template in braces name what it
captures.
-/

namespace Switchyard

/-- A prefix and a template with exactly one slash between them; together they are never empty. -/
def joinPath (base template : String) : String :=
  let before := trimEndChars (· == '/') base.toList
  let after := template.toList.dropWhile (· == '/')
  match before, after with
  | [], [] => "/"
  | [], _ => .ofList ('/' :: after)
  | _, [] => .ofList before
  | _, _ => .ofList (before ++ '/' :: after)

/-- The name between braces: leading stars only mark what is captured. -/
def captureName (inside : List Char) : List Char := inside.dropWhile (· == '*')

/-- The names between braces, from left to right; a brace that is never closed ends the search. -/
def templateNames : (fuel : Nat) → List Char → List String
  | 0, _ => []
  | fuel + 1, cs =>
    match cs.dropWhile (· != '{') with
    | [] => []
    | _ :: inside =>
      match inside.dropWhile (· != '}') with
      | [] => []
      | _ :: rest =>
        let name := captureName (inside.takeWhile (· != '}'))
        let names := templateNames fuel rest
        if name.isEmpty then names else .ofList name :: names

/-- The names that a template captures. -/
def templateParams (template : String) : List String :=
  templateNames (template.length + 1) template.toList

/-- Whether a template captures a name. -/
def captures (template name : String) : Bool := (templateParams template).contains name

end Switchyard
