import Switchyard.Json.Pointer
import Switchyard.Json.Printer
import Switchyard.Text.Utf8

/-!
# Paths into documents

A path names members and items, separated by points and brackets. A last segment `len()` asks for the size
of what the rest of the path names.
-/

namespace Switchyard.Json

/-- A character between segments. -/
def isPathMark (c : Char) : Bool := c == '.' || c == '[' || c == ']'

/-- The segments of a path. -/
def pathSegments (cs : List Char) : List (List Char) := (splitAll isPathMark cs).filter (!·.isEmpty)

/-- What asks for a size. -/
def sizeCall : List Char := ['l', 'e', 'n', '(', ')']

/-- The value that a path names; one that is not there is null. -/
def valueAt (root : Json) (path : List Char) : Json := (root.pointer? (pointerOf (pathSegments path))).getD .null

/-- Resolves a path. The size of a text is the number of its bytes; a value without a size is an error. -/
def resolvePath (root : Json) (path : String) : Except String Json :=
  match beforeEnd? sizeCall path.toList with
  | none => .ok (root.valueAt path.toList)
  | some rest =>
    let rest := (rest.reverse.dropWhile (· == '.')).reverse
    match root.valueAt rest with
    | .array items => .ok (.integer items.length)
    | .object members => .ok (.integer members.length)
    | .string s => .ok (.integer s.utf8ByteSize)
    | v => .error s!"`{String.ofList rest}` is {v.compact}, which has no length"

end Switchyard.Json
