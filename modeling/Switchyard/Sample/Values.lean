import Switchyard.Application.Basic
import Switchyard.Binding.Param
import Switchyard.Controller.Reader
import Switchyard.Http.Result
import Switchyard.Sample.Services

/-!
# Values of the sample applications

What the methods of the samples take and return. A returned value may execute itself, as a result or as a
message, and may be a document; one that executes itself is not written as a document.
-/

namespace Switchyard.Sample

/-! ## Taken -/

/-- A value that a method takes. -/
inductive Value where
  | param (value : ParamValue)
  | note (title : String) (words : Bounded .u32)
  | book (title : String)
  | command (op : String)

/-- The parameter type of a type's name. -/
def paramType? (type : Code.TypeExpr) : Option ParamType :=
  match type.name? with
  | some "String" => some .string
  | some name => ParamType.ofName? name
  | none => none

/-- Reads a text as a value of a type. -/
def readValue (type : Code.TypeExpr) : TextReader Value := fun text =>
  match paramType? type with
  | some t => (t.read text).map .param
  | none => .error "not a parameter type"

/-- The fields of a record with a text alone. -/
def textField (name : String) : Json.Fields (String × Unit) := .cons { name := name } .nil

/-- The fields of a new note. -/
def noteFields : Json.Fields (String × Bounded .u32 × Unit) := .cons { name := "title" } <| .cons { name := "words" } .nil

/-- Reads a document as a record of some name. -/
def decodeRecord {α : Type} (name : String) (fields : Json.Fields α) (make : α → Value) (v : Json) :
    Except String Value :=
  ((fields.record name).decode v |>.map make).mapError Json.Mismatch.message

/-- Reads a document as a value of a type. -/
def decodeValue (type : Code.TypeExpr) (v : Json) : Except String Value :=
  match type.name? with
  | some "NewNote" => decodeRecord "NewNote" noteFields (fun (title, words, _) => .note title words) v
  | some "Book" => decodeRecord "Book" (textField "title") (fun (title, _) => .book title) v
  | some "Command" => decodeRecord "Command" (textField "op") (fun (op, _) => .command op) v
  | _ => .error "not a document type"

/-! ## Returned -/

/-- A value that a method returns. -/
structure Reply where
  /-- What it does as a result of an action. -/
  execution : Option Execution := none
  /-- What it does as a result of a handler. -/
  sending : Option Session.Sending := none
  document : Except Json.EncodeFault Json := .ok .null

namespace Reply

/-- A value that is a document. -/
def ofJson (v : Json) : Reply := { document := .ok v }

/-- A text. -/
def text (s : String) : Reply := .ofJson (.string s)

/-- A result of an action. -/
def action (r : ActionResult) : Reply := { execution := some r.execute }

/-- A result of a handler. -/
def message (r : SocketResult) : Reply := { sending := some r.execute }

/-- Nothing. -/
def nothing : Reply := {}

/-- Executes a value that an action returned. -/
def execute (_ : Shape) (r : Reply) : Execution := executeUnmarked r.execution r.document

/-- Executes a value that a handler returned. -/
def send (_ : Shape) (r : Reply) (ctx : EventContext) : Except HttpError Unit × EventContext :=
  ctx.send (r.sending.getD (SocketResult.document r.document).execute)

end Reply

/-! ## Methods -/

/-- What a method of the samples does. -/
abbrev ActionCall := Effect HttpContext Services Reply
abbrev HandlerCall := Effect EventContext Services Reply

/-- The arguments of a method. -/
abbrev Arguments := List (CallArgument Value)

/-- Returns a value, whatever the context and the state are. -/
def returning {C : Type} (r : Reply) : Effect C Services Reply := fun ctx s => (.ok r, ctx, s)

/-- Fails. -/
def failing {C : Type} (e : HttpError) : Effect C Services Reply := fun ctx s => (.error e, ctx, s)

/-- What is called with arguments that it does not take, or is not there, fails. -/
def unknownMethod {C : Type} (name : String) : Effect C Services Reply :=
  failing (.internal s!"no method {name} takes these arguments")

/-- A controller that is declared by its options and its block. -/
structure Declaration where
  options : String
  block : List String

/-- The controller of a declaration. -/
def Declaration.controller? (d : Declaration) : Except Controller.ReadError Controller :=
  Controller.ofTexts d.options ("\n".intercalate d.block)

/-- The value of a parameter as a document; an integer that does not fit is null. -/
def paramJson (v : ParamValue) : Json := v.document.toOption.getD .null

/-- An optional parameter as a document. -/
def optionJson : Option Value → Json
  | some (.param v) => paramJson v
  | _ => .null

/-- A parameter as a document. -/
def valueJson (v : Value) : Json := optionJson (some v)

end Switchyard.Sample
