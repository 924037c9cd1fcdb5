import Switchyard.Program.Basic
import Switchyard.Controller.Table
import Switchyard.Text.Quoted

/-!
# Programs as text

The words of generated code. A variable is a word of its own, which tells whether it is bound or used there,
so that scopes can be read off the words.
-/

namespace Switchyard

open Code

/-- A variable of generated code. -/
inductive Variable where
  | state
  | request
  | context
  | injector
  | controller
  | before (index : Nat)
  | after (index : Nat)
  | beforeContext
  | afterContext
  | argument (index : Nat)
  | message
  | binder
  | collected
  | result
  | outcome
  | remaining
  | error
  deriving DecidableEq, Repr

/-- The name of a variable. -/
def Variable.name : Variable → String
  | .state => "__state"
  | .request => "__request"
  | .context => "__ctx"
  | .injector => "__injector"
  | .controller => "__ctrl"
  | .before n => s!"__before_{n}"
  | .after n => s!"__after_{n}"
  | .beforeContext => "__bctx"
  | .afterContext => "__actx"
  | .argument n => s!"__arg_{n}"
  | .message => "__message"
  | .binder => "__binder"
  | .collected => "__values"
  | .result => "__result"
  | .outcome => "__outcome"
  | .remaining => "__remaining"
  | .error => "__error"

/-- A word of generated code. -/
inductive Word where
  | text (text : String)
  | bind (v : Variable)
  | use (v : Variable)
  deriving DecidableEq, Repr

/-- The piece of a word. -/
def Word.piece : Word → String
  | .text s => s
  | .bind v => v.name
  | .use v => v.name

/-- The words of a phrase in which they are separated by spaces. -/
def say (phrase : String) : List Word := (splitAll (· == ' ') phrase.toList).map fun cs => .text (.ofList cs)

/-- Pieces as words. -/
def quote (pieces : Pieces) : List Word := pieces.map .text

/-- Words with a separator after each but the last. -/
def between (separator : List Word) : List (List Word) → List Word
  | [] => []
  | [one] => one
  | one :: rest => one ++ separator ++ between separator rest

/-- What the code of a controller refers to. -/
structure Scope where
  /-- The path of the library. -/
  root : Pieces
  state : Pieces
  /-- The type and the name of the controller. -/
  type : Pieces
  controller : String
  /-- The name of the method. -/
  method : String

namespace Scope

/-- A path of the library. -/
def path (s : Scope) (phrase : String) : List Word := quote s.root ++ say (": : " ++ phrase)

/-- The literals of the controller's and the method's name. -/
def controllerLiteral (s : Scope) : Word := .text (literal s.controller)
def methodLiteral (s : Scope) : Word := .text (literal s.method)

/-- A line of the log, with its level and what it says after its names. -/
def logging (s : Scope) (level : String) (rest : List Word) : List Word :=
  s.path ("__private : : tracing : : " ++ level) ++ say "! ( controller =" ++ [s.controllerLiteral]
    ++ say ", action =" ++ [s.methodLiteral, .text ","] ++ rest ++ say ") ;"

/-- Answers the error at hand. -/
def answerError (s : Scope) : List Word :=
  say "return" ++ s.path "http : : IntoResponse : : into_response (" ++ [.use .error] ++ say ")"

end Scope

/-! ## Invocations -/

/-- The words of a source. -/
def sourceWords (s : Scope) (source : Source) : List Word :=
  s.path ("binding : : Source : : " ++ match source with
    | .path => "Path"
    | .query => "Query"
    | .header => "Header"
    | .cookie => "Cookie"
    | .message => "Message")

/-- The words that bind a value by a plan. -/
def planWords (s : Scope) (plan : BindingPlan) : List Word :=
  let bind (how : String) : List Word :=
    s.path ("binding : : ModelBinder : : " ++ how ++ " : : <") ++ quote plan.element.pieces ++ say "> ( &"
      ++ [.use .binder] ++ say ", & [" ++ between [.text ","] (plan.sources.map (sourceWords s))
      ++ say "] ," ++ [.text (literal plan.key)] ++ say ") ?"
  let many (nullable : Bool) : String := if nullable then "bind_nullable_many" else "bind_many"
  let collect : List Word := say "collect : : <" ++ quote ((plan.collection.map TypeExpr.pieces).getD [])
    ++ say "> ( )"
  match plan.arity with
  | .scalar => bind "bind_required"
  | .optional => bind "bind_optional"
  | .collection nullable =>
    bind (many nullable) ++ say ". unwrap_or_default ( ) . into_iter ( ) ." ++ collect
  | .optionalCollection nullable =>
    bind (many nullable) ++ say ". map ( |" ++ [.bind .collected, .text "|", .use .collected]
      ++ say ". into_iter ( ) ." ++ collect ++ say ")"

/-- The words that make a value. -/
def valueWords (s : Scope) (site : Site) : ValueCode → List Word
  | .bound plan => planWords s plan
  | .document type =>
    let reader := match site with
      | .action => "body_json"
      | .event _ => "message_as"
    .use .context :: say (". " ++ reader ++ " : : <") ++ quote type.pieces ++ say "> ( ) ?"

/-- The words of an argument. -/
def argumentWords : ArgumentCode → List Word
  | .value n => [.use (.argument n)]
  | .context true => say "& mut" ++ [.use .context]
  | .context false => say "&" ++ [.use .context]
  | .session => .use .context :: say ". session ( )"

/-- The words that make the binder of an invocation. -/
def binderWords (s : Scope) (i : Invocation) : List Word :=
  let request : List Word := .use .context :: match i.site with
    | .action => say ". request ( )"
    | .event _ => say ". session ( ) . request ( )"
  let construct : List Word := say "let" ++ [.bind .binder] ++ say "="
    ++ s.path "binding : : DefaultModelBinder : : new (" ++ request ++ say ")"
  if !i.needsBinder then []
  else if i.decodesMessage then
    say "let" ++ [.bind .message] ++ say "=" ++ [.use .context] ++ say ". message_value ( ) ? ;"
      ++ construct ++ say ". with_message ( &" ++ [.use .message] ++ say ") ;"
  else construct ++ say ";"

/-- The words that make the values of an invocation. -/
def bindWords (s : Scope) (i : Invocation) : List Word :=
  if i.values.isEmpty then []
  else
    say "let (" ++ i.values.flatMap (fun v => [.bind (.argument v.1), .text ","]) ++ say ") = \x7b"
      ++ binderWords s i
      ++ say "(" ++ i.values.flatMap (fun v => valueWords s i.site v.2 ++ [.text ","]) ++ say ") \x7d ;"

/-- The words that call the method and execute its result. -/
def callWords (s : Scope) (i : Invocation) : List Word :=
  let call : List Word := .use .controller :: say "." ++ [.text i.method, .text "("]
    ++ between [.text ","] (i.arguments.map argumentWords) ++ say ")"
    ++ (if i.returns.awaited then say ". await" else [])
    ++ (if i.returns.fallible then say "?" else []) ++ say ";"
  let keep : List Word := say "let" ++ [.bind .result] ++ say "=" ++ call
  let target : List Word := match i.site with
    | .action => say "& mut" ++ [.use .context]
    | .event _ => .use .context :: say ". session ( )"
  let execute : List Word := say "execute (" ++ [.use .result, .text ","] ++ target ++ say ") ? ;"
  let trait : List Word := match i.site with
    | .action => s.path "results : : ActionResult"
    | .event _ => s.path "ws : : WsActionResult"
  let kinds : List Word := match i.site with
    | .action => s.path "__private : : dispatch : : \x7b ActionKind as _ , ValueKind as _ \x7d"
    | .event _ => s.path "__private : : dispatch : : \x7b WsActionKind as _ , WsValueKind as _ \x7d"
  let run (executes : Bool) : List Word :=
    if executes then keep ++ trait ++ say ": :" ++ execute
    else
      keep ++ say "\x7b use" ++ kinds ++ say "; ( &" ++ [.use .result] ++ say ") . __axmvc_kind ( ) ." ++ execute
        ++ say "\x7d"
  match i.returns.shape with
  | .void => call
  | .syncAction | .asyncAction => run true
  | .syncValue | .asyncValue => run false

/-- The words of an invocation. -/
def invocationWords (s : Scope) (i : Invocation) : List Word := bindWords s i ++ callWords s i

/-! ## Steps -/

/-- The words of an interceptor. -/
def interceptorWords : Interceptor → List Word
  | .made expression => quote expression
  | .injected accessor => .use .injector :: say "." ++ [.text accessor] ++ say "( )"

/-- The words of the first so many numbers. -/
def numbered (count : Nat) (words : Nat → List Word) : List Word := (List.range count).flatMap words

/-- The words that obtain a controller. -/
def acquisitionWords (s : Scope) : Acquisition → List Word
  | .openInjector =>
    say "let" ++ [.bind .injector] ++ say "= <" ++ quote s.state ++ say "as"
      ++ s.path "container : : Container > : : injector ( &" ++ [.use .state] ++ say ") ;"
  | .construct accessor =>
    say "# [ allow ( unused_mut ) ] let mut" ++ [.bind .controller] ++ say ":" ++ quote s.type ++ say "="
      ++ (match accessor with
        | some name => .use .injector :: say "." ++ [.text name] ++ say "( )"
        | none => say "<" ++ quote s.type ++ say "as : : core : : default : : Default > : : default ( )")
      ++ say ";"

/-- The words of a step of an action. -/
def actionStepWords (s : Scope) : ActionStep → List Word
  | .openContext =>
    say "# [ allow ( unused_mut ) ] let mut" ++ [.bind .context] ++ say "= match"
      ++ s.path "context : : HttpContext : : from_request (" ++ [.use .request] ++ say ", &" ++ [.use .state]
      ++ say ") . await \x7b Ok (" ++ [.bind .context] ++ say ") = >" ++ [.use .context] ++ say ", Err ("
      ++ [.bind .error] ++ say ") = >" ++ s.answerError ++ say ", \x7d ;"
  | .announce =>
    s.logging "debug" (say "method = %" ++ [.use .context] ++ say ". request ( ) . method ( ) , uri = %"
      ++ [.use .context] ++ say ". request ( ) . uri ( ) , \"dispatching\"")
  | .acquire a => acquisitionWords s a
  | .prepareBefore n i => say "let" ++ [.bind (.before n)] ++ say "=" ++ interceptorWords i ++ say ";"
  | .prepareAfter n i => say "let" ++ [.bind (.after n)] ++ say "=" ++ interceptorWords i ++ say ";"
  | .guard count =>
    say "\x7b let mut" ++ [.bind .beforeContext] ++ say "=" ++ s.path "interceptors : : BeforeContext : : new ("
      ++ say "& mut" ++ [.use .context] ++ say ", &" ++ [.use .state, .text ",", s.controllerLiteral, .text ",",
        s.methodLiteral] ++ say ", ) ;"
      ++ numbered count (fun n =>
        say "if let Err (" ++ [.bind .error] ++ say ") =" ++ s.path "interceptors : : BeforeAction : : <"
          ++ quote s.state ++ say "> : : before ( &" ++ [.use (.before n)] ++ say ", & mut"
          ++ [.use .beforeContext] ++ say ") . await \x7b"
          ++ s.logging "debug" (say "error = %" ++ [.use .error, .text ",",
            .text "\"before-interceptor halted dispatch\""])
          ++ s.answerError ++ say "; \x7d")
      ++ say "\x7d"
  | .attempt i =>
    say "let" ++ [.bind .outcome] ++ say "= async \x7b" ++ invocationWords s i
      ++ say "Ok : : < ( ) ," ++ s.path "error : : HttpError > ( ( ) ) \x7d . await ;"
  | .report =>
    say "if let Err (" ++ [.bind .error] ++ say ") =" ++ [.use .outcome] ++ say "\x7b"
      ++ s.logging "debug" (say "error = %" ++ [.use .error, .text ",", .text "\"action failed\""])
      ++ s.answerError ++ say "; \x7d"
  | .settle count =>
    say "let" ++ [.bind .remaining] ++ say "= \x7b let mut" ++ [.bind .afterContext] ++ say "="
      ++ s.path "interceptors : : AfterContext : : new (" ++ say "& mut" ++ [.use .context] ++ say ", &"
      ++ [.use .state, .text ",", s.controllerLiteral, .text ",", s.methodLiteral, .text ",", .use .outcome]
      ++ say ". err ( ) , ) ;"
      ++ numbered count (fun n =>
        s.path "interceptors : : AfterAction : : <" ++ quote s.state ++ say "> : : after ( &"
          ++ [.use (.after n)] ++ say ", & mut" ++ [.use .afterContext] ++ say ") . await ;")
      ++ [.use .afterContext] ++ say ". into_error ( ) \x7d ; if let Some (" ++ [.bind .error] ++ say ") ="
      ++ [.use .remaining] ++ say "\x7b"
      ++ s.logging "warn" (say "error = %" ++ [.use .error, .text ",",
        .text "\"error left after interceptors\""])
      ++ s.answerError ++ say "; \x7d"
  | .respond => .use .context :: say ". into_response ( )"

/-- The words of a step of a handler. -/
def handlerStepWords (s : Scope) : HandlerStep → List Word
  | .acquire a => acquisitionWords s a
  | .invoke i => invocationWords s i
  | .finish => say "Ok ( ( ) )"

end Switchyard
