import Switchyard.Proofs.Program.Binding

/-!
# Scopes of steps

What each step of a program needs to be known, what it leaves known to the steps after it, and all that its words
bind and call.

Main results: `fragment_actionStepWords` and `fragment_handlerStepWords`.
-/

namespace Switchyard

open Code

/-! ## What steps need and leave -/

namespace Acquisition

/-- The variables that have to be known. -/
def needs : Acquisition → List Variable
  | .openInjector => [.state]
  | .construct (some _) => [.injector]
  | .construct none => []

/-- The variables that are known afterwards. -/
def leaves : Acquisition → List Variable
  | .openInjector => [.injector]
  | .construct _ => [.controller]

/-- What is called on variables. -/
def calls : Acquisition → List (Variable × String)
  | .construct (some name) => [(.injector, name)]
  | _ => []

end Acquisition

namespace Interceptor

/-- The variables that have to be known. -/
def needs : Interceptor → List Variable
  | .made _ => []
  | .injected _ => [.injector]

/-- What is called on variables. -/
def calls : Interceptor → List (Variable × String)
  | .made _ => []
  | .injected accessor => [(.injector, accessor)]

end Interceptor

namespace ActionStep

/-- The variables that have to be known. -/
def needs : ActionStep → List Variable
  | .openContext => [.request, .state]
  | .announce => [.context]
  | .acquire a => a.needs
  | .prepareBefore _ i => i.needs
  | .prepareAfter _ i => i.needs
  | .guard count => [.context, .state] ++ (List.range count).map .before
  | .attempt _ => [.context, .controller]
  | .report => [.outcome]
  | .settle count => [.context, .state, .outcome] ++ (List.range count).map .after
  | .respond => [.context]

/-- The variables that are known afterwards. -/
def leaves : ActionStep → List Variable
  | .openContext => [.context]
  | .acquire a => a.leaves
  | .prepareBefore n _ => [.before n]
  | .prepareAfter n _ => [.after n]
  | .attempt _ => [.outcome]
  | .settle _ => [.remaining]
  | .announce | .guard _ | .report | .respond => []

/-- All that is bound, in blocks too. -/
def binds : ActionStep → List Variable
  | .openContext => [.context, .context, .error]
  | .acquire a => a.leaves
  | .prepareBefore n _ => [.before n]
  | .prepareAfter n _ => [.after n]
  | .guard count => .beforeContext :: (List.range count).flatMap fun _ => [.error]
  | .attempt i => .outcome :: i.binds
  | .report => [.error]
  | .settle _ => [.remaining, .afterContext, .error]
  | .announce | .respond => []

/-- What is called on variables. -/
def calls : ActionStep → List (Variable × String)
  | .announce => [(.context, "request"), (.context, "request")]
  | .acquire a => a.calls
  | .prepareBefore _ i => i.calls
  | .prepareAfter _ i => i.calls
  | .attempt i => i.calls
  | .settle _ => [(.outcome, "err"), (.afterContext, "into_error")]
  | .respond => [(.context, "into_response")]
  | .openContext | .guard _ | .report => []

end ActionStep

namespace HandlerStep

/-- The variables that have to be known. -/
def needs : HandlerStep → List Variable
  | .acquire a => a.needs
  | .invoke _ => [.context, .controller]
  | .finish => []

/-- The variables that are known afterwards. -/
def leaves : HandlerStep → List Variable
  | .acquire a => a.leaves
  | .invoke i => i.resultBinds ++ i.numbered
  | .finish => []

/-- All that is bound, in blocks too. -/
def binds : HandlerStep → List Variable
  | .acquire a => a.leaves
  | .invoke i => i.binds
  | .finish => []

/-- What is called on variables. -/
def calls : HandlerStep → List (Variable × String)
  | .acquire a => a.calls
  | .invoke i => i.calls
  | .finish => []

end HandlerStep

/-! ## What is quoted -/

/-- What all code of a controller quotes. -/
structure Scope.Quotes (quoted : Pieces → Prop) (s : Scope) : Prop where
  root : quoted s.root
  state : quoted s.state
  type : quoted s.type

/-- The accessor of a controller is quoted. -/
def Acquisition.Quotes (quoted : Pieces → Prop) : Acquisition → Prop
  | .construct (some name) => quoted [name]
  | _ => True

/-- The expression or the accessor of an interceptor is quoted. -/
def Interceptor.Quotes (quoted : Pieces → Prop) : Interceptor → Prop
  | .made expression => quoted expression
  | .injected accessor => quoted [accessor]

/-- An invocation whose code is quoted, and whose arguments are among the values that it makes. -/
structure Invocation.Complete (quoted : Pieces → Prop) (s : Scope) (i : Invocation) : Prop
    extends Invocation.Quotes quoted s i where
  arguments : ∀ n, .value n ∈ i.arguments → .argument n ∈ i.numbered

/-- What a step of an action needs besides variables. -/
def ActionStep.Complete (quoted : Pieces → Prop) (s : Scope) : ActionStep → Prop
  | .acquire a => a.Quotes quoted
  | .prepareBefore _ i => i.Quotes quoted
  | .prepareAfter _ i => i.Quotes quoted
  | .attempt i => i.Complete quoted s
  | _ => True

/-- What a step of a handler needs besides variables. -/
def HandlerStep.Complete (quoted : Pieces → Prop) (s : Scope) : HandlerStep → Prop
  | .acquire a => a.Quotes quoted
  | .invoke i => i.Complete quoted s
  | .finish => True

variable {quoted : Pieces → Prop} {s : Scope} {known : List Variable}

/-! ## Patterns -/

theorem introduces_mut (v : Variable) : Introduces quoted (say "mut" ++ [.bind v]) [v] := by
  have hmut : Introduces quoted (say "mut") [] := .say rfl rfl
  exact hmut.append .bind

theorem introduces_variant (opening : String) (h : (say opening).all Word.isPlain = true) (v : Variable) :
    Introduces quoted (say opening ++ [.bind v] ++ say ")") [v] := by
  have hopen : Introduces quoted (say opening) [] := .plain h
  have hclose : Introduces quoted (say ")") [] := .say rfl rfl
  exact (hopen.append .bind).append hclose

/-! ## Steps -/

theorem fragment_invocationWords {i : Invocation} (hi : i.Complete quoted s) (hcontext : .context ∈ known)
    (hcontroller : .controller ∈ known) :
    Fragment quoted known (invocationWords s i) (i.resultBinds ++ (i.numbered ++ known)) i.binds i.calls :=
  (fragment_bindWords hi.toQuotes hcontext).append (fragment_callWords hi.toQuotes
    (List.mem_append_right _ hcontroller) (List.mem_append_right _ hcontext) fun n hn =>
      List.mem_append_left _ (hi.arguments n hn))

theorem fragment_answerError (hroot : quoted s.root) (herror : .error ∈ known) :
    Fragment quoted known s.answerError known [] [] := by
  have hreturn : Fragment quoted known (say "return") known [] [] := .say rfl rfl
  have hinto : Fragment quoted known (s.path "http : : IntoResponse : : into_response (") known [] [] :=
    .path hroot (plain_say rfl rfl)
  have huse : Fragment quoted known ([.use .error] ++ [.text ")"]) known [] [] :=
    (Operand.use herror).ended rfl (by decide)
  unfold Scope.answerError
  simpa [say_literal, splitAll] using hreturn.append (hinto.append huse)

theorem fragment_logging {rest : List Word} {called : List (Variable × String)} (level : String)
    (hroot : quoted s.root)
    (hlevel : (say ("__private : : tracing : : " ++ level)).all Word.isPlain = true)
    (hrest : Fragment quoted known rest known [] called) :
    Fragment quoted known (s.logging level rest) known [] called := by
  have hpath : Fragment quoted known (s.path ("__private : : tracing : : " ++ level)) known [] [] :=
    .path hroot hlevel
  have hopen : Fragment quoted known (say "! ( controller =") known [] [] := .say rfl rfl
  have haction : Fragment quoted known (say ", action =") known [] [] := .say rfl rfl
  have hcomma : Fragment quoted known [.text ","] known [] [] := .plain rfl
  have hend : Fragment quoted known (say ") ;") known [] [] := .say rfl rfl
  have h := hpath.append (hopen.append ((Fragment.literal s.controller).append (haction.append
    ((Fragment.literal s.method).append (hcomma.append (hrest.append hend))))))
  unfold Scope.logging
  simpa [Scope.controllerLiteral, Scope.methodLiteral] using h

/-- The words that log the error at hand and answer it. -/
def failureWords (s : Scope) (level message : String) : List Word :=
  s.logging level (say "error = %" ++ [.use .error, .text ",", .text message]) ++ s.answerError ++ say ";"

theorem fragment_failureWords (level message : String) (hroot : quoted s.root)
    (hlevel : (say ("__private : : tracing : : " ++ level)).all Word.isPlain = true)
    (hmessage : delimits message = false) (herror : .error ∈ known) :
    Fragment quoted known (failureWords s level message) known [] [] := by
  have hsay : Fragment quoted known (say "error = %") known [] [] := .say rfl rfl
  have huse : Fragment quoted known ([.use .error] ++ [.text ","]) known [] [] :=
    (Operand.use herror).ended rfl (by decide)
  have htext : Fragment quoted known [.text message] known [] [] := .plain (by simp [Word.isPlain, hmessage])
  have hend : Fragment quoted known (say ";") known [] [] := .say rfl rfl
  have hlog := fragment_logging level hroot hlevel ((hsay.append huse).append htext)
  exact (hlog.append (fragment_answerError hroot herror)).append hend

theorem fragment_openContext (hroot : quoted s.root) (hrequest : .request ∈ known) (hstate : .state ∈ known) :
    Fragment quoted known (actionStepWords s .openContext) ([.context] ++ known) [.context, .context, .error] [] := by
  have hallow : Fragment quoted known (say "# [ allow ( unused_mut ) ]") known [] [] := .say rfl rfl
  have hmatch : Fragment quoted known (say "match") known [] [] := .say rfl rfl
  have hfrom : Fragment quoted known (s.path "context : : HttpContext : : from_request (") known [] [] :=
    .path hroot (plain_say rfl rfl)
  have hfirst : Fragment quoted known ([.use .request] ++ [.text ","]) known [] [] :=
    (Operand.use hrequest).ended rfl (by decide)
  have hborrow : Fragment quoted known (say "&") known [] [] := .say rfl rfl
  have hsecond : Fragment quoted known ([.use .state] ++ [.text ")"]) known [] [] :=
    (Operand.use hstate).ended rfl (by decide)
  have hawait : Fragment quoted known (say ". await") known [] [] := .say rfl rfl
  have hkeep : Fragment quoted known _ known [.context] [] :=
    .arm (introduces_variant "Ok (" (plain_say rfl rfl) .context) (.use List.mem_cons_self)
  have hanswer : Fragment quoted known _ known [.error] [] :=
    .arm (introduces_variant "Err (" (plain_say rfl rfl) .error) (.of (fragment_answerError hroot List.mem_cons_self))
  have h := hallow.append (.letIn (introduces_mut .context) (hmatch.append (hfrom.append (hfirst.append (hborrow.append
    (hsecond.append (hawait.append (hkeep.append hanswer).block)))))))
  unfold actionStepWords
  simpa [say_literal, splitAll] using h

theorem fragment_announce (hroot : quoted s.root) (hcontext : .context ∈ known) :
    Fragment quoted known (actionStepWords s .announce) known [] [(.context, "request"), (.context, "request")] := by
  have hmethod : Fragment quoted known (say "method = %") known [] [] := .say rfl rfl
  have hrequest : Fragment quoted known [.use .context, .text ".", .text "request"] known [] [(.context, "request")] :=
    .call hcontext rfl
  have huri : Fragment quoted known (say "( ) . method ( ) , uri = %") known [] [] := .say rfl rfl
  have hend : Fragment quoted known (say "( ) . uri ( ) , \"dispatching\"") known [] [] := .say rfl rfl
  have hrest := hmethod.append (hrequest.append (huri.append (hrequest.append hend)))
  have h := fragment_logging "debug" hroot (plain_say (append_ofList rfl rfl) rfl) hrest
  unfold actionStepWords
  simpa [say_literal, splitAll] using h

theorem fragment_acquisitionWords {a : Acquisition} (hscope : s.Quotes quoted) (hquotes : a.Quotes quoted)
    (hneeds : a.needs ⊆ known) :
    Fragment quoted known (acquisitionWords s a) (a.leaves ++ known) a.leaves a.calls := by
  unfold acquisitionWords Acquisition.leaves Acquisition.calls
  cases a with
  | openInjector =>
    have hopen : Fragment quoted known (say "<") known [] [] := .say rfl rfl
    have has : Fragment quoted known (say "as") known [] [] := .say rfl rfl
    have hpath : Fragment quoted known (s.path "container : : Container > : : injector ( &") known [] [] :=
      .path hscope.root (plain_say rfl rfl)
    have hstate : Fragment quoted known ([.use .state] ++ [.text ")"]) known [] [] :=
      (Operand.use (hneeds List.mem_cons_self)).ended rfl (by decide)
    have hbind : Introduces quoted [.bind .injector] [.injector] := .bind
    have h := Fragment.letIn hbind (hopen.append ((Fragment.quote hscope.state).append (has.append (hpath.append
      hstate))))
    simpa [say_literal, splitAll] using h
  | construct accessor =>
    have hallow : Fragment quoted known (say "# [ allow ( unused_mut ) ]") known [] [] := .say rfl rfl
    have hcolon : Introduces quoted (say ":") [] := .say rfl rfl
    have hpattern := ((introduces_mut .controller).append hcolon).append (.quoted hscope.type)
    cases accessor with
    | none =>
      have hopen : Fragment quoted known (say "<") known [] [] := .say rfl rfl
      have hdefault : Fragment quoted known (say "as : : core : : default : : Default > : : default ( )") known [] [] :=
        .say rfl rfl
      have h := hallow.append (.letIn hpattern (hopen.append ((Fragment.quote hscope.type).append hdefault)))
      simpa [say_literal, splitAll] using h
    | some name =>
      have hcall := Fragment.callQuoted (hneeds List.mem_cons_self) hquotes
      have hend : Fragment quoted known (say "( )") known [] [] := .say rfl rfl
      have h := hallow.append (.letIn hpattern (hcall.append hend))
      simpa [say_literal, splitAll] using h

theorem fragment_interceptorWords {i : Interceptor} (hquotes : i.Quotes quoted) (hneeds : i.needs ⊆ known) :
    Fragment quoted known (interceptorWords i) known [] i.calls := by
  cases i with
  | made expression => exact .quote hquotes
  | injected accessor =>
    have hcall := Fragment.callQuoted (hneeds List.mem_cons_self) hquotes
    have hend : Fragment quoted known (say "( )") known [] [] := .say rfl rfl
    simpa [interceptorWords, Interceptor.calls, say_literal, splitAll] using hcall.append hend

theorem fragment_prepare {i : Interceptor} (v : Variable) (hquotes : i.Quotes quoted) (hneeds : i.needs ⊆ known) :
    Fragment quoted known (say "let" ++ [.bind v] ++ say "=" ++ interceptorWords i ++ say ";") ([v] ++ known) [v]
      i.calls := by
  have hbind : Introduces quoted [.bind v] [v] := .bind
  exact .letIn hbind (fragment_interceptorWords hquotes hneeds)

/-- The words that a context of interceptors begins with: the context, the state and the names of the action. -/
def chainWords (s : Scope) : List Word :=
  say "& mut" ++ [.use .context] ++ say ", &" ++ [.use .state, .text ",", s.controllerLiteral, .text ",",
    s.methodLiteral]

theorem fragment_chainWords (hcontext : .context ∈ known) (hstate : .state ∈ known) :
    Fragment quoted known (chainWords s) known [] [] := by
  have hmut : Fragment quoted known (say "& mut") known [] [] := .say rfl rfl
  have hfirst : Fragment quoted known ([.use .context] ++ [.text ","]) known [] [] :=
    (Operand.use hcontext).ended rfl (by decide)
  have hborrow : Fragment quoted known (say "&") known [] [] := .say rfl rfl
  have hsecond : Fragment quoted known ([.use .state] ++ [.text ","]) known [] [] :=
    (Operand.use hstate).ended rfl (by decide)
  have hcomma : Fragment quoted known [.text ","] known [] [] := .plain rfl
  have h := hmut.append (hfirst.append (hborrow.append (hsecond.append ((Fragment.literal s.controller).append
    (hcomma.append (.literal s.method))))))
  simpa [chainWords, Scope.controllerLiteral, Scope.methodLiteral, say_literal, splitAll] using h

/-- The words that run one interceptor before the action, and answer its error. -/
def beforeWords (s : Scope) (n : Nat) : List Word :=
  say "if let Err (" ++ [.bind .error] ++ say ") =" ++ s.path "interceptors : : BeforeAction : : <"
    ++ quote s.state ++ say "> : : before ( &" ++ [.use (.before n)] ++ say ", & mut" ++ [.use .beforeContext]
    ++ say ") . await \x7b" ++ failureWords s "debug" "\"before-interceptor halted dispatch\"" ++ say "\x7d"

theorem fragment_beforeWords {n : Nat} (hscope : s.Quotes quoted) (hbefore : .before n ∈ known)
    (hcontext : .beforeContext ∈ known) : Fragment quoted known (beforeWords s n) known [.error] [] := by
  have hrun : Fragment quoted known (s.path "interceptors : : BeforeAction : : <") known [] [] :=
    .path hscope.root (plain_say rfl rfl)
  have hopen : Fragment quoted known (say "> : : before ( &") known [] [] := .say rfl rfl
  have hfirst : Fragment quoted known ([.use (.before n)] ++ [.text ","]) known [] [] :=
    (Operand.use hbefore).ended rfl (by decide)
  have hmut : Fragment quoted known (say "& mut") known [] [] := .say rfl rfl
  have hsecond : Fragment quoted known ([.use .beforeContext] ++ [.text ")"]) known [] [] :=
    (Operand.use hcontext).ended rfl (by decide)
  have hawait : Fragment quoted known (say ". await") known [] [] := .say rfl rfl
  have hvalue := hrun.append ((Fragment.quote hscope.state).append (hopen.append (hfirst.append (hmut.append
    (hsecond.append hawait)))))
  have hfail : Fragment quoted ([.error] ++ known)
      (failureWords s "debug" "\"before-interceptor halted dispatch\"") ([.error] ++ known) [] [] :=
    fragment_failureWords _ _ hscope.root (plain_say (append_ofList rfl rfl) rfl) rfl List.mem_cons_self
  have h := Fragment.ifLet (introduces_variant "Err (" (plain_say rfl rfl) .error) (.of hvalue) hfail
  unfold beforeWords
  simpa [say_literal, splitAll] using h

theorem fragment_guard {count : Nat} (hscope : s.Quotes quoted) (hneeds : (ActionStep.guard count).needs ⊆ known) :
    Fragment quoted known (actionStepWords s (.guard count)) known
      (.beforeContext :: (List.range count).flatMap fun _ => [.error]) [] := by
  have hnew : Fragment quoted known (s.path "interceptors : : BeforeContext : : new (") known [] [] :=
    .path hscope.root (plain_say rfl rfl)
  have hchain : Fragment quoted known (chainWords s) known [] [] :=
    fragment_chainWords (hneeds (by simp [ActionStep.needs])) (hneeds (by simp [ActionStep.needs]))
  have hend : Fragment quoted known (say ", )") known [] [] := .say rfl rfl
  have hrun := Fragment.flatMap (List.range count) fun n hn =>
    fragment_beforeWords hscope (List.mem_append_right [.beforeContext] (hneeds (by
      simpa [ActionStep.needs] using hn))) List.mem_cons_self
  have h := ((Fragment.letIn (introduces_mut .beforeContext) (hnew.append (hchain.append hend))).append hrun).block
  unfold actionStepWords
  simpa [numbered, beforeWords, failureWords, chainWords, say_literal, splitAll] using h

theorem fragment_attempt {i : Invocation} (hi : i.Complete quoted s) (hcontext : .context ∈ known)
    (hcontroller : .controller ∈ known) :
    Fragment quoted known (actionStepWords s (.attempt i)) ([.outcome] ++ known) (.outcome :: i.binds) i.calls := by
  have hbind : Introduces quoted [.bind .outcome] [.outcome] := .bind
  have hasync : Fragment quoted known (say "async") known [] [] := .say rfl rfl
  have hinvoke := fragment_invocationWords hi hcontext hcontroller
  have hok : Fragment quoted (i.resultBinds ++ (i.numbered ++ known)) (say "Ok : : < ( ) ,")
      (i.resultBinds ++ (i.numbered ++ known)) [] [] := .say rfl rfl
  have herror : Fragment quoted (i.resultBinds ++ (i.numbered ++ known)) (s.path "error : : HttpError > ( ( ) )")
      (i.resultBinds ++ (i.numbered ++ known)) [] [] := .path hi.root (plain_say rfl rfl)
  have hawait : Fragment quoted known (say ". await") known [] [] := .say rfl rfl
  have h := Fragment.letIn hbind (hasync.append ((hinvoke.append (hok.append herror)).block.append hawait))
  unfold actionStepWords
  simpa [Scope.path, say_literal, splitAll] using h

theorem fragment_report (hroot : quoted s.root) (houtcome : .outcome ∈ known) :
    Fragment quoted known (actionStepWords s .report) known [.error] [] := by
  have hfail : Fragment quoted ([.error] ++ known) (failureWords s "debug" "\"action failed\"") ([.error] ++ known)
      [] [] := fragment_failureWords _ _ hroot (plain_say (append_ofList rfl rfl) rfl) rfl List.mem_cons_self
  have h := Fragment.ifLet (introduces_variant "Err (" (plain_say rfl rfl) .error) (.use houtcome) hfail
  unfold actionStepWords
  simpa [failureWords, say_literal, splitAll] using h

/-- The words that run one interceptor after the action. -/
def afterWords (s : Scope) (n : Nat) : List Word :=
  s.path "interceptors : : AfterAction : : <" ++ quote s.state ++ say "> : : after ( &" ++ [.use (.after n)]
    ++ say ", & mut" ++ [.use .afterContext] ++ say ") . await ;"

theorem fragment_afterWords {n : Nat} (hscope : s.Quotes quoted) (hafter : .after n ∈ known)
    (hcontext : .afterContext ∈ known) : Fragment quoted known (afterWords s n) known [] [] := by
  have hrun : Fragment quoted known (s.path "interceptors : : AfterAction : : <") known [] [] :=
    .path hscope.root (plain_say rfl rfl)
  have hopen : Fragment quoted known (say "> : : after ( &") known [] [] := .say rfl rfl
  have hfirst : Fragment quoted known ([.use (.after n)] ++ [.text ","]) known [] [] :=
    (Operand.use hafter).ended rfl (by decide)
  have hmut : Fragment quoted known (say "& mut") known [] [] := .say rfl rfl
  have hsecond : Fragment quoted known ([.use .afterContext] ++ [.text ")"]) known [] [] :=
    (Operand.use hcontext).ended rfl (by decide)
  have hawait : Fragment quoted known (say ". await ;") known [] [] := .say rfl rfl
  have h := hrun.append ((Fragment.quote hscope.state).append (hopen.append (hfirst.append (hmut.append
    (hsecond.append hawait)))))
  unfold afterWords
  simpa [say_literal, splitAll] using h

theorem fragment_settle {count : Nat} (hscope : s.Quotes quoted) (hneeds : (ActionStep.settle count).needs ⊆ known) :
    Fragment quoted known (actionStepWords s (.settle count)) ([.remaining] ++ known)
      [.remaining, .afterContext, .error] [(.outcome, "err"), (.afterContext, "into_error")] := by
  have hnew : Fragment quoted known (s.path "interceptors : : AfterContext : : new (") known [] [] :=
    .path hscope.root (plain_say rfl rfl)
  have hchain : Fragment quoted known (chainWords s) known [] [] :=
    fragment_chainWords (hneeds (by simp [ActionStep.needs])) (hneeds (by simp [ActionStep.needs]))
  have hcomma : Fragment quoted known [.text ","] known [] [] := .plain rfl
  have herr : Fragment quoted known [.use .outcome, .text ".", .text "err"] known [] [(.outcome, "err")] :=
    .call (hneeds (by simp [ActionStep.needs])) rfl
  have hend : Fragment quoted known (say "( ) , )") known [] [] := .say rfl rfl
  have hrun := Fragment.flatMap (List.range count) fun n hn =>
    fragment_afterWords hscope (List.mem_append_right [.afterContext] (hneeds (by
      simpa [ActionStep.needs] using hn))) List.mem_cons_self
  have hinto : Fragment quoted ([.afterContext] ++ known) [.use .afterContext, .text ".", .text "into_error"]
      ([.afterContext] ++ known) [] [(.afterContext, "into_error")] := .call List.mem_cons_self rfl
  have hlast : Fragment quoted ([.afterContext] ++ known) (say "( )") ([.afterContext] ++ known) [] [] := .say rfl rfl
  have hblock := ((Fragment.letIn (introduces_mut .afterContext) (hnew.append (hchain.append (hcomma.append
    (herr.append hend))))).append (hrun.append (hinto.append hlast))).block
  have hbind : Introduces quoted [.bind .remaining] [.remaining] := .bind
  have hfail : Fragment quoted ([.error] ++ ([.remaining] ++ known))
      (failureWords s "warn" "\"error left after interceptors\"") ([.error] ++ ([.remaining] ++ known)) [] [] :=
    fragment_failureWords _ _ hscope.root (plain_say (append_ofList rfl rfl) rfl) rfl List.mem_cons_self
  have hsome := Fragment.ifLet (introduces_variant "Some (" (plain_say rfl rfl) .error) (.use List.mem_cons_self) hfail
  have h := (Fragment.letIn hbind hblock).append hsome
  unfold actionStepWords
  simpa [numbered, afterWords, failureWords, chainWords, say_literal, splitAll] using h

theorem fragment_respond (hcontext : .context ∈ known) :
    Fragment quoted known (actionStepWords s .respond) known [] [(.context, "into_response")] := by
  have hcall : Fragment quoted known [.use .context, .text ".", .text "into_response"] known []
    [(.context, "into_response")] := .call hcontext rfl
  have hend : Fragment quoted known (say "( )") known [] [] := .say rfl rfl
  unfold actionStepWords
  simpa [say_literal, splitAll] using hcall.append hend

/-- **A step of an action that finds what it needs is in scope**, and leaves known what it says. -/
theorem fragment_actionStepWords {step : ActionStep} (hscope : s.Quotes quoted) (hstep : step.Complete quoted s)
    (hneeds : step.needs ⊆ known) :
    Fragment quoted known (actionStepWords s step) (step.leaves ++ known) step.binds step.calls := by
  have hneed : ∀ v ∈ step.needs, v ∈ known := fun v hv => hneeds hv
  cases step with
  | openContext => exact fragment_openContext hscope.root (hneed _ (by decide)) (hneed _ (by decide))
  | announce => exact fragment_announce hscope.root (hneed _ (by decide))
  | acquire a => exact fragment_acquisitionWords hscope hstep hneeds
  | prepareBefore n i => exact fragment_prepare _ hstep hneeds
  | prepareAfter n i => exact fragment_prepare _ hstep hneeds
  | guard count => exact fragment_guard hscope hneeds
  | attempt i =>
    exact fragment_attempt hstep (hneed _ List.mem_cons_self) (hneed _ (List.mem_cons_of_mem _ List.mem_cons_self))
  | report => exact fragment_report hscope.root (hneed _ (by decide))
  | settle count => exact fragment_settle hscope hneeds
  | respond => exact fragment_respond (hneed _ (by decide))

/-- **A step of a handler that finds what it needs is in scope**, and leaves known what it says. -/
theorem fragment_handlerStepWords {step : HandlerStep} (hscope : s.Quotes quoted) (hstep : step.Complete quoted s)
    (hneeds : step.needs ⊆ known) :
    Fragment quoted known (handlerStepWords s step) (step.leaves ++ known) step.binds step.calls := by
  cases step with
  | acquire a => exact fragment_acquisitionWords hscope hstep hneeds
  | invoke i =>
    have h := fragment_invocationWords hstep (hneeds List.mem_cons_self)
      (hneeds (List.mem_cons_of_mem _ List.mem_cons_self))
    rw [HandlerStep.leaves, List.append_assoc]
    exact h
  | finish => exact .say rfl rfl

end Switchyard
