import Switchyard.Proofs.Program.Fragment
import Switchyard.Proofs.Program.Words

/-!
# Scopes of an invocation

The values of an invocation are made in a block of their own, where the binder is known; the call of the method is
outside of it, where the values are.

Main results: `fragment_bindWords` and `fragment_callWords`.
-/

namespace Switchyard

open Code

/-! ## What an invocation binds and calls -/

/-- The reader of whole documents. -/
def Site.reader : Site → String
  | .action => "body_json"
  | .event _ => "message_as"

/-- What leads from the context to the request. -/
def Site.access : Site → String
  | .action => "request"
  | .event _ => "session"

/-- What is called for a result to be executed. -/
def Site.executeCalls : Site → List (Variable × String)
  | .action => []
  | .event _ => [(.context, "session")]

/-- What the words of a value bind: many values that may be missing are collected under a name. -/
def ValueCode.binds : ValueCode → List Variable
  | .bound plan =>
    match plan.arity with
    | .optionalCollection _ => [.collected]
    | _ => []
  | .document _ => []

/-- What the words of a value call. -/
def ValueCode.calls (site : Site) : ValueCode → List (Variable × String)
  | .bound plan =>
    match plan.arity with
    | .optionalCollection _ => [(.collected, "into_iter")]
    | _ => []
  | .document _ => [(.context, site.reader)]

/-- What the words of an argument call. -/
def ArgumentCode.calls : ArgumentCode → List (Variable × String)
  | .session => [(.context, "session")]
  | _ => []

namespace Invocation

/-- The variables of the values. -/
def numbered (i : Invocation) : List Variable := i.values.map fun v => .argument v.1

/-- What the words of the binder bind. -/
def binderBinds (i : Invocation) : List Variable :=
  if i.needsBinder then if i.decodesMessage then [.message, .binder] else [.binder] else []

/-- What the words of the binder call. -/
def binderCalls (i : Invocation) : List (Variable × String) :=
  if i.needsBinder then
    if i.decodesMessage then [(.context, "message_value"), (.context, i.site.access)] else [(.context, i.site.access)]
  else []

/-- Whether the result of the method is kept, to be executed. -/
def keeps (i : Invocation) : Bool := i.returns.shape != .void

/-- What the words that make the values bind. -/
def valueBinds (i : Invocation) : List Variable :=
  i.numbered ++ (i.binderBinds ++ i.values.flatMap fun v => v.2.binds)

/-- What the words that make the values call. -/
def valueCalls (i : Invocation) : List (Variable × String) :=
  i.binderCalls ++ i.values.flatMap fun v => v.2.calls i.site

/-- What the words of the method's call bind. -/
def resultBinds (i : Invocation) : List Variable := if i.keeps then [.result] else []

/-- What is called for the result to be executed, if there is one. -/
def resultCalls (i : Invocation) : List (Variable × String) := if i.keeps then i.site.executeCalls else []

/-- What all words bind. -/
def binds (i : Invocation) : List Variable := i.valueBinds ++ i.resultBinds

/-- What all words call. -/
def calls (i : Invocation) : List (Variable × String) :=
  i.valueCalls ++ ((.controller, i.method) :: i.arguments.flatMap ArgumentCode.calls ++ i.resultCalls)

end Invocation

/-! ## What is quoted -/

/-- The type that values are collected in, as it is written. -/
def BindingPlan.collected (plan : BindingPlan) : Pieces := (plan.collection.map TypeExpr.pieces).getD []

/-- The types of a value are quoted. -/
def ValueCode.Quotes (quoted : Pieces → Prop) : ValueCode → Prop
  | .bound plan => quoted plan.element.pieces ∧ ∀ t, plan.collection = some t → quoted t.pieces
  | .document type => quoted type.pieces

variable {quoted : Pieces → Prop} {s : Scope} {known : List Variable}

/-! ## Values -/

/-- The words that bind a value in one of the binder's ways. -/
def bindingWords (s : Scope) (plan : BindingPlan) (way : String) : List Word :=
  s.path ("binding : : ModelBinder : : " ++ way ++ " : : <") ++ quote plan.element.pieces ++ say "> ( &"
    ++ [.use .binder] ++ say ", & [" ++ between [.text ","] (plan.sources.map (sourceWords s)) ++ say "] ,"
    ++ [.text (literal plan.key)] ++ say ") ?"

/-- The words that collect values. -/
def collectWords (plan : BindingPlan) : List Word := say "collect : : <" ++ quote plan.collected ++ say "> ( )"

theorem operand_sources (hroot : quoted s.root) (sources : List Source) :
    Operand quoted known (between [.text ","] (sources.map (sourceWords s))) [] := by
  have hsources : ∀ source ∈ sources, Operand quoted known (sourceWords s source) [] := fun source _ => by
    cases source <;> exact .of (.path hroot (plain_say (append_ofList rfl rfl) rfl))
  simpa using Operand.between hsources

theorem fragment_bindingWords (way : String) {plan : BindingPlan} (hroot : quoted s.root)
    (helement : quoted plan.element.pieces) (hbinder : .binder ∈ known)
    (hway : (say ("binding : : ModelBinder : : " ++ way ++ " : : <")).all Word.isPlain = true) :
    Fragment quoted known (bindingWords s plan way) known [] [] := by
  have hhead : Fragment quoted known (s.path ("binding : : ModelBinder : : " ++ way ++ " : : <")) known [] [] :=
    .path hroot hway
  have hopen : Fragment quoted known (say "> ( &") known [] [] := .say rfl rfl
  have hbinder : Fragment quoted known ([.use .binder] ++ [.text ","]) known [] [] :=
    (Operand.use hbinder).ended rfl (by decide)
  have hlist : Fragment quoted known (say "& [") known [] [] := .say rfl rfl
  have hsources : Fragment quoted known (between [.text ","] (plan.sources.map (sourceWords s)) ++ [.text "]"]) known
    [] [] := (operand_sources hroot plan.sources).ended rfl (by decide)
  have hkey : Fragment quoted known [.text ","] known [] [] := .plain rfl
  have hend : Fragment quoted known (say ") ?") known [] [] := .say rfl rfl
  have h := (hhead.append (.quote helement)).append (hopen.append (hbinder.append (hlist.append (hsources.append
    (hkey.append ((Fragment.literal plan.key).append hend))))))
  unfold bindingWords
  simpa [say_literal, splitAll] using h

theorem fragment_manyWords (nullable : Bool) {plan : BindingPlan} (hroot : quoted s.root)
    (helement : quoted plan.element.pieces) (hbinder : .binder ∈ known) :
    Fragment quoted known (bindingWords s plan (if nullable then "bind_nullable_many" else "bind_many")) known [] [] :=
  fragment_bindingWords _ hroot helement hbinder (by
    cases nullable <;> exact plain_say (append_ofList (append_ofList rfl rfl) rfl) rfl)

theorem fragment_collectWords {plan : BindingPlan} (hcollection : ∀ t, plan.collection = some t → quoted t.pieces) :
    Fragment quoted known (collectWords plan) known [] [] := by
  have hopen : Fragment quoted known (say "collect : : <") known [] [] := .say rfl rfl
  have hend : Fragment quoted known (say "> ( )") known [] [] := .say rfl rfl
  have htype : Fragment quoted known (quote plan.collected) known [] [] := by
    unfold BindingPlan.collected
    cases hcase : plan.collection with
    | none => exact .nil
    | some t => exact .quote (hcollection t hcase)
  exact (hopen.append htype).append hend

theorem fragment_planWords {plan : BindingPlan} (hroot : quoted s.root)
    (hplan : (ValueCode.bound plan).Quotes quoted) (hbinder : .binder ∈ known) (site : Site) :
    Fragment quoted known (planWords s plan) known (ValueCode.bound plan).binds
      ((ValueCode.bound plan).calls site) := by
  obtain ⟨helement, hcollection⟩ := hplan
  cases harity : plan.arity with
  | scalar =>
    have h := fragment_bindingWords "bind_required" hroot helement hbinder
      (plain_say (append_ofList (append_ofList rfl rfl) rfl) rfl)
    simpa [planWords, ValueCode.binds, ValueCode.calls, harity, bindingWords] using h
  | optional =>
    have h := fragment_bindingWords "bind_optional" hroot helement hbinder
      (plain_say (append_ofList (append_ofList rfl rfl) rfl) rfl)
    simpa [planWords, ValueCode.binds, ValueCode.calls, harity, bindingWords] using h
  | collection nullable =>
    have hitems : Fragment quoted known (say ". unwrap_or_default ( ) . into_iter ( ) .") known [] [] := .say rfl rfl
    have h := (fragment_manyWords nullable hroot helement hbinder).append
      (hitems.append (fragment_collectWords hcollection))
    simpa [planWords, ValueCode.binds, ValueCode.calls, harity, bindingWords, collectWords,
      BindingPlan.collected] using h
  | optionalCollection nullable =>
    have hmap : Fragment quoted known (say ". map") known [] [] := .say rfl rfl
    have hitems : Fragment quoted (.collected :: known) [.use .collected, .text ".", .text "into_iter"]
      (.collected :: known) [] [(.collected, "into_iter")] := .call List.mem_cons_self rfl
    have hdot : Fragment quoted (.collected :: known) (say "( ) .") (.collected :: known) [] [] := .say rfl rfl
    have hcollect := Fragment.closure ((hitems.append hdot).append (fragment_collectWords hcollection))
    have h := (fragment_manyWords nullable hroot helement hbinder).append (hmap.append hcollect)
    simpa [planWords, ValueCode.binds, ValueCode.calls, harity, bindingWords, collectWords, BindingPlan.collected,
      say_literal, splitAll] using h

theorem fragment_valueWords (site : Site) {value : ValueCode} (hroot : quoted s.root) (hvalue : value.Quotes quoted)
    (hcontext : .context ∈ known) (hbinder : value.isBound = true → .binder ∈ known) :
    Fragment quoted known (valueWords s site value) known value.binds (value.calls site) := by
  cases value with
  | bound plan => exact fragment_planWords hroot hvalue (hbinder rfl) site
  | document type =>
    have hread : Fragment quoted known [.use .context, .text ".", .text site.reader] known []
      [(.context, site.reader)] := .call hcontext (by cases site <;> rfl)
    have hopen : Fragment quoted known (say ": : <") known [] [] := .say rfl rfl
    have hend : Fragment quoted known (say "> ( ) ?") known [] [] := .say rfl rfl
    have h := hread.append (hopen.append ((Fragment.quote hvalue).append hend))
    cases site <;> simpa [valueWords, ValueCode.binds, ValueCode.calls, Site.reader, say_literal, splitAll] using h

/-! ## Making the values -/

/-- The words that make a binder; `rest` is what is called on it at once. -/
def constructionWords (s : Scope) (site : Site) (rest : List Word) : List Word :=
  say "let" ++ [.bind .binder] ++ say "=" ++ s.path "binding : : DefaultModelBinder : : new ("
    ++ (.use .context :: match site with
      | .action => say ". request ( )"
      | .event _ => say ". session ( ) . request ( )")
    ++ say ")" ++ rest ++ say ";"

theorem fragment_constructionWords {rest : List Word} (site : Site) (hroot : quoted s.root)
    (hcontext : .context ∈ known) (hrest : Fragment quoted known rest known [] []) :
    Fragment quoted known (constructionWords s site rest) (.binder :: known) [.binder] [(.context, site.access)] := by
  have hnew : Fragment quoted known (s.path "binding : : DefaultModelBinder : : new (") known [] [] :=
    .path hroot (plain_say rfl rfl)
  have haccess : Fragment quoted known [.use .context, .text ".", .text site.access] known []
    [(.context, site.access)] := .call hcontext (by cases site <;> rfl)
  have hbind : Introduces quoted [.bind .binder] [.binder] := .bind
  unfold constructionWords
  cases site with
  | action =>
    have hend : Fragment quoted known (say "( ) )") known [] [] := .say rfl rfl
    have h := Fragment.letIn hbind (hnew.append (haccess.append (hend.append hrest)))
    simpa [Site.access, say_literal, splitAll] using h
  | event e =>
    have hend : Fragment quoted known (say "( ) . request ( ) )") known [] [] := .say rfl rfl
    have h := Fragment.letIn hbind (hnew.append (haccess.append (hend.append hrest)))
    simpa [Site.access, say_literal, splitAll] using h

theorem fragment_binderWords {i : Invocation} (hroot : quoted s.root) (hcontext : .context ∈ known) :
    Fragment quoted known (binderWords s i) (i.binderBinds.reverse ++ known) i.binderBinds i.binderCalls := by
  unfold Invocation.binderBinds Invocation.binderCalls
  cases hneeds : i.needsBinder with
  | false => simpa [binderWords, hneeds] using Fragment.nil
  | true =>
    cases hdecodes : i.decodesMessage with
    | false =>
      have h := fragment_constructionWords i.site hroot hcontext .nil
      cases hsite : i.site <;> simpa [binderWords, constructionWords, hneeds, hdecodes, hsite] using h
    | true =>
      have hbind : Introduces quoted [.bind .message] [.message] := .bind
      have hdecode : Fragment quoted known [.use .context, .text ".", .text "message_value"] known []
        [(.context, "message_value")] := .call hcontext rfl
      have hend : Fragment quoted known (say "( ) ?") known [] [] := .say rfl rfl
      have hwith : Fragment quoted (.message :: known) (say ". with_message ( &") (.message :: known) [] [] :=
        .say rfl rfl
      have hmessage : Fragment quoted (.message :: known) ([.use .message] ++ [.text ")"]) (.message :: known) [] [] :=
        (Operand.use List.mem_cons_self).ended rfl (by decide)
      have h := (Fragment.letIn hbind (hdecode.append hend)).append
        (fragment_constructionWords i.site hroot (List.mem_cons_of_mem _ hcontext) (hwith.append hmessage))
      cases hsite : i.site <;>
        simpa [binderWords, constructionWords, hneeds, hdecodes, hsite, say_literal, splitAll] using h

/-- What an invocation quotes: the path of the library, the name of the method and the types of the values. -/
structure Invocation.Quotes (quoted : Pieces → Prop) (s : Scope) (i : Invocation) : Prop where
  root : quoted s.root
  method : quoted [i.method]
  values : ∀ v ∈ i.values, v.2.Quotes quoted

theorem introduces_values : ∀ values : List (Nat × ValueCode), Introduces quoted
    (values.flatMap fun v => [.bind (.argument v.1), .text ","]) (values.map fun v => .argument v.1)
  | [] => .plain rfl
  | v :: rest => by
    have hfirst : Introduces quoted ([.bind (.argument v.1)] ++ [.text ","]) ([.argument v.1] ++ []) :=
      .append .bind (.plain rfl)
    exact hfirst.append (introduces_values rest)

/-- **The values are known after the words that make them**; the binder is not. -/
theorem fragment_bindWords {i : Invocation} (hquotes : i.Quotes quoted s) (hcontext : .context ∈ known) :
    Fragment quoted known (bindWords s i) (i.numbered ++ known) i.valueBinds i.valueCalls := by
  unfold bindWords
  by_cases hempty : i.values = []
  · have hneeds : i.needsBinder = false := by simp [Invocation.needsBinder, hempty]
    simpa [Invocation.numbered, Invocation.valueBinds, Invocation.valueCalls, Invocation.binderBinds,
      Invocation.binderCalls, hempty, hneeds] using Fragment.nil
  · have hbinder : ∀ v ∈ i.values, v.2.isBound = true → .binder ∈ i.binderBinds.reverse ++ known := by
      intro v hv hbound
      have hneeds : i.needsBinder = true := List.any_eq_true.2 ⟨v, hv, hbound⟩
      cases hdecodes : i.decodesMessage <;> simp [Invocation.binderBinds, hneeds, hdecodes]
    have hcomma : ∀ known, Fragment quoted known [.text ","] known [] [] := fun _ => .plain rfl
    have hvalues := Fragment.flatMap i.values fun v hv =>
      (fragment_valueWords i.site hquotes.root (hquotes.values v hv) (List.mem_append_right _ hcontext)
        (hbinder v hv)).append (hcomma _)
    have hopen : ∀ known, Fragment quoted known [.text "("] known [] [] := fun _ => .plain rfl
    have hclose : ∀ known, Fragment quoted known [.text ")"] known [] [] := fun _ => .plain rfl
    have hblock := Fragment.block ((fragment_binderWords hquotes.root hcontext).append
      ((hopen _).append (hvalues.append (hclose _))))
    have hleft : Introduces quoted [.text "("] [] := .plain rfl
    have hright : Introduces quoted [.text ")"] [] := .plain rfl
    have h := Fragment.letIn (hleft.append ((introduces_values i.values).append hright)) hblock
    simpa [hempty, Invocation.numbered, Invocation.valueBinds, Invocation.valueCalls, say_literal, splitAll] using h

/-! ## Calling the method -/

theorem operand_argumentWords {a : ArgumentCode} (hcontext : .context ∈ known)
    (hvalue : ∀ n, a = .value n → .argument n ∈ known) : Operand quoted known (argumentWords a) a.calls := by
  cases a with
  | value n => exact .use (hvalue n rfl)
  | context isMut =>
    have hborrow : Fragment quoted known (say "&") known [] [] := .say rfl rfl
    have hmut : Fragment quoted known (say "& mut") known [] [] := .say rfl rfl
    cases isMut with
    | false => exact .append hborrow (.use hcontext)
    | true => exact .append hmut (.use hcontext)
  | session =>
    have hcall : Fragment quoted known [.use .context, .text ".", .text "session"] known [] [(.context, "session")] :=
      .call hcontext rfl
    have hend : Fragment quoted known (say "( )") known [] [] := .say rfl rfl
    simpa [argumentWords, ArgumentCode.calls, say_literal, splitAll] using Operand.of (hcall.append hend)

theorem fragment_controllerCall {i : Invocation} (hquotes : i.Quotes quoted s) (hcontroller : .controller ∈ known)
    (hcontext : .context ∈ known) (hvalues : ∀ n, .value n ∈ i.arguments → .argument n ∈ known) :
    Fragment quoted known (controllerCall i) known []
      ((.controller, i.method) :: i.arguments.flatMap ArgumentCode.calls) := by
  have hcall := Fragment.callQuoted hcontroller hquotes.method
  have hopen : Fragment quoted known [.text "("] known [] [] := .plain rfl
  have harguments : Fragment quoted known (between [.text ","] (i.arguments.map argumentWords) ++ [.text ")"]) known []
      (i.arguments.flatMap ArgumentCode.calls) :=
    (Operand.between fun a ha => operand_argumentWords hcontext fun n hn => hvalues n (hn ▸ ha)).ended rfl (by decide)
  simpa [controllerCall, say_literal, splitAll] using hcall.append (hopen.append harguments)

/-- The words that execute the result that was kept. -/
def executeWords (site : Site) : List Word :=
  say "execute (" ++ [.use .result, .text ","] ++ (match site with
    | .action => say "& mut" ++ [.use .context]
    | .event _ => .use .context :: say ". session ( )") ++ say ") ? ;"

theorem fragment_executeWords (site : Site) (hresult : .result ∈ known) (hcontext : .context ∈ known) :
    Fragment quoted known (executeWords site) known [] site.executeCalls := by
  have hopen : Fragment quoted known (say "execute (") known [] [] := .say rfl rfl
  have hfirst : Fragment quoted known ([.use .result] ++ [.text ","]) known [] [] :=
    (Operand.use hresult).ended rfl (by decide)
  have hend : Fragment quoted known (say "? ;") known [] [] := .say rfl rfl
  cases site with
  | action =>
    have hborrow : Fragment quoted known (say "& mut") known [] [] := .say rfl rfl
    have htarget : Fragment quoted known ([.use .context] ++ [.text ")"]) known [] [] :=
      (Operand.use hcontext).ended rfl (by decide)
    have h := hopen.append (hfirst.append (hborrow.append (htarget.append hend)))
    simpa [executeWords, Site.executeCalls, say_literal, splitAll] using h
  | event e =>
    have hcall : Fragment quoted known [.use .context, .text ".", .text "session"] known [] [(.context, "session")] :=
      .call hcontext rfl
    have hclose : Fragment quoted known (say "( ) )") known [] [] := .say rfl rfl
    have h := hopen.append (hfirst.append (hcall.append (hclose.append hend)))
    simpa [executeWords, Site.executeCalls, say_literal, splitAll] using h

/-- The call of a method, and what is done with what it returns. -/
def outcomeWords (i : Invocation) : List Word :=
  controllerCall i ++ (if i.returns.awaited then say ". await" else []) ++ (if i.returns.fallible then say "?" else [])

theorem fragment_outcomeWords {i : Invocation} (hquotes : i.Quotes quoted s) (hcontroller : .controller ∈ known)
    (hcontext : .context ∈ known) (hvalues : ∀ n, .value n ∈ i.arguments → .argument n ∈ known) :
    Fragment quoted known (outcomeWords i) known []
      ((.controller, i.method) :: i.arguments.flatMap ArgumentCode.calls) := by
  have hawait : Fragment quoted known (if i.returns.awaited then say ". await" else []) known [] [] := by
    split
    · exact .say rfl rfl
    · exact .nil
  have hfail : Fragment quoted known (if i.returns.fallible then say "?" else []) known [] [] := by
    split
    · exact .say rfl rfl
    · exact .nil
  unfold outcomeWords
  simpa using ((fragment_controllerCall hquotes hcontroller hcontext hvalues).append hawait).append hfail

/-- The words that execute a result, by itself or by its kind. -/
def executionWords (s : Scope) (site : Site) (executes : Bool) : List Word :=
  if executes then
    (match site with
      | .action => s.path "results : : ActionResult"
      | .event _ => s.path "ws : : WsActionResult") ++ say ": :" ++ executeWords site
  else
    say "\x7b use" ++ (match site with
      | .action => s.path "__private : : dispatch : : \x7b ActionKind as _ , ValueKind as _ \x7d"
      | .event _ => s.path "__private : : dispatch : : \x7b WsActionKind as _ , WsValueKind as _ \x7d")
      ++ say "; ( &" ++ [.use .result] ++ say ") . __axmvc_kind ( ) ." ++ executeWords site ++ say "\x7d"

theorem fragment_executionWords (site : Site) (executes : Bool) (hroot : quoted s.root) (hresult : .result ∈ known)
    (hcontext : .context ∈ known) :
    Fragment quoted known (executionWords s site executes) known [] site.executeCalls := by
  have hexecute : Fragment quoted known (executeWords site) known [] site.executeCalls :=
    fragment_executeWords site hresult hcontext
  cases executes with
  | true =>
    have hcolons : Fragment quoted known (say ": :") known [] [] := .say rfl rfl
    cases site with
    | action =>
      have htrait : Fragment quoted known (s.path "results : : ActionResult") known [] [] :=
        .path hroot (plain_say rfl rfl)
      exact (htrait.append hcolons).append hexecute
    | event e =>
      have htrait : Fragment quoted known (s.path "ws : : WsActionResult") known [] [] :=
        .path hroot (plain_say rfl rfl)
      exact (htrait.append hcolons).append hexecute
  | false =>
    have huse : Fragment quoted known (say "use") known [] [] := .say rfl rfl
    have hpath : Fragment quoted known (s.path "__private : : dispatch : :") known [] [] :=
      .path hroot (plain_say rfl rfl)
    have hborrow : Fragment quoted known (say "; ( &") known [] [] := .say rfl rfl
    have hkept : Fragment quoted known ([.use .result] ++ [.text ")"]) known [] [] :=
      (Operand.use hresult).ended rfl (by decide)
    have hkind : Fragment quoted known (say ". __axmvc_kind ( ) .") known [] [] := .say rfl rfl
    have hrest := hborrow.append (hkept.append (hkind.append hexecute))
    cases site with
    | action =>
      have hnames : Fragment quoted known (say "ActionKind as _ , ValueKind as _") known [] [] := .say rfl rfl
      have h := Fragment.block (huse.append (hpath.append (hnames.block.append hrest)))
      simpa [executionWords, Scope.path, say_literal, splitAll] using h
    | event e =>
      have hnames : Fragment quoted known (say "WsActionKind as _ , WsValueKind as _") known [] [] := .say rfl rfl
      have h := Fragment.block (huse.append (hpath.append (hnames.block.append hrest)))
      simpa [executionWords, Scope.path, say_literal, splitAll] using h

/-- What is written for the call: the result is kept, and executed, unless there is none. -/
theorem callWords_eq (s : Scope) (i : Invocation) : callWords s i =
    match i.returns.shape with
    | .void => outcomeWords i ++ say ";"
    | .syncAction | .asyncAction =>
      say "let" ++ [.bind .result] ++ say "=" ++ (outcomeWords i ++ say ";") ++ executionWords s i.site true
    | .syncValue | .asyncValue =>
      say "let" ++ [.bind .result] ++ say "=" ++ (outcomeWords i ++ say ";") ++ executionWords s i.site false := by
  unfold callWords
  cases i.returns.shape <;> cases i.site <;>
    simp [outcomeWords, controllerCall, executionWords, executeWords]

/-- **The method is called where its values are known**, and its result is kept if it is executed. -/
theorem fragment_callWords {i : Invocation} (hquotes : i.Quotes quoted s) (hcontroller : .controller ∈ known)
    (hcontext : .context ∈ known) (hvalues : ∀ n, .value n ∈ i.arguments → .argument n ∈ known) :
    Fragment quoted known (callWords s i) (i.resultBinds ++ known) i.resultBinds
      ((.controller, i.method) :: i.arguments.flatMap ArgumentCode.calls ++ i.resultCalls) := by
  have houtcome := fragment_outcomeWords hquotes hcontroller hcontext hvalues
  have hend : Fragment quoted known (say ";") known [] [] := .say rfl rfl
  have hresult : Introduces quoted [.bind .result] [.result] := .bind
  have hexecution : ∀ executes, Fragment quoted ([.result] ++ known) (executionWords s i.site executes)
      ([.result] ++ known) [] i.site.executeCalls := fun executes =>
    fragment_executionWords i.site executes hquotes.root List.mem_cons_self (List.mem_cons_of_mem _ hcontext)
  have hkept : ∀ executes, Fragment quoted known (say "let" ++ [.bind .result] ++ say "="
      ++ (outcomeWords i ++ say ";") ++ executionWords s i.site executes) (.result :: known) [.result]
      ((.controller, i.method) :: i.arguments.flatMap ArgumentCode.calls ++ i.site.executeCalls) := fun executes => by
    simpa [say_literal, splitAll] using (Fragment.letIn hresult houtcome).append (hexecution executes)
  rw [callWords_eq]
  unfold Invocation.resultBinds Invocation.resultCalls Invocation.keeps
  cases i.returns.shape with
  | void => simpa using houtcome.append hend
  | syncAction => exact hkept true
  | asyncAction => exact hkept true
  | syncValue => exact hkept false
  | asyncValue => exact hkept false

end Switchyard
