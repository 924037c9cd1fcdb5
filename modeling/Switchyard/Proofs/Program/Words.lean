import Switchyard.Program.Output

/-!
# Words of generated functions

Where the words of a step, of an invocation and of the method's call stand.
-/

namespace Switchyard

open Code

/-- The call of a method on the controller, with its arguments. -/
def controllerCall (i : Invocation) : List Word :=
  .use .controller :: say "." ++ [.text i.method, .text "("] ++ between [.text ","] (i.arguments.map argumentWords)
    ++ say ")"

section Infix

variable {α : Type} {l m : List α}

theorem infix_append_left (h : l <:+: m) (before : List α) : l <:+: before ++ m :=
  h.trans (List.suffix_append before m).isInfix

theorem infix_append_right (h : l <:+: m) (after : List α) : l <:+: m ++ after :=
  h.trans (List.prefix_append m after).isInfix

theorem infix_flatMap {β : Type} {list : List β} {f : β → List α} {b : β} (h : b ∈ list) :
    f b <:+: list.flatMap f := by
  rw [List.flatMap_def]
  exact List.infix_of_mem_flatten (List.mem_map_of_mem h)

end Infix

/-- The call stands in what is written for an invocation, whatever becomes of the result. -/
theorem infix_controllerCall (s : Scope) (i : Invocation) : controllerCall i <:+: invocationWords s i := by
  refine infix_append_left ?_ (bindWords s i)
  have hcall := infix_append_right (infix_append_right (infix_append_right (List.infix_refl (controllerCall i))
    (if i.returns.awaited then say ". await" else [])) (if i.returns.fallible then say "?" else [])) (say ";")
  have hkeep := infix_append_left hcall (say "let" ++ [.bind .result] ++ say "=")
  unfold callWords
  cases i.returns.shape with
  | void => exact hcall
  | syncAction | asyncAction =>
    exact infix_append_right (infix_append_right (infix_append_right hkeep _) _) _
  | syncValue | asyncValue =>
    iterate 6 refine infix_append_right ?_ _
    exact infix_append_right hkeep _

namespace Controller

theorem controllerCall_infix_actionProgram (c : Controller) (s : Scope) (a : Action) :
    controllerCall (invocationOf .action a.name a.params a.returns) <:+:
      (c.actionProgram a).flatMap (actionStepWords s) := by
  have hattempt : .attempt (invocationOf .action a.name a.params a.returns) ∈ c.actionProgram a := by
    simp [actionProgram]
  have hcall := infix_controllerCall s (invocationOf .action a.name a.params a.returns)
  exact (infix_append_right (infix_append_right (infix_append_left hcall _) _) _).trans
    (infix_flatMap (f := actionStepWords s) hattempt)

theorem controllerCall_infix_handlerProgram (c : Controller) (s : Scope) (h : Handler) :
    controllerCall (invocationOf (.event h.event) h.name h.params h.returns) <:+:
      (c.handlerProgram h).flatMap (handlerStepWords s) := by
  have hinvoke : .invoke (invocationOf (.event h.event) h.name h.params h.returns) ∈ c.handlerProgram h := by
    simp [handlerProgram]
  exact (infix_controllerCall s _).trans (infix_flatMap (f := handlerStepWords s) hinvoke)

theorem controllerCall_infix_actionWords (c : Controller) (root : Pieces) (a : Action) :
    controllerCall (invocationOf .action a.name a.params a.returns) <:+: c.actionWords root a :=
  (c.controllerCall_infix_actionProgram (c.scope root a.name) a).trans (List.infix_append _ _ _)

end Controller

end Switchyard
