import Switchyard.Proofs.Controller.WellFormed

/-!
# Problems that are reported together

Reading a block goes on after a problem, with the handlers and routes read so far. What a method adds is the same
after any other members, unless its event has a handler already, and then that is told at the method. So a
problem of one method never hides those of another.

Main result: `reports_ofBlock_of_alone`.
-/

namespace Switchyard

open Code

/-! ## Places of a method -/

mutual

/-- The places of a token: where it starts, and of a group also those inside of it and its end. -/
def Code.Token.places : Token → List Position
  | .word _ p => [p]
  | .mark _ _ p => [p]
  | .literal _ p => [p]
  | .group _ inner p close => p :: (placesOf inner ++ [close])

/-- The places of tokens in a row. -/
def Code.Token.placesOf : List Token → List Position
  | [] => []
  | t :: rest => t.places ++ placesOf rest

end

/-- The places of an attribute. -/
def Code.Attribute.places (a : Attribute) : List Position :=
  a.position :: a.pathPosition :: Token.placesOf a.tokens

/-- The places of an input. -/
def Code.Input.places (i : Input) : List Position :=
  i.attributes.flatMap Attribute.places ++ Token.placesOf i.tokens

/-- The places of a signature. -/
def Code.Signature.places (s : Signature) : List Position :=
  Token.placesOf s.head ++ s.namePosition :: (Token.placesOf s.generics ++ s.inputs.flatMap Input.places
    ++ Token.placesOf s.tail)

/-- The places of a method, its attributes and its body included. -/
def Code.Method.places (m : Method) : List Position :=
  m.attributes.flatMap Attribute.places ++ Token.placesOf m.visibility ++ m.signature.places
    ++ Token.placesOf m.body

theorem mem_places_of_mem_attributes {m : Method} {attr : Attribute} (h : attr ∈ m.attributes) :
    attr.position ∈ m.places := by
  simp only [Method.places, List.mem_append, List.mem_flatMap]
  exact .inl (.inl (.inl ⟨attr, h, List.mem_cons_self⟩))

/-- A problem lies in a method: it is told at a place of the method. The places of the options, where alone the
collision of a socket is told, are those of another text. -/
structure Problem.LiesIn (q : Problem) (m : Method) : Prop where
  place : q.position ∈ m.places
  ofBlock : ∀ path, q.cause ≠ .socketCollision path

/-! ## What reading adds -/

namespace Progress

/-- What was read first, and what was read after it. -/
def append (p q : Progress) : Progress :=
  ⟨p.problems ++ q.problems, p.actions ++ q.actions, p.handlers ++ q.handlers, p.members ++ q.members⟩

@[simp] theorem append_problems (p q : Progress) : (p.append q).problems = p.problems ++ q.problems := rfl

@[simp] theorem append_actions (p q : Progress) : (p.append q).actions = p.actions ++ q.actions := rfl

@[simp] theorem append_handlers (p q : Progress) : (p.append q).handlers = p.handlers ++ q.handlers := rfl

@[simp] theorem append_empty (p : Progress) : p.append {} = p := by simp [append]

theorem append_assoc (p q r : Progress) : (p.append q).append r = p.append (q.append r) := by
  simp [append, List.append_assoc]

/-- What is noted later is noted all the same. -/
theorem note_append (p q : Progress) (list : List Problem) : (p.append q).note list = p.append (q.note list) := by
  simp [append, note, List.append_assoc]

theorem keep_append (p q : Progress) (m : Member) : (p.append q).keep m = p.append (q.keep m) := by
  simp [append, keep, List.append_assoc]

variable {p q : Progress} {setting : Setting} {m : Method}

/-- An action is read alike, whatever was read before. -/
theorem addAction_append {a : Annotations} :
    (p.append q).addAction setting m a = p.append (q.addAction setting m a) := by
  simp only [addAction, note_append, keep_append]
  cases classify m.signature.result m.signature.isAsync .action a.marked with
  | error e => rfl
  | ok returns => simp [append, note, keep, List.append_assoc]

/-- A handler is read alike, unless what was read before handles its event: then that is noted. -/
theorem addHandler_append (p q : Progress) (setting : Setting) (m : Method) (marked : Bool) (event : Event)
    (position : Position) :
    (p.append q).addHandler setting m marked event position =
        p.append (q.addHandler setting m marked event position) ∨
      (∃ h ∈ p.handlers, h.event = event) ∧ (p.append q).addHandler setting m marked event position =
        p.append ((q.note [⟨.secondHandler event, position⟩]).keep (.method m)) := by
  unfold addHandler
  cases setting.socketPath with
  | none =>
    left
    simp only [note_append, keep_append]
  | some path =>
    by_cases hhandled : p.handlers.any (·.event == event) = true
    · right
      simp only [append_handlers, List.any_append, hhandled, Bool.true_or, if_true, note_append, keep_append, and_true]
      simpa using hhandled
    · left
      rw [Bool.not_eq_true] at hhandled
      simp only [append_handlers, List.any_append, hhandled, Bool.false_or, note_append, keep_append]
      split
      · rfl
      · cases classify m.signature.result m.signature.isAsync .handler marked with
        | error e => rfl
        | ok returns => simp [append, note, keep, List.append_assoc]

end Progress

/-- What a method adds to what was read before it: what it adds on its own, or that its event has a handler
already. -/
inductive Adds (setting : Setting) (m : Method) (p : Progress) : Progress → Prop
  | alone : Adds setting m p (({} : Progress).addMethod setting m)
  | second {q : Progress} {h : Handler} {attr : Attribute} : h ∈ p.handlers → attr ∈ m.attributes →
      eventOf? attr = some h.event → ⟨.secondHandler h.event, attr.position⟩ ∈ q.problems → Adds setting m p q

theorem exists_of_mem_events (base : String) {attributes : List Attribute} {event : Event} {position : Position}
    (h : (event, position) ∈ (annotationsOf base attributes).2.events) :
    ∃ attr ∈ attributes, eventOf? attr = some event ∧ attr.position = position := by
  simp only [annotationsOf, List.mem_filterMap] at h
  obtain ⟨attr, hattr, hevent⟩ := h
  obtain ⟨event', hevent', heq⟩ := Option.map_eq_some_iff.1 hevent
  cases heq
  exact ⟨attr, hattr, hevent', rfl⟩

/-- What reading a handler adds after other members is what it adds before them, or that its event has a handler
already. -/
theorem Adds.after {setting : Setting} {m : Method} {p q : Progress} {attr : Attribute} {event : Event} {marked : Bool}
    (hattr : attr ∈ m.attributes) (hevent : eventOf? attr = some event)
    (hq : Adds setting m p (q.addHandler setting (withoutRouting m) marked event attr.position)) :
    ∃ r, (p.append q).addHandler setting (withoutRouting m) marked event attr.position = p.append r ∧
      Adds setting m p r := by
  rcases Progress.addHandler_append p q setting (withoutRouting m) marked event attr.position with
    heq | ⟨⟨handler, hhandler, rfl⟩, heq⟩
  · exact ⟨_, heq, hq⟩
  · exact ⟨_, heq, .second hhandler hattr hevent (by simp)⟩

/-- Whatever was read before it, a method adds what it adds on its own, or that its event has a handler already. -/
theorem exists_adds (p : Progress) (setting : Setting) (m : Method) :
    ∃ q, p.addMethod setting m = p.append q ∧ Adds setting m p q := by
  have hstart : p.addMethod setting m = (p.append {}).addMethod setting m := by rw [Progress.append_empty]
  have halone : ∀ q, ({} : Progress).addMethod setting m = q → Adds setting m p q := by
    rintro _ rfl
    exact .alone
  rw [hstart]
  unfold Progress.addMethod at halone ⊢
  rcases hread : annotationsOf setting.base m.attributes with ⟨wrong, a⟩
  rw [hread] at halone
  simp only at halone ⊢
  cases hevents : a.events with
  | nil =>
    rw [hevents] at halone
    refine ⟨_, ?_, halone _ rfl⟩
    simp only
    split
    · split
      all_goals simp only [Progress.note_append, Progress.keep_append]
    · simp only [Progress.note_append, Progress.addAction_append]
  | cons e others =>
    obtain ⟨event, position⟩ := e
    have hmem : (event, position) ∈ (annotationsOf setting.base m.attributes).2.events := by
      rw [hread, hevents]
      exact List.mem_cons_self
    obtain ⟨attr, hattr, hevent, rfl⟩ := exists_of_mem_events setting.base hmem
    rw [hevents] at halone
    -- what is noted before the handler is read does not depend on what was read before
    cases others <;> by_cases hroutes : a.routes.isEmpty = true <;>
      by_cases hintercepted : (!a.before.isEmpty || !a.after.isEmpty) = true
    all_goals
      simp only [hroutes, hintercepted, if_true, Bool.false_eq_true, if_false, Progress.note_append] at halone ⊢
      exact Adds.after hattr hevent (halone _ rfl)

theorem exists_append_addMember (p : Progress) (setting : Setting) (member : Member) :
    ∃ q, p.addMember setting member = p.append q := by
  cases member with
  | other tokens =>
    refine ⟨({} : Progress).keep (.other tokens), ?_⟩
    simp [Progress.addMember, Progress.keep, Progress.append]
  | method m =>
    obtain ⟨q, heq, -⟩ := exists_adds p setting m
    exact ⟨q, heq⟩

/-- Members only add to what was read before them. -/
theorem exists_append_foldl (setting : Setting) : ∀ (members : List Member) (p : Progress),
    ∃ q, members.foldl (fun p m => p.addMember setting m) p = p.append q
  | [], p => ⟨{}, p.append_empty.symm⟩
  | member :: rest, p => by
    obtain ⟨q, hq⟩ := exists_append_addMember p setting member
    obtain ⟨r, hr⟩ := exists_append_foldl setting rest (p.append q)
    refine ⟨q.append r, ?_⟩
    rw [List.foldl_cons, hq, hr, Progress.append_assoc]

/-! ## Routes that are repeated -/

theorem mem_repeatedRoutes_of_subset {q : Problem} : ∀ {routes : List Route} {seen seen' : List (Verb × String)},
    seen ⊆ seen' → q ∈ repeatedRoutes seen routes → q ∈ repeatedRoutes seen' routes
  | [], _, _, _, hq => by cases hq
  | r :: rest, seen, seen', hsub, hq => by
    rw [repeatedRoutes] at hq ⊢
    by_cases hseen' : seen'.contains (r.verb, r.path) = true
    · rw [if_pos hseen']
      by_cases hseen : seen.contains (r.verb, r.path) = true
      · rw [if_pos hseen] at hq
        cases hq with
        | head => exact List.mem_cons_self
        | tail _ hq => exact List.mem_cons_of_mem _ (mem_repeatedRoutes_of_subset hsub hq)
      · rw [if_neg hseen] at hq
        have hcons : (r.verb, r.path) :: seen ⊆ seen' :=
          List.cons_subset.2 ⟨List.contains_iff_mem.1 hseen', hsub⟩
        exact List.mem_cons_of_mem _ (mem_repeatedRoutes_of_subset hcons hq)
    · have hseen : ¬ seen.contains (r.verb, r.path) = true := by
        intro hseen
        exact hseen' (List.contains_iff_mem.2 (hsub (List.contains_iff_mem.1 hseen)))
      rw [if_neg hseen] at hq
      rw [if_neg hseen']
      exact mem_repeatedRoutes_of_subset (List.cons_subset_cons _ hsub) hq

theorem mem_repeatedRoutes_append {q : Problem} {own after : List Route} :
    ∀ {seen : List (Verb × String)}, q ∈ repeatedRoutes seen own → q ∈ repeatedRoutes seen (own ++ after) := by
  induction own with
  | nil => intro seen hq; cases hq
  | cons r rest ih =>
    intro seen hq
    rw [List.cons_append]
    rw [repeatedRoutes] at hq ⊢
    split at hq
    · rename_i hseen
      rw [if_pos hseen]
      cases hq with
      | head => exact List.mem_cons_self
      | tail _ hq => exact List.mem_cons_of_mem _ (ih hq)
    · rename_i hseen
      rw [if_neg hseen]
      exact ih hq

theorem mem_repeatedRoutes_append_right {q : Problem} {own : List Route} : ∀ {before : List Route}
    {seen : List (Verb × String)}, q ∈ repeatedRoutes [] own → q ∈ repeatedRoutes seen (before ++ own)
  | [], seen, hq => mem_repeatedRoutes_of_subset (List.nil_subset seen) hq
  | r :: rest, seen, hq => by
    rw [List.cons_append, repeatedRoutes]
    split
    · exact List.mem_cons_of_mem _ (mem_repeatedRoutes_append_right hq)
    · exact mem_repeatedRoutes_append_right hq

/-- Of the path of a socket only its collision is told. -/
theorem cause_of_socketProblems {socket : Option PlacedPath} {path : Option String} {actions : List Action}
    {handlers : List Handler} {q : Problem} (h : q ∈ socketProblems socket path actions handlers) :
    ∃ path, q.cause = .socketCollision path := by
  unfold socketProblems at h
  split at h
  · simp only at h
    split at h
    · rw [List.mem_singleton.1 h]
      exact ⟨_, rfl⟩
    · cases h
  · cases h

/-! ## Blocks -/

namespace Code.Block

variable (options : Options) (b : Block)

/-- What a block and its options have for all methods. -/
def setting : Setting where
  base := options.base.getD ""
  socketPath := options.socket.map fun placed => joinPath (options.base.getD "") placed.path
  before := (interceptorsOf b.attributes "before").2
  after := (interceptorsOf b.attributes "after").2

/-- What is wrong with the attributes of a block. -/
def attributeProblems : List Problem :=
  (interceptorsOf b.attributes "before").1 ++ (interceptorsOf b.attributes "after").1

/-- What is read of the members of a block. -/
def progress : Progress :=
  b.members.foldl (fun p m => p.addMember (b.setting options) m) { problems := b.attributeProblems }

/-- All that is wrong with a block. -/
def problems : List Problem :=
  (b.progress options).problems ++ repeatedRoutes [] ((b.progress options).actions.flatMap Action.routes)
    ++ socketProblems options.socket (b.setting options).socketPath (b.progress options).actions
      (b.progress options).handlers

/-- A block with one method only. -/
def alone (m : Method) : Block := { b with members := [.method m] }

end Code.Block

/-- A block is refused for its head, whatever its members are, or for all that is wrong with it. -/
theorem ofBlock_eq_error (options : Options) (b : Block) :
    (∃ q, ∀ members, Controller.ofBlock options { b with members } = .error [q]) ∨
      ∀ members list, Controller.ofBlock options { b with members } = .error list ↔
        list = ({ b with members } : Block).problems options ∧ list ≠ [] := by
  obtain ⟨attributes, head, generics, trait, type, tail, own⟩ := b
  cases trait with
  | some position => exact .inl ⟨⟨.traitBlock, position⟩, fun members => rfl⟩
  | none =>
    cases generics with
    | some position => exact .inl ⟨⟨.genericController, position⟩, fun members => rfl⟩
    | none =>
      cases hname : type.name? with
      | none => exact .inl ⟨⟨.unnamedType, type.position⟩, fun members => by simp only [Controller.ofBlock, hname]⟩
      | some name =>
        right
        intro members list
        simp only [Controller.ofBlock, hname]
        split
        · rename_i hempty
          constructor
          · intro h
            cases h
          · rintro ⟨rfl, hne⟩
            exact absurd (List.isEmpty_iff.1 hempty) hne
        · rename_i hne
          constructor
          · intro h
            cases h
            exact ⟨rfl, fun hnil => hne (List.isEmpty_iff.2 hnil)⟩
          · rintro ⟨rfl, -⟩
            rfl

/-- What is read of a block is what is read before a method, what the method adds, and what is read after it. -/
theorem exists_progress_of_mem (options : Options) {b : Block} {m : Method} (hm : .method m ∈ b.members) :
    ∃ before own after, b.progress options = (before.append own).append after ∧
      b.attributeProblems ⊆ before.problems ∧ Adds (b.setting options) m before own := by
  obtain ⟨membersBefore, membersAfter, hmembers⟩ := List.append_of_mem hm
  obtain ⟨first, hfirst⟩ := exists_append_foldl (b.setting options) membersBefore { problems := b.attributeProblems }
  obtain ⟨own, hown, hadds⟩ := exists_adds (Progress.append { problems := b.attributeProblems } first)
    (b.setting options) m
  obtain ⟨after, hafter⟩ := exists_append_foldl (b.setting options) membersAfter
    ((Progress.append { problems := b.attributeProblems } first).append own)
  refine ⟨_, own, after, ?_, List.subset_append_left _ _, hadds⟩
  rw [Block.progress, hmembers, List.foldl_append, hfirst, List.foldl_cons, Progress.addMember, hown, hafter]

/-- What is wrong with a block of one method: with its attributes, with the method, with the routes of the method,
or with the path of the socket. -/
theorem problems_alone (options : Options) (b : Block) (m : Method) :
    (b.alone m).problems options = b.attributeProblems ++ (({} : Progress).addMethod (b.setting options) m).problems
      ++ repeatedRoutes [] ((({} : Progress).addMethod (b.setting options) m).actions.flatMap Action.routes)
      ++ socketProblems options.socket (b.setting options).socketPath
        (({} : Progress).addMethod (b.setting options) m).actions
        (({} : Progress).addMethod (b.setting options) m).handlers := by
  obtain ⟨q, hq, hadds⟩ := exists_adds { problems := b.attributeProblems } (b.setting options) m
  have hprogress : (b.alone m).progress options = Progress.append { problems := b.attributeProblems }
      (({} : Progress).addMethod (b.setting options) m) := by
    cases hadds with
    | alone => exact hq
    | second hh => cases hh
  rw [Block.problems, hprogress]
  rfl

/-- **What lies in a method is told, whatever the other members are**: if a block of this method alone is refused
for a problem that lies in the method, so is every block that has the method, for the same problem or because the
method is the second handler of its event. -/
theorem reports_ofBlock_of_alone {options : Options} {b : Block} {m : Method} {list : List Problem} {q : Problem}
    (hm : .method m ∈ b.members) (halone : Controller.ofBlock options (b.alone m) = .error list) (hq : q ∈ list)
    (hin : q.LiesIn m) :
    ∃ list', Controller.ofBlock options b = .error list' ∧ ∃ q' ∈ list', q'.LiesIn m ∧
      (q' = q ∨ ∃ event, q'.cause = .secondHandler event) := by
  obtain ⟨head, hhead⟩ | hmembers := ofBlock_eq_error options b
  · -- the head is refused already, and with it every block
    obtain rfl : [head] = list := Except.error.inj ((hhead _).symm.trans halone)
    exact ⟨_, hhead b.members, q, hq, hin, .inl rfl⟩
  · obtain ⟨rfl, -⟩ := (hmembers _ _).1 halone
    have htold : ∀ q' ∈ b.problems options, q'.LiesIn m → (q' = q ∨ ∃ event, q'.cause = .secondHandler event) →
        ∃ list', Controller.ofBlock options b = .error list' ∧ ∃ q' ∈ list', q'.LiesIn m ∧
          (q' = q ∨ ∃ event, q'.cause = .secondHandler event) := fun q' hq' hin' hsame =>
      ⟨_, (hmembers b.members _).2 ⟨rfl, List.ne_nil_of_mem hq'⟩, q', hq', hin', hsame⟩
    obtain ⟨before, own, after, hprogress, hattributes, hadds⟩ := exists_progress_of_mem options hm
    have hmem : ∀ q', q' ∈ before.problems ++ own.problems → q' ∈ b.problems options := by
      intro q' hq'
      rw [Block.problems, hprogress]
      simp only [Progress.append_problems, List.mem_append]
      exact .inl (.inl (.inl (List.mem_append.1 hq')))
    cases hadds with
    | @second _ h attr hh hattr hevent hsecond =>
      refine htold _ (hmem _ (List.mem_append_right _ hsecond)) ⟨?_, fun path hpath => by cases hpath⟩ (.inr ⟨_, rfl⟩)
      exact mem_places_of_mem_attributes hattr
    | alone =>
      change q ∈ (b.alone m).problems options at hq
      rw [problems_alone] at hq
      simp only [List.mem_append, or_assoc] at hq
      refine htold q ?_ hin (.inl rfl)
      rcases hq with hq | hq | hq | hq
      · exact hmem q (List.mem_append_left _ (hattributes hq))
      · exact hmem q (List.mem_append_right _ hq)
      · rw [Block.problems, hprogress]
        simp only [Progress.append_actions, List.flatMap_append, List.mem_append]
        exact .inl (.inr (mem_repeatedRoutes_append (mem_repeatedRoutes_append_right hq)))
      · exact absurd (cause_of_socketProblems hq) (fun ⟨path, hpath⟩ => hin.ofBlock path hpath)

/-! ## The second handler -/

namespace Lobby

/-- An attribute with a name, and where it starts. -/
def markAt (name : String) (position : Position) : Attribute := { mark name .bare with position }

/-- A handler of messages whose text is borrowed, as no parameter may be. -/
def echo : Method :=
  method [markAt "ws_message" ⟨9, 4⟩] "echo"
    [⟨[], .value (some "text") (borrowed "str"), [.word "text" ⟨10, 20⟩, .mark ':' false ⟨10, 24⟩], true⟩]

/-- The lobby with one more handler, which is no good by itself either. -/
def echoing : Block := { block with members := block.members ++ [.method echo, .method (method [] "last" [])] }

end Lobby

/-- By itself the handler is refused for what it borrows, and after another one for being the second. -/
theorem reports_echo : ∃ list list',
    Controller.ofBlock { socket := some ⟨"/chat", .start⟩ } (Lobby.echoing.alone Lobby.echo) = .error list ∧
    list = [⟨.borrowed, ⟨10, 20⟩⟩] ∧
    Controller.ofBlock { socket := some ⟨"/chat", .start⟩ } Lobby.echoing = .error list' ∧
    list' = [⟨.secondHandler .message, ⟨9, 4⟩⟩] ∧ ∃ q' ∈ list', q'.LiesIn Lobby.echo := by
  have halone : Controller.ofBlock { socket := some ⟨"/chat", .start⟩ } (Lobby.echoing.alone Lobby.echo) =
      .error [⟨.borrowed, ⟨10, 20⟩⟩] := by rfl
  have hin : Problem.LiesIn ⟨.borrowed, ⟨10, 20⟩⟩ Lobby.echo := ⟨by decide, fun path hpath => by cases hpath⟩
  have hm : .method Lobby.echo ∈ Lobby.echoing.members := by
    simp [Lobby.echoing]
  obtain ⟨list', hwhole, q', hq', hin', -⟩ := reports_ofBlock_of_alone hm halone List.mem_cons_self hin
  refine ⟨_, list', halone, rfl, hwhole, ?_, q', hq', hin'⟩
  have hlist : Controller.ofBlock { socket := some ⟨"/chat", .start⟩ } Lobby.echoing =
      .error [⟨.secondHandler .message, ⟨9, 4⟩⟩] := by rfl
  rw [hlist] at hwhole
  exact (Except.error.inj hwhole).symm

end Switchyard
