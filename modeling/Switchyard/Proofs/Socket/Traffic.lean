import Switchyard.Socket.Session

/-!
# Traffic of a session

All clones of a session send into one queue, from which the writer hands messages to the sink. However their steps
are interleaved, the writer hands over what was accepted in the order of acceptance, up to the first message that
closes the socket or that the sink refuses. Then it has stopped, what still waits is lost, and nothing more is
accepted.

Main result: `orderly_run`, on every interleaving.
-/

namespace Switchyard

/-! ## Calls -/

/-- A call on a session. -/
inductive SessionCall where
  | text (content : String)
  | binary (data : Bytes)
  | document (document : Except Json.EncodeFault Json)
  | close (code : Nat) (reason : String)

namespace SessionCall

/-- What a call does to the session. -/
def perform : SessionCall → Session.Sending
  | text content => Session.send (.text content)
  | binary data => Session.send (.binary data)
  | document d => Session.sendDocument d
  | close code reason => Session.send (.close (some ⟨code, reason⟩))

/-- The message that a call sends; a document that cannot be written makes none. -/
def message (codec : Codec) : SessionCall → Except HttpError Message
  | text content => .ok (.text content)
  | binary data => .ok (.binary data)
  | document d => (Session.documentText codec d).map .text
  | close code reason => .ok (.close (some ⟨code, reason⟩))

/-- Why a document is not written: it has no value, the codec fails, or what the codec writes is no text. -/
inductive Unwritten (codec : Codec) : Except Json.EncodeFault Json → HttpError → Prop
  | value {fault : Json.EncodeFault} : Unwritten codec (.error fault) (.ofCodec (.encode fault.message))
  | codec {v : Json} {e : CodecError} : codec.serialize v = .error e → Unwritten codec (.ok v) (.ofCodec e)
  | bytes {v : Json} {bytes : Bytes} {fault : Utf8.Fault} : codec.serialize v = .ok bytes →
      Utf8.decode bytes = .error fault →
      Unwritten codec (.ok v) (.internal s!"codec produced invalid UTF-8: {fault.message}")

/-- The message that a session accepts from a call. -/
def accepted? (c : SessionCall) (s : Session) : Option Message :=
  match (c.perform s).1 with
  | .ok () => (c.message s.codec).toOption
  | .error _ => none

variable {c : SessionCall} {s : Session} {m : Message} {e : HttpError}

theorem perform_of_error (h : c.message s.codec = .error e) : c.perform s = (.error e, s) := by
  cases c with
  | document d =>
    cases htext : Session.documentText s.codec d with
    | error fault =>
      simp only [message, htext, Except.map, Except.error.injEq] at h
      simp only [perform, Session.sendDocument, htext, h]
    | ok text => simp [message, htext, Except.map] at h
  | _ => simp [message] at h

theorem message_of_bytes {codec : Codec} {v : Json} {bytes : Bytes} (h : codec.serialize v = .ok bytes) :
    (document (.ok v)).message codec =
      ((Utf8.decode bytes).mapError fun f => .internal s!"codec produced invalid UTF-8: {f.message}").map .text := by
  rw [message, Session.documentText, encodeDocument, h]
  rfl

theorem message_of_unwritten {codec : Codec} {d : Except Json.EncodeFault Json} (h : Unwritten codec d e) :
    (document d).message codec = .error e := by
  cases h with
  | value => rfl
  | codec hserialize =>
    rw [message, Session.documentText, encodeDocument, hserialize]
    rfl
  | bytes hserialize hbytes =>
    rw [message_of_bytes hserialize, hbytes]
    rfl

theorem message_of_written {codec : Codec} {v : Json} {bytes : Bytes} {text : String}
    (hserialize : codec.serialize v = .ok bytes) (htext : Utf8.decode bytes = .ok text) :
    (document (.ok v)).message codec = .ok (.text text) := by
  rw [message_of_bytes hserialize, htext]
  rfl

theorem perform_of_ok (h : c.message s.codec = .ok m) : c.perform s = s.send m := by
  cases c with
  | document d =>
    cases htext : Session.documentText s.codec d with
    | error fault => simp [message, htext, Except.map] at h
    | ok text =>
      simp only [message, htext, Except.map, Except.ok.injEq] at h
      simp only [perform, Session.sendDocument, htext, h]
  | _ =>
    simp only [message, Except.ok.injEq] at h
    rw [perform, h]

theorem send_of_open (h : s.outbox.isOpen = true) (m : Message) :
    s.send m = (.ok (), { s with outbox := ⟨s.outbox.queue ++ [m], true⟩ }) := by
  simp [Session.send, Outbox.send?, h]

theorem send_of_closed (h : s.outbox.isOpen = false) (m : Message) : s.send m = (.error .socketClosed, s) := by
  simp [Session.send, Outbox.send?, h]

theorem accepts_of_open (hopen : s.outbox.isOpen = true) (h : c.message s.codec = .ok m) :
    (c.perform s).1 = .ok () ∧ c.accepted? s = some m := by
  have hresult : (c.perform s).1 = .ok () := by rw [perform_of_ok h, send_of_open hopen]
  refine ⟨hresult, ?_⟩
  rw [accepted?, hresult, h]
  rfl

/-- What a call can do: its message is accepted at the end of the queue, or nothing happens. -/
theorem perform_cases (c : SessionCall) (s : Session) :
    (∃ m, s.outbox.isOpen = true ∧ c.accepted? s = some m ∧
      (c.perform s).2 = { s with outbox := ⟨s.outbox.queue ++ [m], true⟩ }) ∨
    (c.accepted? s = none ∧ (c.perform s).2 = s) := by
  cases hmessage : c.message s.codec with
  | error e => simp [accepted?, perform_of_error hmessage]
  | ok m =>
    cases hopen : s.outbox.isOpen with
    | true =>
      refine .inl ⟨m, rfl, (accepts_of_open hopen hmessage).2, ?_⟩
      rw [perform_of_ok hmessage, send_of_open hopen]
    | false => simp [accepted?, perform_of_ok hmessage, send_of_closed hopen]

end SessionCall

/-! ## Steps of the writer -/

/-- The first message that waits is handed over, and the writer goes on or stops. -/
theorem Outbox.step_of_waiting {o : Outbox} {m : Message} {rest : List Message} (hopen : o.isOpen = true)
    (hqueue : o.queue = m :: rest) (written : Bool) :
    o.step written = (some m, if !written || m.isClose then ⟨[], false⟩ else ⟨rest, true⟩) := by
  cases hstops : !written || m.isClose <;>
    simp only [step, hopen, hqueue, hstops, if_true, if_false, Bool.false_eq_true]

/-- What a step of the writer can do: it waits, or hands over the first message. -/
theorem Outbox.step_cases (written : Bool) (o : Outbox) :
    o.step written = (none, o) ∨
    ∃ m rest, o.isOpen = true ∧ o.queue = m :: rest ∧
      o.step written = (some m, if !written || m.isClose then ⟨[], false⟩ else ⟨rest, true⟩) := by
  obtain ⟨queue, isOpen⟩ := o
  cases isOpen with
  | false => exact .inl rfl
  | true =>
    cases queue with
    | nil => exact .inl rfl
    | cons m rest => exact .inr ⟨m, rest, rfl, rfl, step_of_waiting rfl rfl written⟩

/-! ## Interleavings -/

/-- A step of a clone of the session, or of the writer. -/
inductive TrafficStep where
  | call (clone : Nat) (c : SessionCall)
  /-- The writer takes a step; `written` tells whether the sink takes what it is handed. -/
  | write (written : Bool)

/-- What has passed through a session. -/
structure Traffic where
  /-- What the clones share. -/
  session : Session
  /-- The messages that were accepted, each with the clone that sent it. -/
  accepted : List (Nat × Message) := []
  /-- What the sink was handed, and whether it took it. -/
  handed : List (Message × Bool) := []

namespace Traffic

/-- A session that was opened. -/
def start (request : Request) (codec : Codec) : Traffic where
  session := ⟨request, codec, .empty⟩

/-- The traffic after one more step. -/
def step (t : Traffic) : TrafficStep → Traffic
  | .call clone c =>
    { t with
      session := (c.perform t.session).2
      accepted := t.accepted ++ ((c.accepted? t.session).map fun m => (clone, m)).toList }
  | .write written =>
    { t with
      session := { t.session with outbox := (t.session.outbox.step written).2 }
      handed := t.handed ++ ((t.session.outbox.step written).1.map fun m => (m, written)).toList }

/-- The traffic of an interleaving. -/
def run (steps : List TrafficStep) (t : Traffic) : Traffic := steps.foldl step t

/-- The writer stops after a message that the sink refuses or that closes the socket. -/
def stops (h : Message × Bool) : Bool := !h.2 || h.1.isClose

/-- The writer has stopped. -/
def stopped (t : Traffic) : Bool := t.handed.any stops

/-- What holds of traffic at any time. -/
structure Flows (t : Traffic) : Prop where
  isOpen : t.session.outbox.isOpen = !t.stopped
  /-- Until the writer has stopped nothing is lost: what was accepted was handed over or waits. -/
  waiting : t.stopped = false → t.accepted.map Prod.snd = t.handed.map Prod.fst ++ t.session.outbox.queue
  inOrder : t.handed.map Prod.fst <+: t.accepted.map Prod.snd
  /-- Only the last message stops the writer. -/
  last : ∀ h ∈ t.handed.dropLast, stops h = false

variable {t : Traffic}

theorem Flows.running (h : Flows t) (hopen : t.session.outbox.isOpen = true) : t.stopped = false := by
  simpa [hopen] using h.isOpen

theorem Flows.opened (h : Flows t) (hrunning : t.stopped = false) : t.session.outbox.isOpen = true := by
  rw [h.isOpen, hrunning]
  rfl

theorem Flows.closed (h : Flows t) (hstopped : t.stopped = true) : t.session.outbox.isOpen = false := by
  rw [h.isOpen, hstopped]
  rfl

theorem Flows.call (h : Flows t) (clone : Nat) (c : SessionCall) : Flows (t.step (.call clone c)) := by
  obtain ⟨m, hopen, haccepted, hsession⟩ | ⟨haccepted, hsession⟩ := c.perform_cases t.session
  · have hrunning := h.running hopen
    refine ⟨?_, fun _ => ?_, ?_, h.last⟩
    · simpa [step, hsession, stopped] using hrunning
    · simp [step, haccepted, hsession, h.waiting hrunning]
    · simp only [step, haccepted, List.map_append]
      exact h.inOrder.trans (List.prefix_append _ _)
  · have hsame : t.step (.call clone c) = t := by simp [step, haccepted, hsession]
    rw [hsame]
    exact h

theorem Flows.write (h : Flows t) (written : Bool) : Flows (t.step (.write written)) := by
  obtain hwaits | ⟨m, rest, hopen, hqueue, hstep⟩ := t.session.outbox.step_cases written
  · have hsame : t.step (.write written) = t := by simp [step, hwaits]
    rw [hsame]
    exact h
  · have hrunning := h.running hopen
    have hwaiting := h.waiting hrunning
    rw [hqueue] at hwaiting
    have hhanded : (t.step (.write written)).handed = t.handed ++ [(m, written)] := by simp [step, hstep]
    have houtbox : (t.step (.write written)).session.outbox =
        if stops (m, written) then ⟨[], false⟩ else ⟨rest, true⟩ := by
      simp only [step, hstep]
      rfl
    -- no earlier message has stopped the writer, so that it stops now iff this one does
    have hstopped : (t.step (.write written)).stopped = stops (m, written) := by
      unfold stopped at hrunning ⊢
      simp [hhanded, hrunning]
    refine ⟨?_, fun hgoes => ?_, ?_, ?_⟩
    · rw [hstopped, houtbox]
      cases stops (m, written) <;> rfl
    · rw [hstopped] at hgoes
      have haccepted : (t.step (.write written)).accepted = t.accepted := rfl
      simp [haccepted, hhanded, houtbox, hgoes, hwaiting]
    · rw [hhanded]
      exact ⟨rest, by simp [step, hwaiting]⟩
    · rw [hhanded, List.dropLast_concat]
      simpa [stopped] using hrunning

theorem Flows.step (h : Flows t) (s : TrafficStep) : Flows (t.step s) := by
  cases s with
  | call clone c => exact h.call clone c
  | write written => exact h.write written

theorem Flows.run : ∀ (steps : List TrafficStep) {t : Traffic}, Flows t → Flows (t.run steps)
  | [], _, h => h
  | s :: rest, _, h => run rest (h.step s)

theorem flows_start (request : Request) (codec : Codec) : Flows (start request codec) := by
  refine ⟨rfl, fun _ => rfl, List.prefix_refl _, by simp [start]⟩

/-- A writer that has stopped stays so, and nothing is accepted any more. -/
theorem Flows.step_of_stopped (h : Flows t) (hstopped : t.stopped = true) (s : TrafficStep) : t.step s = t := by
  have hclosed := h.closed hstopped
  cases s with
  | call clone c =>
    obtain ⟨m, hopen, -⟩ | ⟨haccepted, hsession⟩ := c.perform_cases t.session
    · rw [hclosed] at hopen
      cases hopen
    · simp [Traffic.step, haccepted, hsession]
  | write written =>
    obtain hwaits | ⟨m, rest, hopen, -⟩ := t.session.outbox.step_cases written
    · simp [Traffic.step, hwaits]
    · rw [hclosed] at hopen
      cases hopen

/-! ## Every interleaving -/

/-- What the sink has been handed is in order; until the writer has stopped, messages are accepted and handed over, and
then no more. -/
structure Orderly (t : Traffic) : Prop where
  /-- The sink was handed the first of the accepted messages, in the order of acceptance. -/
  inOrder : t.handed.map Prod.fst <+: t.accepted.map Prod.snd
  /-- Nothing was handed over after a closing message or one that the sink refused. -/
  last : ∀ h ∈ t.handed.dropLast, h.2 = true ∧ h.1.isClose = false
  /-- While the writer runs, sessions are open and the other accepted messages wait. -/
  running : t.stopped = false → t.session.outbox.isOpen = true ∧
    t.accepted.map Prod.snd = t.handed.map Prod.fst ++ t.session.outbox.queue
  /-- While the writer runs, every message that can be made is accepted. -/
  accepting : t.stopped = false → ∀ clone c m, SessionCall.message t.session.codec c = .ok m →
    (c.perform t.session).1 = .ok () ∧ (t.step (.call clone c)).accepted = t.accepted ++ [(clone, m)]
  /-- While the writer runs, it hands over the first message that waits. -/
  handing : t.stopped = false → ∀ m rest, t.session.outbox.queue = m :: rest →
    ∀ written, (t.step (.write written)).handed = t.handed ++ [(m, written)]
  /-- Once it has stopped, sessions are closed and every message is refused. -/
  refusing : t.stopped = true → t.session.outbox.isOpen = false ∧
    (∀ m, t.session.send m = (.error .socketClosed, t.session)) ∧
    ∀ c m, SessionCall.message t.session.codec c = .ok m → c.perform t.session = (.error .socketClosed, t.session)
  /-- From then on no step changes anything. -/
  final : t.stopped = true → ∀ s, t.step s = t
  /-- A call whose document cannot be written adds nothing at any time. -/
  unwritten : ∀ c e, SessionCall.message t.session.codec c = .error e → c.perform t.session = (.error e, t.session)
  /-- These are the documents without a value, those that the codec refuses and those it makes no text of. -/
  unwrittenDocument : ∀ d e, SessionCall.Unwritten t.session.codec d e →
    (SessionCall.document d).perform t.session = (.error e, t.session)
  /-- Any other document is sent as the text that the codec writes. -/
  writtenDocument : ∀ v bytes text, t.session.codec.serialize v = .ok bytes → Utf8.decode bytes = .ok text →
    (SessionCall.document (.ok v)).perform t.session = t.session.send (.text text)

/-- **Every interleaving of calls and steps of the writer is orderly.** -/
theorem orderly_run (request : Request) (codec : Codec) (steps : List TrafficStep) :
    Orderly ((start request codec).run steps) := by
  have h : Flows ((start request codec).run steps) := .run steps (flows_start request codec)
  generalize (start request codec).run steps = t at h
  refine
    { inOrder := h.inOrder
      last := fun x hx => ?last
      running := fun hrunning => ⟨h.opened hrunning, h.waiting hrunning⟩
      accepting := fun hrunning clone c m hmessage => ?accepting
      handing := fun hrunning m rest hqueue written => ?handing
      refusing := fun hstopped => ?refusing
      final := h.step_of_stopped
      unwritten := fun c e => SessionCall.perform_of_error
      unwrittenDocument := fun d e hd => SessionCall.perform_of_error (SessionCall.message_of_unwritten hd)
      writtenDocument := fun v bytes text hbytes htext =>
        SessionCall.perform_of_ok (SessionCall.message_of_written hbytes htext) }
  case last =>
    have hgoes := h.last x hx
    rw [stops, Bool.or_eq_false_iff, Bool.not_eq_false'] at hgoes
    exact hgoes
  case accepting =>
    obtain ⟨hresult, haccepted⟩ := SessionCall.accepts_of_open (h.opened hrunning) hmessage
    exact ⟨hresult, by simp [step, haccepted]⟩
  case handing =>
    simp [step, Outbox.step_of_waiting (h.opened hrunning) hqueue]
  case refusing =>
    have hclosed := h.closed hstopped
    refine ⟨hclosed, SessionCall.send_of_closed hclosed, fun c m hmessage => ?_⟩
    rw [SessionCall.perform_of_ok hmessage, SessionCall.send_of_closed hclosed]

/-- What was accepted behind a closing message is not handed over. -/
example (request : Request) (codec : Codec) :
    let t := (start request codec).run
      [.call 0 (.close 1000 "bye"), .call 1 (.text "late"), .write true, .write true, .call 1 (.text "later")]
    t.accepted = [(0, .close (some ⟨1000, "bye"⟩)), (1, .text "late")] ∧
      t.handed = [(.close (some ⟨1000, "bye"⟩), true)] ∧ t.session.outbox.isOpen = false :=
  ⟨rfl, rfl, rfl⟩

end Traffic

end Switchyard
