import Switchyard.Proofs.Application.Recording
import Switchyard.Socket.Endpoint

/-!
# The life of a connection

Which handlers are called while a connection lasts, in which order and with what, is settled by what happens to
it and by how the handlers end: `Lives`. The record of the calls is kept by handlers that do what they did
before and also write it (`Endpoint.recording`).

Main result: `lives_live`.
-/

namespace Switchyard

/-- A call of a handler: what the event brought, and what came of it. -/
abbrev EventCall := Payload × Except HttpError Unit

/-- The handlers of an endpoint, which also keep a record of their calls. -/
def Endpoint.recording {S : Type} (e : Endpoint S) : Endpoint (S × List EventCall) := fun event =>
  (e event).map fun handler => handler.recording fun ctx result => [(ctx.payload, result)]

/-! ## What a connection reads -/

/-- The messages that are read: those before the first fault. -/
def messagesRead : List Happening → List Message
  | [] => []
  | .message m :: rest => m :: messagesRead rest
  | .fault _ :: _ => []
  | .writing _ :: rest => messagesRead rest

/-- The fault that ends the reading. -/
def faultRead : List Happening → Option TransportFault
  | [] => none
  | .message _ :: rest => faultRead rest
  | .fault f :: _ => some f
  | .writing _ :: rest => faultRead rest

/-- What a message brings to a handler. -/
def Message.payload? : Message → Option Payload
  | .text s => some (.text s)
  | .binary data => some (.binary data)
  | _ => none

/-- What a closing message says. -/
def Message.closeFrame? : Message → Option CloseFrame
  | .close f => f
  | _ => none

/-- How a connection is reported to have ended: as broken, if a fault came before every closing message; else
by the last closing message that says something. -/
def reported (messages : List Message) (fault : Option TransportFault) : Nat × String :=
  if fault.isSome ∧ messages.any Message.isClose = false then (1006, "")
  else
    match (messages.filterMap Message.closeFrame?).getLast? with
    | some f => (f.code, f.reason)
    | none => (1005, "")

/-! ## What is called -/

section Calls

variable {S : Type} (e : Endpoint S)

/-- What follows an error: one call of the handler of errors, if there is one. -/
inductive Followed (error : HttpError) : List EventCall → List LogLine → Prop
  | unhandled : e .error = none →
      Followed error [] [logLine "WARN" "unhandled websocket error" [("error", error.text)]]
  | handled : (e .error).isSome →
      Followed error [(.failure error, .ok ())] [logLine "WARN" "websocket handler failed" [("error", error.text)]]
  | failed {again : HttpError} : (e .error).isSome →
      Followed error [(.failure error, .error again)]
        [logLine "WARN" "websocket handler failed" [("error", error.text)],
          logLine "ERROR" "websocket error handler failed" [("error", again.text)]]

/-- What answers an event: one call of its handler, if there is one, and what follows its failure. -/
inductive Answered (payload : Payload) : List EventCall → List LogLine → Prop
  | ignored : e payload.event = none → Answered payload [] []
  | done : (e payload.event).isSome → Answered payload [(payload, .ok ())] []
  | failed {error : HttpError} {calls : List EventCall} {lines : List LogLine} : (e payload.event).isSome →
      Followed e error calls lines → Answered payload ((payload, .error error) :: calls) lines

/-- What answers messages, one after the other, whatever became of those before. -/
inductive AnsweredAll : List Message → List EventCall → List LogLine → Prop
  | done : AnsweredAll [] [] []
  | passed {m : Message} {rest : List Message} {calls : List EventCall} {lines : List LogLine} :
      m.payload? = none → AnsweredAll rest calls lines → AnsweredAll (m :: rest) calls lines
  | answered {m : Message} {rest : List Message} {payload : Payload} {calls calls' : List EventCall}
      {lines lines' : List LogLine} : m.payload? = some payload → Answered e payload calls lines →
      AnsweredAll rest calls' lines' → AnsweredAll (m :: rest) (calls ++ calls') (lines ++ lines')

/-- What answers the end of the reading: a fault is an error, unless a closing message came before. -/
inductive Broken (messages : List Message) : Option TransportFault → List EventCall → List LogLine → Prop
  | ended : Broken messages none [] []
  | closing {fault : TransportFault} : messages.any Message.isClose = true → Broken messages (some fault) [] []
  | abnormal {fault : TransportFault} {calls : List EventCall} {lines : List LogLine} :
      messages.any Message.isClose = false →
      Followed e (.internal s!"websocket transport error: {fault.message}") calls lines →
      Broken messages (some fault) calls lines

/-- A whole life: the connection is opened, messages are answered up to the end or the first fault, and the
connection ends. -/
inductive Lives (uri : String) (happenings : List Happening) : List EventCall → List LogLine → Prop
  | lived {code : Nat} {reason : String} {calls₁ calls₂ calls₃ calls₄ : List EventCall}
      {lines₁ lines₂ lines₃ lines₄ : List LogLine} :
      Answered e .connected calls₁ lines₁ →
      AnsweredAll e (messagesRead happenings) calls₂ lines₂ →
      Broken e (messagesRead happenings) (faultRead happenings) calls₃ lines₃ →
      reported (messagesRead happenings) (faultRead happenings) = (code, reason) →
      Answered e (.closed code reason) calls₄ lines₄ →
      Lives uri happenings (calls₁ ++ calls₂ ++ calls₃ ++ calls₄)
        (logLine "DEBUG" "websocket connected" [("uri", uri)] :: (lines₁ ++ lines₂ ++ lines₃ ++ lines₄)
          ++ [logLine "DEBUG" "websocket disconnected" [("status", toString code)]])

end Calls

/-! ## The report of the end -/

/-- How a life would be reported to have ended, and whether it is closing. -/
structure Report where
  code : Nat
  reason : String
  closing : Bool

/-- The report of a life so far. -/
def Life.report {S : Type} (l : Life S) : Report := ⟨l.status, l.reason, l.closing⟩

/-- What a message changes of the report. -/
def Report.after (r : Report) : Message → Report
  | .close (some f) => ⟨f.code, f.reason, true⟩
  | .close none => { r with closing := true }
  | _ => r

/-! ## Steps of a life -/

section Steps

variable {S : Type} (e : Endpoint S)

/-- A life with a record of calls. -/
def Life.recorded (l : Life S) (record : List EventCall) : Life (S × List EventCall) where
  session := l.session
  world := ⟨(l.world.state, record), l.world.log⟩
  status := l.status
  reason := l.reason
  closing := l.closing

/-- A step of a life makes calls and logs lines; with a record it is the same step. -/
structure Traces (step : Life S → Life S) (recording : Life (S × List EventCall) → Life (S × List EventCall))
    (l : Life S) (calls : List EventCall) (lines : List LogLine) : Prop where
  recorded : ∀ record, recording (l.recorded record) = (step l).recorded (record ++ calls)
  log : (step l).world.log = l.world.log ++ lines

theorem Traces.trans {step step' : Life S → Life S}
    {recording recording' : Life (S × List EventCall) → Life (S × List EventCall)} {l : Life S}
    {calls calls' : List EventCall} {lines lines' : List LogLine} (h : Traces step recording l calls lines)
    (h' : Traces step' recording' (step l) calls' lines') :
    Traces (fun l => step' (step l)) (fun l => recording' (recording l)) l (calls ++ calls') (lines ++ lines') where
  recorded record := by rw [h.recorded, h'.recorded, List.append_assoc]
  log := by rw [h'.log, h.log, List.append_assoc]

theorem traces_note (l : Life S) (level message : String) (fields : List (String × String)) :
    Traces (·.note level message fields) (·.note level message fields) l [] [logLine level message fields] where
  recorded record := by rw [List.append_nil]; rfl
  log := rfl

/-- A handler that runs is one call; by itself it neither logs nor changes the report. -/
theorem run_spec {l after : Life S} {handler : EventHandler S} {payload : Payload} {result : Except HttpError Unit}
    (h : l.run handler payload = (result, after)) :
    (∀ record, (l.recorded record).run (handler.recording fun ctx result => [(ctx.payload, result)]) payload =
      (result, after.recorded (record ++ [(payload, result)]))) ∧
      after.world.log = l.world.log ∧ after.report = l.report := by
  cases h
  exact ⟨fun _ => rfl, rfl, rfl⟩

theorem recording_some {event : Event} {handler : EventHandler S} (h : e event = some handler) :
    e.recording event = some (handler.recording fun ctx result => [(ctx.payload, result)]) := by
  rw [Endpoint.recording, h]
  rfl

theorem recording_none {event : Event} (h : e event = none) : e.recording event = none := by
  rw [Endpoint.recording, h]
  rfl

theorem traces_fail (error : HttpError) (l : Life S) : ∃ calls lines, Followed e error calls lines ∧
    Traces (e.fail error) (e.recording.fail error) l calls lines := by
  cases he : e .error with
  | none =>
    refine ⟨_, _, .unhandled he, fun record => ?_, ?_⟩
    · rw [Endpoint.fail, Endpoint.fail, he, recording_none e he, List.append_nil]
      rfl
    · rw [Endpoint.fail, he]
      rfl
  | some handler =>
    have hsome : (e .error).isSome := by rw [he]; rfl
    have hnote : ∀ record : List EventCall,
        (l.recorded record).note "WARN" "websocket handler failed" [("error", error.text)] =
          (l.note "WARN" "websocket handler failed" [("error", error.text)]).recorded record := fun _ => rfl
    have hnoted := (traces_note l "WARN" "websocket handler failed" [("error", error.text)]).log
    rcases hrun : (l.note "WARN" "websocket handler failed" [("error", error.text)]).run handler (.failure error) with
      ⟨again | ⟨⟩, after⟩
    · obtain ⟨hrec, hlog, -⟩ := run_spec hrun
      refine ⟨[(.failure error, .error again)], _, .failed hsome, fun record => ?_, ?_⟩
      · rw [Endpoint.fail, Endpoint.fail, he, recording_some e he]
        simp only
        rw [hnote, hrec, hrun]
        rfl
      · rw [Endpoint.fail, he]
        simp only
        rw [hrun, (traces_note after _ _ _).log, hlog, hnoted, List.append_assoc]
        rfl
    · obtain ⟨hrec, hlog, -⟩ := run_spec hrun
      refine ⟨[(.failure error, .ok ())], _, .handled hsome, fun record => ?_, ?_⟩
      · rw [Endpoint.fail, Endpoint.fail, he, recording_some e he]
        simp only
        rw [hnote, hrec, hrun]
      · rw [Endpoint.fail, he]
        simp only
        rw [hrun]
        exact hlog.trans hnoted

theorem traces_call (payload : Payload) (l : Life S) : ∃ calls lines, Answered e payload calls lines ∧
    Traces (e.call payload) (e.recording.call payload) l calls lines := by
  cases he : e payload.event with
  | none =>
    refine ⟨[], [], .ignored he, fun record => ?_, ?_⟩
    · rw [Endpoint.call, Endpoint.call, he, recording_none e he, List.append_nil]
    · rw [Endpoint.call, he, List.append_nil]
  | some handler =>
    have hsome : (e payload.event).isSome := by rw [he]; rfl
    rcases hrun : l.run handler payload with ⟨error | ⟨⟩, after⟩
    · obtain ⟨hrec, hlog, -⟩ := run_spec hrun
      obtain ⟨calls, lines, hfollowed, htraces⟩ := traces_fail e error after
      refine ⟨_, _, .failed hsome hfollowed, fun record => ?_, ?_⟩
      · rw [Endpoint.call, Endpoint.call, he, recording_some e he]
        simp only
        rw [hrec, hrun]
        simp only
        rw [htraces.recorded, List.append_assoc, List.singleton_append]
      · rw [Endpoint.call, he]
        simp only
        rw [hrun]
        simp only
        rw [htraces.log, hlog]
    · obtain ⟨hrec, hlog, -⟩ := run_spec hrun
      refine ⟨_, [], .done hsome, fun record => ?_, ?_⟩
      · rw [Endpoint.call, Endpoint.call, he, recording_some e he]
        simp only
        rw [hrec, hrun]
      · rw [Endpoint.call, he]
        simp only
        rw [hrun, hlog, List.append_nil]

/-- Neither a handler nor a line of the log changes the report. -/
theorem fail_report (error : HttpError) (l : Life S) : (e.fail error l).report = l.report := by
  rw [Endpoint.fail]
  cases e .error with
  | none => rfl
  | some handler =>
    simp only
    rcases hrun : (l.note "WARN" "websocket handler failed" [("error", error.text)]).run handler (.failure error) with
      ⟨again | ⟨⟩, after⟩
    all_goals exact (run_spec hrun).2.2

theorem call_report (payload : Payload) (l : Life S) : (e.call payload l).report = l.report := by
  rw [Endpoint.call]
  cases e payload.event with
  | none => rfl
  | some handler =>
    simp only
    rcases hrun : l.run handler payload with ⟨error | ⟨⟩, after⟩
    · exact (fail_report e error after).trans (run_spec hrun).2.2
    · exact (run_spec hrun).2.2

theorem arrived_report (m : Message) (l : Life S) : (e.arrived m l).report = l.report.after m := by
  cases m with
  | text s => exact call_report e _ l
  | binary data => exact call_report e _ l
  | close f => cases f <;> rfl
  | ping data => rfl
  | pong data => rfl

/-! ## Reading -/

/-- What answers a message: a text or bytes are handed to a handler, and nothing else is. -/
theorem traces_arrived (m : Message) (l : Life S) : ∃ calls lines,
    (m.payload? = none ∧ calls = [] ∧ lines = [] ∨
      ∃ payload, m.payload? = some payload ∧ Answered e payload calls lines) ∧
    Traces (e.arrived m) (e.recording.arrived m) l calls lines := by
  have hquiet : ∀ step : ∀ {T : Type}, Life T → Life T,
      (∀ record, step (l.recorded record) = (step l).recorded record) →
      (step l).world.log = l.world.log → Traces step step l [] [] := fun step hrec hlog =>
    ⟨fun record => by rw [hrec, List.append_nil], by rw [hlog, List.append_nil]⟩
  cases m with
  | text s =>
    obtain ⟨calls, lines, hcall, htraces⟩ := traces_call e (.text s) l
    exact ⟨calls, lines, .inr ⟨_, rfl, hcall⟩, htraces⟩
  | binary data =>
    obtain ⟨calls, lines, hcall, htraces⟩ := traces_call e (.binary data) l
    exact ⟨calls, lines, .inr ⟨_, rfl, hcall⟩, htraces⟩
  | close f =>
    refine ⟨[], [], .inl ⟨rfl, rfl, rfl⟩, ?_⟩
    cases f with
    | none => exact hquiet (fun l => { l with closing := true }) (fun _ => rfl) rfl
    | some f =>
      exact hquiet (fun l => { l with status := f.code, reason := f.reason, closing := true }) (fun _ => rfl) rfl
  | ping data => exact ⟨[], [], .inl ⟨rfl, rfl, rfl⟩, hquiet (fun l => l) (fun _ => rfl) rfl⟩
  | pong data => exact ⟨[], [], .inl ⟨rfl, rfl, rfl⟩, hquiet (fun l => l) (fun _ => rfl) rfl⟩

/-- Reads an open connection to its end, or up to the first fault. -/
def Endpoint.reach (e : Endpoint S) : List Happening → Life S → Life S
  | [], l => l
  | .message m :: rest, l => e.reach rest (e.arrived m l)
  | .fault _ :: _, l => l
  | .writing written :: rest, l => e.reach rest (l.wrote written)

/-- A fault is the last thing that is read. -/
theorem read_eq : ∀ (happenings : List Happening) (l : Life S), e.read happenings l =
    match faultRead happenings with
    | some fault => e.broke fault (e.reach happenings l)
    | none => e.reach happenings l
  | [], _ => rfl
  | .message m :: rest, l => read_eq rest (e.arrived m l)
  | .fault _ :: _, _ => rfl
  | .writing written :: rest, l => read_eq rest (l.wrote written)

/-- Reading answers the messages that are read. -/
theorem traces_reach : ∀ (happenings : List Happening) (l : Life S), ∃ calls lines,
    AnsweredAll e (messagesRead happenings) calls lines ∧
    Traces (e.reach happenings) (e.recording.reach happenings) l calls lines
  | [], l => ⟨[], [], .done, fun _ => by rw [List.append_nil]; rfl, by rw [List.append_nil]; rfl⟩
  | .fault _ :: _, l => ⟨[], [], .done, fun _ => by rw [List.append_nil]; rfl, by rw [List.append_nil]; rfl⟩
  | .writing written :: rest, l => by
    obtain ⟨calls, lines, hall, htraces⟩ := traces_reach rest (l.wrote written)
    exact ⟨calls, lines, hall, htraces.recorded, htraces.log⟩
  | .message m :: rest, l => by
    obtain ⟨calls, lines, hm, hstep⟩ := traces_arrived e m l
    obtain ⟨calls', lines', hall, hrest⟩ := traces_reach rest (e.arrived m l)
    refine ⟨_, _, ?_, hstep.trans hrest⟩
    rcases hm with ⟨hnone, rfl, rfl⟩ | ⟨payload, hsome, hanswered⟩
    · exact .passed hnone hall
    · exact .answered hsome hanswered hall

theorem reach_report : ∀ (happenings : List Happening) (l : Life S),
    (e.reach happenings l).report = (messagesRead happenings).foldl Report.after l.report
  | [], _ => rfl
  | .fault _ :: _, _ => rfl
  | .writing written :: rest, l => reach_report rest (l.wrote written)
  | .message m :: rest, l => by
    rw [messagesRead, List.foldl_cons, ← arrived_report]
    exact reach_report rest (e.arrived m l)

/-- The report after messages: the last closing message that says something counts. -/
theorem foldl_after : ∀ (messages : List Message) (r : Report), messages.foldl Report.after r =
    { code := ((messages.filterMap Message.closeFrame?).getLast?.map CloseFrame.code).getD r.code
      reason := ((messages.filterMap Message.closeFrame?).getLast?.map CloseFrame.reason).getD r.reason
      closing := r.closing || messages.any Message.isClose }
  | [], r => by simp
  | m :: rest, r => by
    rw [List.foldl_cons, foldl_after rest]
    cases m with
    | close f =>
      cases f with
      | none => simp [Report.after, Message.closeFrame?, Message.isClose]
      | some f =>
        have hlast : ((Message.close (some f) :: rest).filterMap Message.closeFrame?).getLast? =
            some ((rest.filterMap Message.closeFrame?).getLast?.getD f) := by
          have hframe : (Message.close (some f)).closeFrame? = some f := rfl
          rw [List.filterMap_cons_some hframe, List.getLast?_cons]
        rw [hlast]
        cases (rest.filterMap Message.closeFrame?).getLast? <;> simp [Report.after, Message.isClose]
    | text s => rfl
    | binary data => rfl
    | ping data => rfl
    | pong data => rfl

theorem closeFrames_eq_nil {messages : List Message} (h : messages.any Message.isClose = false) :
    messages.filterMap Message.closeFrame? = [] := by
  rw [List.filterMap_eq_nil_iff]
  intro m hm
  have hopen := List.any_eq_false.1 h m hm
  cases m with
  | close f => exact absurd rfl hopen
  | text s => rfl
  | binary data => rfl
  | ping data => rfl
  | pong data => rfl

/-! ## The end -/

/-- What answers a fault, and what it leaves to be reported. -/
theorem traces_broke (messages : List Message) (fault : TransportFault) (l : Life S)
    (hclosing : l.closing = messages.any Message.isClose) : ∃ calls lines,
    Broken e messages (some fault) calls lines ∧ Traces (e.broke fault) (e.recording.broke fault) l calls lines ∧
    (e.broke fault l).report = if l.closing then l.report else { l.report with code := 1006 } := by
  cases hc : l.closing with
  | true =>
    refine ⟨[], [], .closing (by rw [← hclosing, hc]), ⟨fun record => ?_, ?_⟩, ?_⟩
    · rw [Endpoint.broke, Endpoint.broke, if_pos hc, if_pos (show (l.recorded record).closing = true from hc),
        List.append_nil]
    · rw [Endpoint.broke, if_pos hc, List.append_nil]
    · rw [Endpoint.broke, if_pos hc]
      rfl
  | false =>
    have hopen : ¬ l.closing = true := by rw [hc]; simp
    obtain ⟨calls, lines, hfollowed, htraces⟩ :=
      traces_fail e (.internal s!"websocket transport error: {fault.message}") { l with status := CloseFrame.abnormal }
    refine ⟨calls, lines, .abnormal (by rw [← hclosing, hc]) hfollowed, ⟨fun record => ?_, ?_⟩, ?_⟩
    · rw [Endpoint.broke, Endpoint.broke, if_neg hopen, if_neg (show ¬ (l.recorded record).closing = true from hopen)]
      exact htraces.recorded record
    · rw [Endpoint.broke, if_neg hopen]
      exact htraces.log
    · rw [Endpoint.broke, if_neg hopen, fail_report]
      rfl

/-- What answers the end of the reading, and what is reported of it. -/
theorem traces_read (happenings : List Happening) (l : Life S) (hfresh : l.report = ⟨1005, "", false⟩) :
    ∃ calls lines calls' lines', AnsweredAll e (messagesRead happenings) calls lines ∧
      Broken e (messagesRead happenings) (faultRead happenings) calls' lines' ∧
      Traces (e.read happenings) (e.recording.read happenings) l (calls ++ calls') (lines ++ lines') ∧
      reported (messagesRead happenings) (faultRead happenings) =
        ((e.read happenings l).status, (e.read happenings l).reason) := by
  obtain ⟨calls, lines, hall, hreach⟩ := traces_reach e happenings l
  have hreport := (reach_report e happenings l).trans (foldl_after _ _)
  rw [hfresh] at hreport
  -- the connection is closing iff a closing message was read, so that the fault sees the right state
  have hcode : (e.reach happenings l).status = _ := congrArg Report.code hreport
  have hreason : (e.reach happenings l).reason = _ := congrArg Report.reason hreport
  have hclosing : (e.reach happenings l).closing = _ := congrArg Report.closing hreport
  simp only [Bool.false_or] at hcode hreason hclosing
  cases hfault : faultRead happenings with
  | none =>
    have hread : ∀ {T : Type} (e : Endpoint T), e.read happenings = e.reach happenings := fun e =>
      funext fun l => by rw [read_eq, hfault]
    rw [hread, hread]
    refine ⟨calls, lines, [], [], hall, .ended, by rwa [List.append_nil, List.append_nil], ?_⟩
    rw [hcode, hreason, reported, if_neg (by simp)]
    cases ((messagesRead happenings).filterMap Message.closeFrame?).getLast? <;> rfl
  | some fault =>
    have hread : ∀ {T : Type} (e : Endpoint T), e.read happenings = fun l => e.broke fault (e.reach happenings l) :=
      fun e => funext fun l => by rw [read_eq, hfault]
    obtain ⟨calls', lines', hbroken, hbroke, hleft⟩ :=
      traces_broke e (messagesRead happenings) fault (e.reach happenings l) hclosing
    have hcode' : (e.broke fault (e.reach happenings l)).status = _ := congrArg Report.code hleft
    have hreason' : (e.broke fault (e.reach happenings l)).reason = _ := congrArg Report.reason hleft
    rw [hread, hread]
    refine ⟨calls, lines, calls', lines', hall, hbroken, hreach.trans hbroke, ?_⟩
    simp only
    rw [hcode', hreason', hclosing, reported]
    cases hclose : (messagesRead happenings).any Message.isClose with
    | true =>
      rw [if_neg (by simp), if_pos rfl]
      simp only [Life.report]
      rw [hcode, hreason]
      cases ((messagesRead happenings).filterMap Message.closeFrame?).getLast? <;> rfl
    | false =>
      rw [if_pos ⟨rfl, rfl⟩, if_neg (by simp)]
      simp only [Life.report]
      rw [hreason, closeFrames_eq_nil hclose]
      rfl

theorem traces_opened (l : Life S) : ∃ calls lines, Answered e .connected calls lines ∧
    Traces e.opened e.recording.opened l calls
      ([logLine "DEBUG" "websocket connected" [("uri", l.session.request.uri.text)]] ++ lines) ∧
    (e.opened l).report = l.report := by
  have hnote := traces_note l "DEBUG" "websocket connected" [("uri", l.session.request.uri.text)]
  obtain ⟨calls, lines, hcall, htraces⟩ :=
    traces_call e .connected (l.note "DEBUG" "websocket connected" [("uri", l.session.request.uri.text)])
  have hopened := hnote.trans htraces
  exact ⟨calls, lines, hcall, ⟨hopened.recorded, hopened.log⟩, call_report e _ _⟩

theorem traces_ended (l : Life S) : ∃ calls lines, Answered e (.closed l.status l.reason) calls lines ∧
    Traces e.ended e.recording.ended l calls
      (lines ++ [logLine "DEBUG" "websocket disconnected" [("status", toString l.status)]]) := by
  obtain ⟨calls, lines, hcall, htraces⟩ := traces_call e (.closed l.status l.reason) l
  have hstatus : (e.call (.closed l.status l.reason) l).status = l.status :=
    congrArg Report.code (call_report e (.closed l.status l.reason) l)
  have hended := htraces.trans (traces_note _ "DEBUG" "websocket disconnected" [("status", toString l.status)])
  rw [List.append_nil] at hended
  refine ⟨calls, lines, hcall, fun record => ?_, ?_⟩
  · have hstep : e.recording.ended (l.recorded record) =
        (e.recording.call (.closed l.status l.reason) (l.recorded record)).note "DEBUG" "websocket disconnected"
          [("status", toString (e.recording.call (.closed l.status l.reason) (l.recorded record)).status)] := rfl
    rw [hstep, htraces.recorded]
    rfl
  · rw [Endpoint.ended, hstatus]
    exact hended.log

end Steps

end Switchyard
