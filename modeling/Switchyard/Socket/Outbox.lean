import Switchyard.Socket.Message

/-!
# Outgoing messages

Messages are accepted into a queue, from which a writer takes them in order. The writer stops after a close
message, or when a message cannot be written; from then on nothing is accepted.
-/

namespace Switchyard

/-- The queue between those who send and the writer. -/
structure Outbox where
  /-- What was accepted and not yet taken. -/
  queue : List Message
  /-- The writer has not stopped. -/
  isOpen : Bool
  deriving Repr

namespace Outbox

/-- A queue that nothing was sent to. -/
def empty : Outbox := ⟨[], true⟩

/-- Accepts a message, if the writer has not stopped. -/
def send? (o : Outbox) (m : Message) : Option Outbox :=
  if o.isOpen then some { o with queue := o.queue ++ [m] } else none

/-- A step of the writer: takes the first message and hands it over; `written` tells whether that succeeded. -/
def step (written : Bool) (o : Outbox) : Option Message × Outbox :=
  match o.isOpen, o.queue with
  | true, m :: rest => if !written || m.isClose then (some m, ⟨[], false⟩) else (some m, ⟨rest, true⟩)
  | _, _ => (none, o)

/-- What the writer hands over in so many steps, if every message is written. -/
def steps : Nat → Outbox → List Message × Outbox
  | 0, o => ([], o)
  | n + 1, o =>
    match o.step true with
    | (none, o) => ([], o)
    | (some m, o) =>
      let (taken, o) := steps n o
      (m :: taken, o)

/-- Runs the writer until it waits or stops. -/
def drain (o : Outbox) : List Message × Outbox := steps o.queue.length o

end Outbox

end Switchyard
