import Switchyard.Socket.Assembly
import Switchyard.Socket.Endpoint

/-!
# Connections

A connection between an endpoint and a peer. The endpoint reads everything that has arrived before its writer
takes messages from the queue of the session. A ping is answered at once, and so is the closing of the
connection by either side; after it nothing more is written.
-/

namespace Switchyard

/-- Which side has closed a connection. -/
inductive Closing where
  | none
  | ours
  | done
  deriving DecidableEq, Repr

/-- What a peer gets. -/
inductive Delivery where
  | message (m : Message)
  /-- Nothing more will come. -/
  | ended
  deriving DecidableEq, Repr

/-- A connection, seen from the endpoint. -/
structure Connection (S : Type) where
  endpoint : Endpoint S
  /-- The greatest message that is read. -/
  limit : Nat
  life : Life S
  closing : Closing := .none
  /-- The bytes that have arrived and are not read yet. -/
  pending : Bytes := []
  assembly : Assembly := .none
  /-- The life of the connection is over. -/
  isOver : Bool := false
  /-- What the peer has got since it last looked. -/
  delivered : List Delivery := []

namespace Connection

variable {S : Type}

/-- Hands a message to the peer. -/
def deliver (c : Connection S) (m : Message) : Connection S :=
  { c with delivered := c.delivered ++ [.message m] }

/-- Ends the life of the connection. -/
def finish (c : Connection S) : Connection S := { c with life := c.endpoint.ended c.life, isOver := true }

/-- Ends the life of the connection with a fault. -/
def breakOff (c : Connection S) (fault : TransportFault) : Connection S :=
  { c with life := c.endpoint.broke fault c.life }.finish

/-- Hands a message to the endpoint. -/
def hand (c : Connection S) (m : Message) : Connection S := { c with life := c.endpoint.arrived m c.life }

/-- Takes a message of the peer. -/
def take (c : Connection S) (m : Message) : Connection S :=
  match m, c.closing with
  | .ping data, .none => (c.deliver (.pong data)).hand m
  | .close f, .none =>
    let f := f.map CloseFrame.sanctioned
    { (c.deliver (.close f)).hand (.close f) with closing := .done }.finish
  | .close _, _ => { c.hand m with closing := .done }.finish
  | _, _ => c.hand m

/-- Reads what has arrived, up to the end of the life of the connection. -/
def readAll : (fuel : Nat) → Connection S → Connection S
  | 0, c => c
  | fuel + 1, c =>
    if c.isOver then c
    else
      match readFrame c.pending with
      | .waiting => c
      | .broken fault => c.breakOff fault
      | .frame f rest =>
        match c.assembly.accept c.limit f with
        | .error fault => { c with pending := rest }.breakOff fault
        | .ok (message, assembly) =>
          let c := { c with pending := rest, assembly }
          readAll fuel ((message.map c.take).getD c)

/-- Takes a step of the writer; a closing message is answered by the peer at once. -/
def write (c : Connection S) : Connection S :=
  let (taken, outbox) := c.life.session.outbox.step (c.closing = .none)
  let c := { c with life := { c.life with session := { c.life.session with outbox } } }
  match taken, c.closing with
  | some (.close f), .none =>
    let f := f.map CloseFrame.sanctioned
    { c.deliver (.close f) with closing := .ours, pending := c.pending ++ (Message.close f).frame.write }
  | some m, .none => c.deliver m
  | _, _ => c

/-- Takes steps of the writer. -/
def writeAll : (fuel : Nat) → Connection S → Connection S
  | 0, c => c
  | fuel + 1, c => writeAll fuel c.write

/-- Reads and then writes. -/
def round (c : Connection S) : Connection S :=
  let c := c.readAll (c.pending.length + 1)
  c.writeAll c.life.session.outbox.queue.length

/-- Reads and writes until nothing is left to do; the answer to a closing message may need a second round. -/
def settle (c : Connection S) : Connection S :=
  let c := c.round.round
  if c.isOver then { c with delivered := c.delivered ++ [.ended] } else c

/-- A connection that has just been opened. -/
def start (endpoint : Endpoint S) (limit : Nat) (session : Session) (world : World S) : Connection S :=
  { endpoint, limit, life := endpoint.opened { session, world } : Connection S }.settle

/-- What a peer does. -/
inductive Act where
  | send (f : Frame)
  /-- Sends bytes that need not be frames. -/
  | raw (data : Bytes)
  /-- Goes without closing. -/
  | abort

/-- Whether something a peer does reaches the endpoint, and what the connection is afterwards. -/
def perform (c : Connection S) (act : Act) : Bool × Connection S :=
  if c.isOver then (false, c)
  else
    match act with
    | .send f => (true, { c with pending := c.pending ++ f.write }.settle)
    | .raw data => (true, { c with pending := c.pending ++ data }.settle)
    | .abort => (true, { ({ c with closing := .done }.breakOff .reset).round with delivered := [] })

end Connection

end Switchyard
