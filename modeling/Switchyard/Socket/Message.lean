import Switchyard.Text.Bytes

/-!
# Messages of a socket

What goes over a socket in either direction. A close frame may name a code and a reason; some codes must not
be sent.
-/

namespace Switchyard

/-- Why a socket is closed. -/
structure CloseFrame where
  code : Nat
  reason : String
  deriving DecidableEq, Repr

namespace CloseFrame

/-- Whether a code may stand in a close frame. -/
def isAllowed (code : Nat) : Bool :=
  (1000 ≤ code && code ≤ 1003) || (1007 ≤ code && code ≤ 1013) || (3000 ≤ code && code ≤ 4999)

/-- The frame that stands for one whose code is not allowed. -/
def violation : CloseFrame := ⟨1002, "Protocol violation"⟩

/-- The frame itself, if its code is allowed. -/
def sanctioned (f : CloseFrame) : CloseFrame := if isAllowed f.code then f else violation

/-- The code that is reported for a close frame without one, and for a broken connection. -/
def noStatus : Nat := 1005
def abnormal : Nat := 1006

end CloseFrame

/-- A message. -/
inductive Message where
  | text (content : String)
  | binary (data : Bytes)
  | ping (data : Bytes)
  | pong (data : Bytes)
  | close (frame : Option CloseFrame)
  deriving DecidableEq, Repr

/-- Whether a message closes the socket. -/
def Message.isClose : Message → Bool
  | .close _ => true
  | _ => false

end Switchyard
