import Switchyard.Socket.Frame

/-!
# Assembling messages

A message of data may come in several frames, between which control frames may stand. The size of a message
is limited, and a text has to be UTF-8.
-/

namespace Switchyard

/-- A message of which more frames have to come. -/
structure Fragments where
  isText : Bool
  data : Bytes
  deriving DecidableEq, Repr

/-- The message that is being assembled. -/
abbrev Assembly := Option Fragments

/-- A text, or the fault of its bytes. -/
def wholeText (data : Bytes) : Except TransportFault Message :=
  match Utf8.decode data with
  | .ok s => .ok (.text s)
  | .error fault => .error (.notText fault.message)

/-- The bytes in front of which a text is cut short, in a field of four. -/
def cutShort (rest : Bytes) : String :=
  let field := ", ".intercalate ((rest ++ List.replicate (4 - rest.length) 0).map fun (b : UInt8) => toString b.toNat)
  s!"incomplete string: Incomplete \x7b buffer: [{field}], buffer_len: {rest.length} \x7d"

namespace Fragments

/-- Checks that a message is not too long. -/
def checkSize (limit size : Nat) : Except TransportFault Unit :=
  if limit < size then .error (.tooLong size limit) else .ok ()

/-- Adds the payload of a frame; a text may only be cut short at its end. -/
def extend (limit : Nat) (m : Fragments) (payload : Bytes) : Except TransportFault Fragments :=
  let data := m.data ++ payload
  match checkSize limit data.length with
  | .error fault => .error fault
  | .ok () =>
    if !m.isText then .ok { m with data }
    else
      match Utf8.decode data with
      | .ok _ | .error (.incomplete _) => .ok { m with data }
      | .error (.invalid ..) => .error (.notText (.ofList [Char.ofNat 0xFFFD]))

/-- The message, when the last frame has come. -/
def complete (m : Fragments) : Except TransportFault Message :=
  if !m.isText then .ok (.binary m.data)
  else
    match Utf8.decode m.data with
    | .ok s => .ok (.text s)
    | .error fault => .error (.notText (cutShort (m.data.drop fault.index)))

end Fragments

/-- The close frame of a payload. -/
def closeFrame (payload : Bytes) : Except TransportFault (Option CloseFrame) :=
  match payload with
  | [] => .ok none
  | [_] => .error .invalidClose
  | a :: b :: reason =>
    match Utf8.decode reason with
    | .ok s => .ok (some ⟨bigEndian [a, b], s⟩)
    | .error fault => .error (.notText fault.message)

/-- The message of a control frame. -/
def controlMessage (f : Frame) : Except TransportFault Message :=
  if !f.final then .error .fragmentedControl
  else if 125 < f.payload.length then .error .controlTooBig
  else
    match f.opcode with
    | .close => (closeFrame f.payload).map .close
    | .ping => .ok (.ping f.payload)
    | _ => .ok (.pong f.payload)

namespace Assembly

/-- Adds a frame that goes on with a message or starts one. -/
def extend (limit : Nat) (m : Fragments) (f : Frame) : Except TransportFault (Option Message × Assembly) :=
  match m.extend limit f.payload with
  | .error fault => .error fault
  | .ok m => if f.final then m.complete.map fun whole => (some whole, none) else .ok (none, some m)

/-- Adds a frame of data. -/
def acceptData (limit : Nat) (a : Assembly) (f : Frame) : Except TransportFault (Option Message × Assembly) :=
  match f.opcode, a with
  | .continuation, none => .error .unexpectedContinuation
  | .continuation, some m => extend limit m f
  | opcode, some _ => .error (.expectedFragment opcode)
  | opcode, none =>
    if !f.final then extend limit ⟨opcode == .text, []⟩ f
    else
      match Fragments.checkSize limit f.payload.length with
      | .error fault => .error fault
      | .ok () =>
        if opcode = .text then (wholeText f.payload).map fun whole => (some whole, none)
        else .ok (some (.binary f.payload), none)

/-- Adds a frame; the result holds the message that is complete with it. -/
def accept (limit : Nat) (a : Assembly) (f : Frame) : Except TransportFault (Option Message × Assembly) :=
  if f.reserved then .error .reservedBits
  else if f.opcode.isControl then (controlMessage f).map fun m => (some m, a)
  else acceptData limit a f

end Assembly

end Switchyard
