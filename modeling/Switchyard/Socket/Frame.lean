import Switchyard.Socket.Message
import Switchyard.Text.Utf8

/-!
# Frames

The bytes of a connection come in frames: a head with an operation and a length, a mask, and the payload.
Reading stops at the first fault, and waits where a frame is not complete.
-/

namespace Switchyard

/-- What a frame is for. -/
inductive Opcode where
  | continuation
  | text
  | binary
  | close
  | ping
  | pong
  deriving DecidableEq, Repr

namespace Opcode

/-- The number of an operation. -/
def number : Opcode → Nat
  | continuation => 0
  | text => 1
  | binary => 2
  | close => 8
  | ping => 9
  | pong => 10

/-- The operation of a number. -/
def ofNumber? (n : Nat) : Option Opcode :=
  [continuation, text, binary, close, ping, pong].find? fun o => o.number == n

/-- An operation that is not about data. -/
def isControl : Opcode → Bool
  | close | ping | pong => true
  | _ => false

/-- The name of an operation on data. -/
def name : Opcode → String
  | text => "TEXT"
  | binary => "BINARY"
  | _ => "CONTINUE"

end Opcode

/-! ## Faults -/

/-- Why a connection breaks. -/
inductive TransportFault where
  | invalidOpcode (number : Nat)
  | unmasked
  | reservedBits
  | fragmentedControl
  | controlTooBig
  | invalidClose
  | unexpectedContinuation
  | expectedFragment (opcode : Opcode)
  /-- The other side has gone without closing. -/
  | reset
  | tooLong (size limit : Nat)
  | notText (reason : String)
  /-- Any other fault of what carries the frames, in its own words. -/
  | carrier (text : String)
  deriving DecidableEq, Repr

namespace TransportFault

/-- What a fault of the protocol is called. -/
def protocol (reason : String) : String := s!"WebSocket protocol error: {reason}"

/-- The wording of a fault. -/
def message : TransportFault → String
  | invalidOpcode n => protocol s!"Encountered invalid opcode: {n}"
  | unmasked => protocol "Received an unmasked frame from client"
  | reservedBits => protocol "Reserved bits are non-zero"
  | fragmentedControl => protocol "Fragmented control frame"
  | controlTooBig => protocol "Control frame too big (payload must be 125 bytes or less)"
  | invalidClose => protocol "Invalid close sequence"
  | unexpectedContinuation => protocol "Continue frame but nothing to continue"
  | expectedFragment opcode => protocol s!"While waiting for more fragments received: {opcode.name}"
  | reset => protocol "Connection reset without closing handshake"
  | tooLong size limit => s!"Space limit exceeded: Message too long: {size} > {limit}"
  | notText reason => s!"UTF-8 encoding error: {reason}"
  | carrier text => text

end TransportFault

/-! ## Reading -/

/-- A frame whose payload is no longer masked. -/
structure Frame where
  final : Bool
  reserved : Bool
  opcode : Opcode
  payload : Bytes
  deriving DecidableEq, Repr

/-- The number that bytes make up, the first one counting most. -/
def bigEndian (bytes : Bytes) : Nat := bytes.foldl (fun n b => n * 256 + b.toNat) 0

/-- The first bytes, if there are so many, and the others. -/
def takeBytes? (count : Nat) (bytes : Bytes) : Option (Bytes × Bytes) :=
  let front := bytes.take count
  if front.length = count then some (front, bytes.drop count) else none

/-- Applies a mask, which also takes it away. -/
def masked (mask payload : Bytes) : Bytes :=
  if mask.all (· == 0) then payload
  else payload.zipIdx.map fun (b, i) => b ^^^ mask.getD (i % 4) 0

/-- The head of a frame. -/
structure FrameHead where
  first : Nat
  length : Nat
  mask : Option Bytes

/-- Reads the length of a payload, which may follow in more bytes. -/
def frameLength? (short : Nat) (bytes : Bytes) : Option (Nat × Bytes) :=
  let extra := if short = 126 then 2 else if short = 127 then 8 else 0
  if extra = 0 then some (short, bytes)
  else (takeBytes? extra bytes).map fun (front, rest) => (bigEndian front, rest)

/-- Reads a head, if it is complete. -/
def frameHead? (bytes : Bytes) : Option (FrameHead × Bytes) :=
  match bytes with
  | first :: second :: rest =>
    match frameLength? (second.toNat % 128) rest with
    | none => none
    | some (length, rest) =>
      if second.toNat < 128 then some (⟨first.toNat, length, none⟩, rest)
      else (takeBytes? 4 rest).map fun (mask, rest) => (⟨first.toNat, length, some mask⟩, rest)
  | _ => none

/-- What the bytes of a connection come to. -/
inductive FrameReading where
  /-- More bytes are needed. -/
  | waiting
  | broken (fault : TransportFault)
  | frame (f : Frame) (rest : Bytes)

/-- The greatest payload of a frame. -/
def frameLimit : Nat := 16777216

/-- Reads a frame from one who has to mask what is sent. -/
def readFrame (bytes : Bytes) : FrameReading :=
  match frameHead? bytes with
  | none => .waiting
  | some (head, rest) =>
    match Opcode.ofNumber? (head.first % 16) with
    | none => .broken (.invalidOpcode (head.first % 16))
    | some opcode =>
      if frameLimit < head.length then .broken (.tooLong head.length frameLimit)
      else
        match takeBytes? head.length rest with
        | none => .waiting
        | some (payload, rest) =>
          match head.mask with
          | none => .broken .unmasked
          | some mask =>
            .frame ⟨128 ≤ head.first, head.first / 16 % 8 ≠ 0, opcode, masked mask payload⟩ rest

/-! ## Writing -/

/-- The low bytes of a number, so many, the first one counting most. -/
def bigEndianBytes : (count : Nat) → Nat → Bytes
  | 0, _ => []
  | count + 1, n => bigEndianBytes count (n / 256) ++ [UInt8.ofNat (n % 256)]

/-- The bytes of a frame under a mask of zeros. -/
def Frame.write (f : Frame) : Bytes :=
  let first := (if f.final then 128 else 0) + (if f.reserved then 64 else 0) + f.opcode.number
  let size := f.payload.length
  let length : Bytes :=
    if size < 126 then [UInt8.ofNat (128 + size)]
    else if size < 65536 then 254 :: bigEndianBytes 2 size
    else 255 :: bigEndianBytes 8 size
  UInt8.ofNat first :: (length ++ [0, 0, 0, 0] ++ f.payload)

/-- The payload of a close frame. -/
def CloseFrame.payload (f : CloseFrame) : Bytes := bigEndianBytes 2 f.code ++ Utf8.encode f.reason

/-- The frame of a message. -/
def Message.frame : Message → Frame
  | .text s => ⟨true, false, .text, Utf8.encode s⟩
  | .binary data => ⟨true, false, .binary, data⟩
  | .ping data => ⟨true, false, .ping, data⟩
  | .pong data => ⟨true, false, .pong, data⟩
  | .close f => ⟨true, false, .close, (f.map CloseFrame.payload).getD []⟩

end Switchyard
