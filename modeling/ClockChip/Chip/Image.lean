import ClockChip.Byte.Encoding
import ClockChip.Chip.Basic

/-!
# Images of a running chip

An image holds everything about a chip that its store does not: bank, clock and responder, at any
instant, also in the middle of a byte.  Images come back from outside, so a chip takes one over
only if it could be its own: a memory of the right size, a clock within bounds and a responder in
a possible position.

## Main definitions

* `VirtualClock.encode`, `Responder.encode`, `Bank.encode`, and their decoders.
* `Image`, `Image.encode`, `Image.decoder`.
* `ImageError`, `Image.check`: what a chip does not take over.
* `Chip.saveImage`, `Chip.loadImage`.
-/

namespace ClockChip

/-! ### The binary forms of the parts -/

namespace VirtualClock

/-- The bytes of a virtual clock. -/
def encode (v : VirtualClock) : List UInt8 :=
  Encoding.int64 v.offset ++
    match v.mode with
    | .running => Encoding.variant 0
    | .halted latch => Encoding.variant 1 ++ Encoding.int64 latch

/-- Reads the mode of a virtual clock; `true` in front of a latch. -/
def modeDecoder : Decoder Mode := do
  if ← Decoder.variant [false, true] then return .halted (← Decoder.int64) else return .running

/-- Reads a virtual clock. -/
def decoder : Decoder VirtualClock := do
  let offset ← Decoder.int64
  let mode ← modeDecoder
  return ⟨offset, mode⟩

end VirtualClock

namespace Responder

/-- The bytes of a responder. -/
def encode (r : Responder) : List UInt8 :=
  Encoding.bool r.clock ++ Encoding.bool r.data ++ Encoding.variant (Phase.all.idxOf r.phase)
    ++ [r.bit, r.shift] ++ Encoding.count r.pointer

/-- Reads a responder. -/
def decoder : Decoder Responder := do
  let clock ← Decoder.bool
  let data ← Decoder.bool
  let phase ← Decoder.variant Phase.all
  let bit ← Decoder.byte
  let shift ← Decoder.byte
  let pointer ← Decoder.count
  return ⟨clock, data, phase, bit, shift, pointer⟩

end Responder

namespace Bank

/-- The bytes of a bank. -/
def encode (b : Bank) : List UInt8 :=
  Encoding.vector b.stored ++ Encoding.vector b.snapshot ++ Encoding.bytes b.ram
    ++ Encoding.bool b.twelveHour

/-- Reads a bank. -/
def decoder : Decoder Bank := do
  let stored ← Decoder.vector 16
  let snapshot ← Decoder.vector 16
  let ram ← Decoder.bytes
  let twelveHour ← Decoder.bool
  return ⟨stored, snapshot, ram, twelveHour⟩

end Bank

/-! ### Images -/

/-- The volatile state of a chip. -/
structure Image where
  /-- Registers and memory. -/
  bank : Bank
  /-- The virtual clock. -/
  time : VirtualClock
  /-- The chip's end of the wire. -/
  responder : Responder
  deriving DecidableEq, Repr

/-- Why a chip does not take over an image. -/
inductive ImageError where
  /-- The bytes are no image. -/
  | undecodable (cause : DecodeError)
  /-- The memory has another size. -/
  | ramSize (found : Nat)
  /-- The clock is too far from the host's. -/
  | offset (found : Instant)
  /-- The responder is in an impossible position. -/
  | responder (cause : Responder.Fault)
  deriving DecidableEq, Repr

/-- The wording of an image's fault. -/
def ImageError.message : ImageError → String
  | undecodable cause => cause.message
  | ramSize found => "Invalid save state: " ++ toString found ++ " bytes of RAM"
  | offset found => "Invalid save state: clock offset " ++ toString found.toInt
  | responder cause => "Invalid save state: " ++ cause.message

namespace Image

/-- The bytes of an image. -/
def encode (i : Image) : List UInt8 := i.bank.encode ++ i.time.encode ++ i.responder.encode

/-- Reads an image. -/
def decoder : Decoder Image := do
  let bank ← Bank.decoder
  let time ← VirtualClock.decoder
  let responder ← Responder.decoder
  return ⟨bank, time, responder⟩

/-- Looks for something in an image that a chip cannot take over. -/
def check (i : Image) : Except ImageError Unit :=
  -- memory, clock and responder are looked at in this order
  if i.bank.ram.length ≠ ramSize then .error (.ramSize i.bank.ram.length)
  else if ¬ OffsetInBounds i.time.offset then .error (.offset i.time.offset)
  else
    match i.responder.check addressCount with
    | .error fault => .error (.responder fault)
    | .ok () => .ok ()

/-- The image that bytes stand for, if a chip can take it over. -/
def read (bs : List UInt8) : Except ImageError Image :=
  match decoder.decode bs with
  | .error e => .error (.undecodable e)
  | .ok i =>
    match i.check with
    | .error e => .error e
    | .ok () => .ok i

end Image

namespace Chip

/-- The volatile state of a chip. -/
def image (c : Chip) : Image := ⟨c.bank, c.time, c.responder⟩

/-- The bytes of a chip's image. -/
def saveImage (c : Chip) : List UInt8 := c.image.encode

/-- The chip with another image.  Its name and what it knows of its store stay. -/
def withImage (c : Chip) (i : Image) : Chip :=
  { c with bank := i.bank, time := i.time, responder := i.responder }

/-- The chip with the image that bytes stand for. -/
def loadImage (c : Chip) (bs : List UInt8) : Except ImageError Chip :=
  match Image.read bs with
  | .error e => .error e
  | .ok i => .ok (c.withImage i)

end Chip

end ClockChip
