import ClockChip.Byte.Bits
import ClockChip.Byte.Hex
import ClockChip.Wire.Event

/-!
# The device's end of the wire

A responder follows the events on the two lines one by one, finds the STARTs, STOPs and bytes in
them, answers to its two addresses and turns the bytes of a transfer into reads and writes of a
register map.  The first byte after a START selects the direction; in a write transfer the next
one sets the register pointer and the others are stored; in a read transfer bytes are sent from
the pointer on until one of them is not acknowledged.

## Main definitions

* `Phase`, `Responder`: where in a transfer the responder is.
* `RegisterMap`: what the responder reads and writes.
* `Responder.step`, `Responder.run`: one event, and a list of them.
* `Responder.step?`: one event in front of a register map that may have no register.
* `Responder.sends`: the level the responder leaves on the data line.
* `Responder.check`: whether a responder restored from outside can go on.
-/

namespace ClockChip

/-- The byte that selects the device for a write transfer. -/
def writeSelect : UInt8 := 0xa0

/-- The byte that selects the device for a read transfer. -/
def readSelect : UInt8 := 0xa1

/-- The stages of a transfer, as the responder sees them. -/
inductive Phase where
  /-- Waiting for a START. -/
  | idle
  /-- A START has been seen and the clock has not yet fallen. -/
  | started
  /-- Taking in the address byte. -/
  | addressing
  /-- Acknowledging the address of a write transfer. -/
  | writeChosen
  /-- Acknowledging the address of a read transfer. -/
  | readChosen
  /-- Taking in the register pointer. -/
  | pointing
  /-- Acknowledging the register pointer. -/
  | pointed
  /-- Sending a byte. -/
  | sending
  /-- Waiting for the controller to acknowledge a byte. -/
  | sent
  /-- Taking in a byte to write. -/
  | receiving
  /-- Acknowledging a byte that was written. -/
  | received
  deriving DecidableEq, Repr

namespace Phase

/-- All phases, in the order of their numbers. -/
def all : List Phase :=
  [idle, started, addressing, writeChosen, readChosen, pointing, pointed, sending, sent,
    receiving, received]

/-- The name under which a phase is reported. -/
def name : Phase → String
  | idle => "Idle"
  | started => "StartWait"
  | addressing => "GetAddress"
  | writeChosen => "AddressWriteAck"
  | readChosen => "AddressReadAck"
  | pointing => "GetRegNr"
  | pointed => "RegNrAck"
  | sending => "ReadRegs"
  | sent => "ReadAck"
  | receiving => "WriteRegs"
  | received => "WriteAck"

end Phase

/-- What a responder reads and writes bytes through. -/
structure RegisterMap (σ : Type) where
  /-- The number of registers; the pointer wraps around behind the last. -/
  count : Nat
  /-- What a START does. -/
  onStart : σ → σ
  /-- Reads a register, and may take note of it. -/
  read : σ → (address : Nat) → UInt8 × σ
  /-- Writes a register. -/
  write : σ → (address : Nat) → (val : UInt8) → σ

/-- The state of a responder. -/
structure Responder where
  /-- The level of the clock line. -/
  clock : Bool
  /-- The level of the data line. -/
  data : Bool
  /-- The stage of the transfer. -/
  phase : Phase
  /-- How many bits of the current byte have passed. -/
  bit : UInt8
  /-- The byte that is being taken in or sent. -/
  shift : UInt8
  /-- The register that is read or written next. -/
  pointer : Nat
  deriving DecidableEq, Repr

namespace Responder

/-- A responder on released lines, before its first START. -/
def released : Responder := ⟨true, true, .idle, 0, 0, 0⟩

/-! ### Steps within a transfer -/

/-- The byte is begun anew. -/
def clear (r : Responder) : Responder := { r with shift := 0, bit := 0 }

/-- The level of the data line is taken in as the next bit. -/
def takeBit (r : Responder) : Responder :=
  { r with shift := r.shift ||| (levelBit r.data <<< (7 - r.bit)), bit := r.bit + 1 }

/-- All bits of the byte have passed. -/
def complete (r : Responder) : Bool := r.bit == 8

/-- The pointer moves on to the next of `count` registers. -/
def advance (r : Responder) (count : Nat) : Responder :=
  { r with pointer := (r.pointer + 1) % count }

/-- The byte at the pointer is read and made ready to be sent. -/
def load {σ : Type} (r : Responder) (f : RegisterMap σ) (s : σ) : Responder × σ :=
  let (val, s) := f.read s r.pointer
  ({ r with shift := val, bit := 0, phase := .sending }, s)

/-- The phase after an address byte. -/
def choose (address : UInt8) : Phase :=
  if address = writeSelect then .writeChosen
  else if address = readSelect then .readChosen
  else .idle

/-- What the responder does when the clock falls. -/
def fall {σ : Type} (f : RegisterMap σ) (r : Responder) (s : σ) : Responder × σ :=
  match r.phase with
  | .idle => (r, s)
  | .started => ({ r with phase := .addressing }, s)
  | .addressing =>
    let q := r.takeBit
    (if q.complete then { q with phase := choose q.shift } else q, s)
  | .writeChosen => ({ r.clear with phase := .pointing }, s)
  | .readChosen => r.load f s
  | .pointing =>
    let q := r.takeBit
    (if q.complete then { q with pointer := q.shift.toNat % f.count, phase := .pointed } else q, s)
  | .pointed | .received => ({ r.clear with phase := .receiving }, s)
  | .receiving =>
    let q := r.takeBit
    if q.complete then ({ q.advance f.count with phase := .received }, f.write s q.pointer q.shift)
    else (q, s)
  | .sending =>
    let q := { r with bit := r.bit + 1 }
    (if q.complete then { q with phase := .sent } else q, s)
  -- data high at the ninth pulse: the controller wants no more
  | .sent => if r.data then ({ r with phase := .idle }, s) else (r.advance f.count).load f s

/-! ### Line events -/

/-- The clock line is set to a level.  Only its fall has an effect. -/
def onClock {σ : Type} (f : RegisterMap σ) (level : Bool) (r : Responder) (s : σ) :
    Responder × σ :=
  if r.clock = level then (r, s)
  else if level then ({ r with clock := true }, s)
  else fall f { r with clock := false } s

/-- The data line is set to a level.  While the clock is high its fall is a START and its rise a
STOP. -/
def onData {σ : Type} (f : RegisterMap σ) (level : Bool) (r : Responder) (s : σ) :
    Responder × σ :=
  if r.data = level then (r, s)
  else if r.clock then
    if level then ({ r with data := true, phase := .idle }, s)
    else ({ r.clear with data := false, phase := .started }, f.onStart s)
  else ({ r with data := level }, s)

/-- One line event. -/
def step {σ : Type} (f : RegisterMap σ) (e : LineEvent) (r : Responder) (s : σ) :
    Responder × σ :=
  match e with
  | .clock level => onClock f level r s
  | .data level => onData f level r s

/-- A list of line events, in order. -/
def run {σ : Type} (f : RegisterMap σ) : List LineEvent → Responder → σ → Responder × σ
  | [], r, s => (r, s)
  | e :: es, r, s => let (q, t) := step f e r s; run f es q t

@[simp] theorem run_nil {σ : Type} (f : RegisterMap σ) (r : Responder) (s : σ) :
    run f [] r s = (r, s) := rfl

@[simp] theorem run_cons {σ : Type} (f : RegisterMap σ) (e : LineEvent) (es : List LineEvent)
    (r : Responder) (s : σ) :
    run f (e :: es) r s = run f es (step f e r s).1 (step f e r s).2 := rfl

theorem run_append {σ : Type} (f : RegisterMap σ) (es fs : List LineEvent) (r : Responder)
    (s : σ) : run f (es ++ fs) r s = run f fs (run f es r s).1 (run f es r s).2 := by
  induction es generalizing r s with
  | nil => rfl
  | cons e es ih => exact ih _ _

/-- The event makes the responder take a register pointer, or read or write a register. -/
def addresses (e : LineEvent) (r : Responder) : Bool :=
  match e with
  | .data _ => false
  | .clock level =>
    r.clock && !level &&
      match r.phase with
      | .pointing | .receiving => r.takeBit.complete
      | .readChosen => true
      | .sent => !r.data
      | _ => false

/-- The responder at the moment at which it addresses a register: the clock has fallen, and a byte
that was being taken in is complete. -/
def reaching (r : Responder) : Responder :=
  let q := { r with clock := false }
  match r.phase with
  | .pointing | .receiving => q.takeBit
  | _ => q

/-- One line event.  In front of a register map that has no register, the responder stops where it
would address one. -/
def step? {σ : Type} (f : RegisterMap σ) (e : LineEvent) (r : Responder) (s : σ) :
    Except Responder (Responder × σ) :=
  if f.count = 0 ∧ r.addresses e = true then .error r.reaching else .ok (step f e r s)

/-- The level that the responder leaves on the data line: a bit while it sends, low while it
acknowledges and while it waits to be acknowledged, otherwise released. -/
def sends (r : Responder) : Bool :=
  match r.phase with
  | .sending => r.shift &&& (1 <<< (7 - r.bit)) != 0
  | .writeChosen | .readChosen | .pointed | .sent | .received => false
  | .idle | .started | .addressing | .pointing | .receiving => true

/-! ### Restored responders -/

/-- Why a restored responder cannot go on. -/
inductive Fault where
  /-- The pointer lies behind the last register. -/
  | pointerOutside (pointer count : Nat)
  /-- More bits have passed than a byte has. -/
  | bitCount (bit : UInt8) (phase : Phase)
  deriving DecidableEq, Repr

/-- The wording of a fault. -/
def Fault.message : Fault → String
  | pointerOutside pointer count =>
    "Register pointer 0x" ++ String.ofList (Hex.short pointer) ++ " outside "
      ++ toString count ++ " bytes"
  | bitCount bit phase => "Bit count " ++ toString bit.toNat ++ " in " ++ phase.name

/-- The largest bit count of a phase. -/
def bitLimit (phase : Phase) : UInt8 := if phase = .sending then 7 else 8

/-- Checks a responder against a register map of `count` registers. -/
def check (r : Responder) (count : Nat) : Except Fault Unit :=
  if count ≤ r.pointer then .error (.pointerOutside r.pointer count)
  else if bitLimit r.phase < r.bit then .error (.bitCount r.bit r.phase)
  else .ok ()

end Responder

end ClockChip
