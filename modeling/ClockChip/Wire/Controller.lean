import ClockChip.Byte.Bits
import ClockChip.Byte.Hex
import ClockChip.Wire.Responder

/-!
# The controller's end of the wire

The controller sets the lines of a device one level at a time and samples the data line.  Data
changes only while the clock is low, except to frame a transfer.  A transfer of registers sets the
register pointer first; a read then repeats the START, so that the whole burst is served from one
snapshot.

## Main definitions

* `Wire`: a device seen from its lines.
* `Wire.sendByte`, `Wire.receiveByte`: one byte and its acknowledgement.
* `Wire.writeBurst`, `Wire.readBurst`: whole transfers.
* `TransferError`: who did not acknowledge.
-/

namespace ClockChip

/-- The three things that can be done to a device on two wires. -/
structure Wire (σ : Type) where
  /-- Sets one line to a level. -/
  drive : LineEvent → σ → σ
  /-- Looks at the data line. -/
  sample : σ → Bool × σ

/-- Why a transfer ended early. -/
inductive TransferError where
  /-- No device answered to an address. -/
  | noDevice (address : UInt8)
  /-- The register pointer was refused. -/
  | pointerRefused (pointer : UInt8)
  /-- The pointer or one of the bytes behind it was refused. -/
  | writeRefused (pointer : UInt8)
  deriving DecidableEq, Repr

/-- The wording of a failed transfer. -/
def TransferError.message : TransferError → String
  | noDevice address => "No device answered at 0x" ++ String.ofList (Hex.byte address)
  | pointerRefused pointer =>
    "Register pointer 0x" ++ String.ofList (Hex.byte pointer) ++ " was not acknowledged"
  | writeRefused pointer =>
    "Write to 0x" ++ String.ofList (Hex.byte pointer) ++ " was not acknowledged"

namespace Wire

variable {σ : Type}

/-! ### Bytes -/

/-- Drives a list of events. -/
def driveAll (w : Wire σ) : List LineEvent → σ → σ
  | [], s => s
  | e :: es, s => w.driveAll es (w.drive e s)

@[simp] theorem driveAll_nil (w : Wire σ) (s : σ) : w.driveAll [] s = s := rfl

@[simp] theorem driveAll_cons (w : Wire σ) (e : LineEvent) (es : List LineEvent) (s : σ) :
    w.driveAll (e :: es) s = w.driveAll es (w.drive e s) := rfl

/-- Makes a START. -/
def start (w : Wire σ) (s : σ) : σ := w.driveAll startEvents s

/-- Makes a STOP. -/
def stop (w : Wire σ) (s : σ) : σ := w.driveAll stopEvents s

/-- Sends a byte and tells whether it was acknowledged: the device pulls the released data line
low during the ninth pulse. -/
def sendByte (w : Wire σ) (b : UInt8) (s : σ) : Bool × σ :=
  let s := w.driveAll ((Byte.levels b).flatMap bitEvents) s
  let s := w.driveAll [.data true, .clock true] s
  let (level, s) := w.sample s
  (!level, w.drive (.clock false) s)

/-- Samples the data line through `n` clock pulses. -/
def readLevels (w : Wire σ) : Nat → σ → List Bool × σ
  | 0, s => ([], s)
  | n + 1, s =>
    let (level, s) := w.sample (w.drive (.clock true) s)
    let (levels, s) := w.readLevels n (w.drive (.clock false) s)
    (level :: levels, s)

/-- Receives a byte and acknowledges it to go on, or not to end the transfer. -/
def receiveByte (w : Wire σ) (ack : Bool) (s : σ) : UInt8 × σ :=
  let (levels, s) := w.readLevels 8 (w.drive (.data true) s)
  (Byte.ofLevels levels, w.driveAll [.data !ack, .clock true, .clock false, .data true] s)

/-! ### Transfers -/

/-- Sends bytes up to the first that is not acknowledged; `true` if there was none. -/
def sendBytes (w : Wire σ) : List UInt8 → σ → Bool × σ
  | [], s => (true, s)
  | b :: bs, s =>
    let (acked, s) := w.sendByte b s
    if acked then w.sendBytes bs s else (false, s)

/-- Receives `n` bytes and acknowledges all but the last. -/
def receiveBytes (w : Wire σ) : Nat → σ → List UInt8 × σ
  | 0, s => ([], s)
  | n + 1, s =>
    let (b, s) := w.receiveByte (n != 0) s
    let (bs, s) := w.receiveBytes n s
    (b :: bs, s)

/-- Points the device at a register and writes a burst of bytes from there on. -/
def writeBurst (w : Wire σ) (pointer : UInt8) (values : List UInt8) (s : σ) :
    Except TransferError Unit × σ :=
  let (found, s) := w.sendByte writeSelect (w.start s)
  if found then
    let (acked, s) := w.sendBytes (pointer :: values) s
    (if acked then .ok () else .error (.writeRefused pointer), w.stop s)
  else (.error (.noDevice writeSelect), w.stop s)

/-- Points the device at a register and reads a burst of `n` bytes from there on. -/
def readBurst (w : Wire σ) (pointer : UInt8) (n : Nat) (s : σ) :
    Except TransferError (List UInt8) × σ :=
  let (found, s) := w.sendByte writeSelect (w.start s)
  if found then
    let (pointed, s) := w.sendByte pointer s
    if pointed then
      if n = 0 then (.ok [], w.stop s)
      else
        let (found, s) := w.sendByte readSelect (w.start s)
        if found then
          let (bytes, s) := w.receiveBytes n s
          (.ok bytes, w.stop s)
        else (.error (.noDevice readSelect), w.stop s)
    else (.error (.pointerRefused pointer), w.stop s)
  else (.error (.noDevice writeSelect), w.stop s)

end Wire

end ClockChip
