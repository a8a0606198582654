import ClockChip.Clock.Virtual
import ClockChip.Register.Packing

/-!
# The register bank

Sixteen registers stand in front of a general-purpose memory.  Reading a register never looks at
the clock: every START latches the time and the stored registers into a snapshot, and reads are
served from it, so that one burst shows one instant.  Writing a time register sets the virtual
clock; the control and alarm registers are stored; the hundredths and the timer cannot be written.

## Main definitions

* `Register`: the sixteen registers in the order of their addresses.
* `Bank`: stored registers, snapshot, memory and mode.
* `Bank.latch`: the snapshot of an instant.
* `Bank.read`, `Bank.write`: one byte of the address space, with `Bank.read?` and `Bank.write?`
  for addresses that may lie behind the memory.
-/

namespace ClockChip

/-- The number of registers. -/
def registerCount : Nat := 16

/-- The number of bytes of memory behind the registers. -/
def ramSize : Nat := 240

/-- The number of addresses of a chip. -/
def addressCount : Nat := registerCount + ramSize

/-- What a register is for. -/
inductive Register where
  /-- The halt bit and bits that are merely stored. -/
  | control
  /-- Hundredths of the second. -/
  | hundredths
  /-- Seconds. -/
  | seconds
  /-- Minutes. -/
  | minutes
  /-- Mode and hours. -/
  | hours
  /-- Year and day of the month. -/
  | yearDay
  /-- Weekday and month. -/
  | weekdayMonth
  /-- Days of the timer, which is not kept. -/
  | timerDays
  /-- One of the eight registers that hold the alarm, which never rings. -/
  | alarm
  deriving DecidableEq, Repr

/-- The register at an address; `none` in the memory. -/
def Register.at? : Nat → Option Register
  | 0 => some control
  | 1 => some hundredths
  | 2 => some seconds
  | 3 => some minutes
  | 4 => some hours
  | 5 => some yearDay
  | 6 => some weekdayMonth
  | 7 => some timerDays
  | n => if n < registerCount then some alarm else none

/-- The bit of the control register that halts the clock. -/
def haltBit : Nat := 7

/-- Sixteen register bytes. -/
abbrev RegisterBytes := Vector UInt8 16

/-- The registers, their snapshot, and the memory behind them. -/
structure Bank where
  /-- What was stored in the control and alarm registers. -/
  stored : RegisterBytes
  /-- What reads of the registers show until the next START. -/
  snapshot : RegisterBytes
  /-- The memory. -/
  ram : List UInt8
  /-- Hours are shown from 1 to 12. -/
  twelveHour : Bool
  deriving DecidableEq, Repr

namespace Bank

/-- A bank in twenty-four hour mode whose snapshot is still empty. -/
def ofStored (stored : RegisterBytes) (ram : List UInt8) : Bank :=
  ⟨stored, Vector.replicate 16 0, ram, false⟩

/-- The number of addresses. -/
def size (b : Bank) : Nat := registerCount + b.ram.length

/-! ### The snapshot -/

/-- The byte of the hours register at a virtual time. -/
def hoursByte (b : Bank) (clock : HostClock) (now : Instant) : UInt8 :=
  Hours.pack (clock.fieldByte (if b.twelveHour then .hourAmPm else .hour) now .packed) b.twelveHour

/-- The sixteen bytes that the registers show at a virtual time. -/
def shown (b : Bank) (clock : HostClock) (now : Instant) : RegisterBytes :=
  #v[b.stored[0],
    clock.hundredthsByte .packed,
    clock.fieldByte .second now .packed,
    clock.fieldByte .minute now .packed,
    b.hoursByte clock now,
    YearDay.pack (clock.fieldByte .year now .packed) (clock.fieldByte .dayOfMonth now .packed),
    WeekdayMonth.pack (clock.fieldByte .weekday now .packed) (clock.fieldByte .month now .packed),
    0,
    b.stored[8], b.stored[9], b.stored[10], b.stored[11],
    b.stored[12], b.stored[13], b.stored[14], b.stored[15]]

/-- Latches what the registers show now; every START does. -/
def latch (b : Bank) (v : VirtualClock) (clock : HostClock) : Bank :=
  { b with snapshot := b.shown clock (v.now clock) }

/-! ### Reading -/

/-- The byte at an address: the snapshot for a register, the memory behind.  Behind the memory
there is nothing but zeros. -/
def read (b : Bank) (address : Nat) : UInt8 :=
  if h : address < 16 then b.snapshot[address] else b.ram.getD (address - 16) 0

/-- The byte at an address; `none` behind the memory. -/
def read? (b : Bank) (address : Nat) : Option UInt8 :=
  if address < b.size then some (b.read address) else none

/-! ### Writing -/

/-- Stores a byte in the register at an address. -/
def store (b : Bank) (address : Nat) (val : UInt8) : Bank :=
  if h : address < 16 then { b with stored := b.stored.set address val } else b

/-- Stores a byte in the memory. -/
def storeRam (b : Bank) (address : Nat) (val : UInt8) : Bank :=
  { b with ram := b.ram.set (address - 16) val }

/-- The virtual clock set by the byte written to a time register. -/
def setTime (r : Register) (val : UInt8) (v : VirtualClock) (clock : HostClock) : VirtualClock :=
  match r with
  | .control => v.haltIf (Byte.bit val haltBit) clock
  | .seconds => v.set clock .second val.toNat .packed
  | .minutes => v.set clock .minute val.toNat .packed
  | .hours =>
    let (twelveHour, raw) := Hours.unpack val
    v.set clock (if twelveHour then .hourAmPm else .hour) raw.toNat .packed
  | .yearDay =>
    let (year, day) := YearDay.unpack val
    (v.set clock .year year.toNat .packed).set clock .dayOfMonth day.toNat .packed
  | .weekdayMonth =>
    let (weekday, month) := WeekdayMonth.unpack val
    (v.set clock .weekday weekday .packed).set clock .month month.toNat .packed
  | .hundredths | .timerDays | .alarm => v

/-- The bank after a byte is written to a register or to the memory. -/
def keep (b : Bank) (address : Nat) (val : UInt8) : Bank :=
  match Register.at? address with
  | some .control | some .alarm => b.store address val
  | some .hours => { b with twelveHour := (Hours.unpack val).1 }
  | some _ => b
  | none => b.storeRam address val

/-- The virtual clock after a byte is written to an address. -/
def drive (address : Nat) (val : UInt8) (v : VirtualClock) (clock : HostClock) : VirtualClock :=
  match Register.at? address with
  | some r => setTime r val v clock
  | none => v

/-- Writes a byte.  A write behind the memory is lost. -/
def write (b : Bank) (v : VirtualClock) (clock : HostClock) (address : Nat) (val : UInt8) :
    Bank × VirtualClock :=
  (b.keep address val, drive address val v clock)

/-- Writes a byte; `none` behind the memory. -/
def write? (b : Bank) (v : VirtualClock) (clock : HostClock) (address : Nat) (val : UInt8) :
    Option (Bank × VirtualClock) :=
  if address < b.size then some (b.write v clock address val) else none

/-- Only the control register halts and resumes; setting a field does neither. -/
theorem isHalted_drive (address : Nat) (val : UInt8) (v : VirtualClock) (clock : HostClock) :
    (drive address val v clock).isHalted
      = if Register.at? address = some .control then Byte.bit val haltBit else v.isHalted := by
  cases hr : Register.at? address with
  | none => simp [drive, hr]
  | some r => cases r <;> simp [drive, hr, setTime]

@[simp] theorem snapshot_latch (b : Bank) (v : VirtualClock) (clock : HostClock) :
    (b.latch v clock).snapshot = b.shown clock (v.now clock) := rfl

@[simp] theorem stored_latch (b : Bank) (v : VirtualClock) (clock : HostClock) :
    (b.latch v clock).stored = b.stored := rfl

@[simp] theorem ram_latch (b : Bank) (v : VirtualClock) (clock : HostClock) :
    (b.latch v clock).ram = b.ram := rfl

@[simp] theorem twelveHour_latch (b : Bank) (v : VirtualClock) (clock : HostClock) :
    (b.latch v clock).twelveHour = b.twelveHour := rfl

end Bank

end ClockChip
