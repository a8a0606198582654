import ClockChip.Register.Bank
import ClockChip.Store.Basic
import ClockChip.Wire.Controller

/-!
# The chip

A chip is a register bank, a virtual clock and a responder, together with the context that its
store holds for it.  It is driven by the events on its two lines; the host clock it sees may move
between any two of them.  What the battery would keep is written to the store on demand, and only
if it differs from what is there.

## Main definitions

* `Chip`: the state.
* `Chip.step`, `Chip.run`, `Chip.wire`: the chip on its lines.
* `Chip.powerUp`: a chip with what a store has saved for it.
* `Chip.saveChanges`, `Chip.powerDown`: saving.
-/

namespace ClockChip

/-- A clock chip. -/
structure Chip where
  /-- The name under which the chip's context is saved. -/
  device : String
  /-- Registers and memory. -/
  bank : Bank
  /-- The virtual clock. -/
  time : VirtualClock
  /-- The chip's end of the wire. -/
  responder : Responder
  /-- The context that was last loaded or saved. -/
  baseline : Context
  deriving DecidableEq, Repr

namespace Chip

/-! ### The chip on its lines -/

/-- The registers as the responder sees them at one moment: the bank, and the clock that it sets. -/
def registers (clock : HostClock) : RegisterMap (Bank × VirtualClock) where
  count := addressCount
  onStart s := (s.1.latch s.2 clock, s.2)
  read s address := (s.1.read address, s)
  write s address val := s.1.write s.2 clock address val

/-- One line event. -/
def step (clock : HostClock) (e : LineEvent) (c : Chip) : Chip :=
  let (responder, bank, time) := c.responder.step (registers clock) e (c.bank, c.time)
  { c with bank := bank, time := time, responder := responder }

/-- A list of line events while the clock stands still. -/
def run (clock : HostClock) : List LineEvent → Chip → Chip
  | [], c => c
  | e :: es, c => run clock es (c.step clock e)

@[simp] theorem run_nil (clock : HostClock) (c : Chip) : run clock [] c = c := rfl

@[simp] theorem run_cons (clock : HostClock) (e : LineEvent) (es : List LineEvent) (c : Chip) :
    run clock (e :: es) c = run clock es (c.step clock e) := rfl

/-- The chip as a controller sees it while the clock stands still. -/
def wire (clock : HostClock) : Wire Chip where
  drive e c := c.step clock e
  sample c := (c.responder.sends, c)

/-- The virtual time. -/
def now (c : Chip) (clock : HostClock) : Instant := c.time.now clock

/-! ### The saved context -/

/-- What the battery would keep. -/
def context (c : Chip) : Context := ⟨c.bank.ram, c.bank.stored.toList, c.time.offset⟩

/-- The battery would keep something else than what the store has. -/
def hasUnsaved (c : Chip) : Bool := c.context != c.baseline

/-- The context that a chip starts from: the one found if it fits, zeros otherwise. -/
def adopted (found : Option Context) : Context :=
  (Context.fitting ramSize registerCount found).getD (Context.blank ramSize registerCount)

/-- A chip that starts from a context.  Its clock runs, whatever the halt bit says. -/
def ofContext (device : String) (saved : Context) : Chip where
  device := device
  bank := Bank.ofStored (Vector.ofFn fun i => saved.registers.getD i 0) saved.ram
  time := VirtualClock.running saved.offset
  responder := Responder.released
  baseline := saved

section Saving

variable {m : Type → Type} [Monad m]

/-- A chip with what the store holds under its name, or blank if there is nothing usable. -/
def powerUp (store : Store m) (device : String) : m (Except StoreError Chip) := do
  match ← store.load device ramSize registerCount with
  | .ok found => return .ok (ofContext device (adopted found))
  | .error e => return .error e

/-- Saves the context if it changed, and tells whether it did.  A chip whose save failed is as it
was before. -/
def saveChanges (store : Store m) (c : Chip) : m (Except StoreError Bool × Chip) := do
  if c.hasUnsaved then
    match ← store.save c.device c.context with
    | .ok () => return (.ok true, { c with baseline := c.context })
    | .error e => return (.error e, c)
  else return (.ok false, c)

/-- The end of a chip.  With `saving` what changed is saved first. -/
def powerDown (store : Store m) (saving : Bool) (c : Chip) : m (Except StoreError Bool) := do
  if saving then return (← c.saveChanges store).1 else return .ok false

end Saving

end Chip

end ClockChip
