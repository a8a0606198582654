import ClockChip.Proofs.Chip.LinearMemory
import ClockChip.Proofs.Register.Independence
import ClockChip.Proofs.Wire.Agreement

/-!
# The halt bit and the clock

That the clock of a chip stands is known in two places: as a bit of the byte in the control register
and in the form in which the virtual time is kept.  They need not agree from the start, for the byte
is part of what the battery keeps, while a chip that is powered up always runs.  Both are changed by
bytes that are written to the control register and by nothing else, and each of these bytes brings
them into agreement.

## Main definitions

* `Chip.committed`: the bytes that a run of line events writes to the control register.
* `Chip.haltState`: the control register, and whether the clock stands.

## Main results

* `Chip.haltState_call`, `Chip.haltState_step`, `Chip.haltState_follow`: a call, an event and a run
  leave what the last control byte says.
* `Chip.isHalted_step`: no other event makes the clock stand or run.
* `Chip.isHalted_eq_haltBit`: **the clock stands only under a set halt bit, and agrees with it from
  the first control byte on.**
-/

namespace ClockChip

theorem Register.at?_eq_control_iff {address : Nat} :
    at? address = some .control ↔ address = 0 := by
  by_cases hlow : address < 8
  · revert address
    decide
  · refine iff_of_false ?_ (by omega)
    by_cases halarm : address < 16
    · rw [Register.at?_alarm (by omega) halarm]
      decide
    · rw [Register.at?_memory (by omega)]
      decide

/-- The byte that a call writes to the control register, if it does. -/
def Call.controlByte? : Call → Option UInt8
  | .write address val => if address = 0 then some val else none
  | _ => none

/-- The last of some images is that of one of them, if there is one. -/
theorem getLastD_map_cases {α β : Type} (f : α → β) (xs : List α) (y : β) :
    (xs = [] ∧ (xs.map f).getLastD y = y) ∨ ∃ x ∈ xs, (xs.map f).getLastD y = f x := by
  rcases List.eq_nil_or_concat xs with rfl | ⟨init, x, rfl⟩
  · exact .inl ⟨rfl, rfl⟩
  · exact .inr ⟨x, by simp, by simp⟩

theorem Call.eq_write_of_controlByte? {call : Call} {val : UInt8}
    (h : call.controlByte? = some val) : call = .write 0 val := by
  cases call with
  | start | read => cases h
  | write address val' =>
    obtain ⟨rfl, hval⟩ := Option.ite_none_right_eq_some.mp h
    rw [Option.some.inj hval]

namespace Chip

variable {c : Chip}

/-- The control register, and whether the clock stands. -/
def haltState (s : Bank × VirtualClock) : UInt8 × Bool := (s.1.kept 0, s.2.isHalted)

/-- A control byte and what it says about the clock. -/
def haltedBy (val : UInt8) : UInt8 × Bool := (val, Byte.bit val haltBit)

/-- Of all calls only a control byte changes the control register or halts or resumes the clock. -/
theorem haltState_call (clock : HostClock) (s : Bank × VirtualClock) (call : Call) :
    haltState ((registers clock).call s call)
      = (call.controlByte?.map haltedBy).getD (haltState s) := by
  cases call with
  | start => rfl
  | read address => rfl
  | write address val =>
    have hsize : 0 < s.1.size := by
      unfold Bank.size registerCount
      omega
    have hkept : (s.1.keep address val).kept 0
        = if Keeps 0 ∧ address = 0 then val else s.1.kept 0 := Bank.kept_keep_eq hsize address val
    have hhalted : (Bank.drive address val s.2 clock).isHalted
        = if address = 0 then Byte.bit val haltBit else s.2.isHalted :=
      (Bank.isHalted_drive address val s.2 clock).trans
        (if_congr Register.at?_eq_control_iff rfl rfl)
    show ((s.1.keep address val).kept 0, (Bank.drive address val s.2 clock).isHalted) = _
    rw [hkept, hhalted]
    by_cases h : address = 0
    · rw [if_pos ⟨.inl rfl, h⟩, if_pos h, Call.controlByte?, if_pos h]
      rfl
    · rw [if_neg (fun hboth => h hboth.2), if_neg h, Call.controlByte?, if_neg h]
      rfl

/-- The control bytes among some calls. -/
def controlBytes (cs : List Call) : List UInt8 := cs.filterMap Call.controlByte?

theorem haltState_perform (clock : HostClock) (cs : List Call) (s : Bank × VirtualClock) :
    haltState ((registers clock).perform cs s)
      = ((controlBytes cs).map haltedBy).getLastD (haltState s) := by
  induction cs generalizing s with
  | nil => rfl
  | cons call cs ih =>
    rw [RegisterMap.perform_cons, ih, haltState_call, controlBytes, controlBytes,
      List.filterMap_cons]
    cases call.controlByte? with
    | none => rfl
    | some val => exact (List.getLastD_cons ..).symm

/-- An event leaves what the last of its control bytes says. -/
theorem haltState_step (clock : HostClock) (e : LineEvent) (c : Chip) :
    haltState ((c.step clock e).bank, (c.step clock e).time)
      = ((controlBytes (c.calls clock e)).map haltedBy).getLastD (haltState (c.bank, c.time)) := by
  have hparts : ((c.step clock e).bank, (c.step clock e).time)
      = (registers clock).perform (c.calls clock e) (c.bank, c.time) :=
    Responder.step_eq_perform (registers clock) e c.responder (c.bank, c.time)
  rw [hparts, haltState_perform]

/-- The bytes that line events write to the control register, in order. -/
def committed : List (HostClock × LineEvent) → Chip → List UInt8
  | [], _ => []
  | (clock, e) :: es, c => controlBytes (c.calls clock e) ++ committed es (c.step clock e)

theorem haltState_follow (es : List (HostClock × LineEvent)) (c : Chip) :
    haltState ((c.follow es).bank, (c.follow es).time)
      = ((c.committed es).map haltedBy).getLastD (haltState (c.bank, c.time)) := by
  induction es generalizing c with
  | nil => rfl
  | cons x es ih =>
    obtain ⟨clock, e⟩ := x
    rw [follow, ih, haltState_step, committed, List.map_append, getLastD_append]

/-- Only a control byte makes the clock stand or run. -/
theorem isHalted_step (clock : HostClock) (e : LineEvent) (c : Chip) :
    (c.step clock e).time.isHalted = c.time.isHalted
      ∨ ∃ val, Call.write 0 val ∈ c.calls clock e := by
  have hstep := haltState_step clock e c
  rcases getLastD_map_cases haltedBy (controlBytes (c.calls clock e)) _
    with ⟨-, hlast⟩ | ⟨val, hval, -⟩
  · exact .inl (congrArg Prod.snd (hstep.trans hlast))
  · obtain ⟨call, hcall, hbyte⟩ := List.mem_filterMap.mp hval
    obtain rfl := Call.eq_write_of_controlByte? hbyte
    exact .inr ⟨val, hcall⟩

/-- A chip that starts from a context runs until the first control byte, and the last one says
whether it stands. -/
theorem isHalted_follow_ofContext (device : String) (saved : Context)
    (es : List (HostClock × LineEvent)) :
    let c := ofContext device saved
    let d := c.follow es
    (c.committed es = [] ∧ d.time.isHalted = false)
      ∨ d.time.isHalted = Byte.bit (d.bank.kept 0) haltBit := by
  intro c d
  have hfollow := haltState_follow es c
  rcases getLastD_map_cases haltedBy (c.committed es) _ with ⟨hnone, hlast⟩ | ⟨val, -, hlast⟩
  · exact .inl ⟨hnone, congrArg Prod.snd (hfollow.trans hlast)⟩
  · obtain ⟨hstored, hbit⟩ := Prod.mk.inj (hfollow.trans hlast)
    rw [hstored, hbit]
    exact .inr rfl

/-- **The clock stands only under a set halt bit, and agrees with it from the first control byte
on.**  This holds for whatever a chip finds in its store at power up, behind any line events and
under any host clocks.  At the next event only a control byte can make the clock stand or run. -/
theorem isHalted_eq_haltBit {σ : Type} {store : Store (StateM σ)} {device : String} {x y : σ}
    (h : (powerUp store device).run x = (.ok c, y)) (es : List (HostClock × LineEvent)) :
    let d := c.follow es
    (d.time.isHalted = true → Byte.bit (d.bank.kept 0) haltBit = true)
      ∧ (c.committed es ≠ [] → d.time.isHalted = Byte.bit (d.bank.kept 0) haltBit)
      ∧ ∀ clock e, (d.step clock e).time.isHalted ≠ d.time.isHalted →
          ∃ val, Call.write 0 val ∈ d.calls clock e := by
  intro d
  obtain ⟨found, -, rfl⟩ := exists_of_powerUp h
  have hcases := isHalted_follow_ofContext device (adopted found) es
  refine ⟨?_, ?_, ?_⟩
  · intro hhalted
    rcases hcases with ⟨-, hruns⟩ | hagree
    · exact absurd (hhalted.symm.trans hruns) (by decide)
    · exact hagree.symm.trans hhalted
  · intro hcommitted
    rcases hcases with ⟨hnone, -⟩ | hagree
    · exact absurd hnone hcommitted
    · exact hagree
  · intro clock e hchanged
    exact (isHalted_step clock e d).resolve_left hchanged

/-- A chip finds a set halt bit in its store and runs all the same.  Bytes for the memory change
nothing about this, and a control byte halts the clock. -/
theorem isHalted_eq_haltBit_found :
    let saved : Context := ⟨.replicate 240 0, 0x80 :: .replicate 15 0, 42⟩
    let s := MemoryStore.empty.put "rtc" saved
    let before := (writeEvents [0x10, 0x5a]).map fun e => (HostClock.plain 0 0, e)
    let es := before ++ (writeEvents [0x00, 0x81]).map fun e => (HostClock.plain 1000000 50, e)
    ∃ c, ((powerUp MemoryStore.store "rtc").run s).1 = .ok c
      ∧ Byte.bit ((c.follow before).bank.kept 0) haltBit = true
      ∧ (c.follow before).time.isHalted = false
      ∧ c.committed es = [0x81]
      ∧ (c.follow es).time.isHalted = Byte.bit ((c.follow es).bank.kept 0) haltBit
      ∧ (c.follow es).bank.kept 0 = 0x81 := by
  intro saved s before es
  have hpower := powerUp_memory "rtc" s
  have hcommitted : committed es (ofContext "rtc" (adopted (s.get "rtc" ramSize registerCount)))
      = [0x81] := by decide +kernel
  obtain ⟨-, hagree, -⟩ := isHalted_eq_haltBit hpower es
  refine ⟨_, congrArg Prod.fst hpower, ?_, ?_, hcommitted, hagree ?_, ?_⟩
  · decide +kernel
  · decide +kernel
  · rw [hcommitted]
    exact List.cons_ne_nil _ _
  · decide +kernel

end Chip

end ClockChip
