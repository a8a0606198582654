import ClockChip.Proofs.Register.Keeping
import ClockChip.Proofs.Register.Writes
import Mathlib.Tactic.IntervalCases

/-!
# Bytes for the clock and bytes that are kept

What is written to a bank either drives the clock or is kept, and a control byte does both.  The two
kinds of bytes do not see each other: the clock and the mode of the hours are the same if only the
bytes that drive the clock are written, and the registers and the memory are the same if only the
bytes that are kept are written.  So of a list of writes nothing but the order within each kind
counts.

Each half is a view of bank and clock.  Some writes leave it alone, and the others change it in a
way that depends on the view only.  What then holds of a list of writes is proved once for all
views.

## Main definitions

* `DrivesClock`: the addresses behind which the clock is driven.
* `Bank.Sees`: a view that only the writes to some addresses change.
* `Bank.writtenTo`: the bytes that a list of writes has for an address.

## Main results

* `Bank.Sees.writeEach`: a list of writes changes a view by those that it sees.
* `Bank.sees_time`, `Bank.sees_bytes`: what drives the clock, and what is kept.
* `Bank.kept_writeEach`: an address keeps the byte that was written last.
* `Bank.writeEach_independent`: **bytes for the clock and bytes that are kept do not see each
  other.**
-/

namespace ClockChip

/-- What is written to the address drives the clock: it halts the clock or lets it go on, or it sets
a field. -/
def DrivesClock (address : Nat) : Prop := address = 0 ∨ 2 ≤ address ∧ address ≤ 6

instance (address : Nat) : Decidable (DrivesClock address) :=
  inferInstanceAs (Decidable (address = 0 ∨ 2 ≤ address ∧ address ≤ 6))

namespace Bank

variable {clock : HostClock} {a address : Nat} {b : Bank}

/-! ### One write -/

/-- The mode of the hours behind a write.  Only the register of the hours changes it. -/
def modeBehind (address : Nat) (val : UInt8) (twelveHour : Bool) : Bool :=
  if address = 4 then (Hours.unpack val).1 else twelveHour

/-- The registers and the memory behind a write. -/
def bytesBehind (address : Nat) (val : UInt8) (x : RegisterBytes × List UInt8) :
    RegisterBytes × List UInt8 :=
  if Keeps address then
    if h : address < 16 then (x.1.set address val, x.2) else (x.1, x.2.set (address - 16) val)
  else x

/-- **What a write does to a bank**: it may change the mode, it may replace a byte, and it never
latches. -/
theorem keep_eq (b : Bank) (address : Nat) (val : UInt8) : b.keep address val
    = ⟨(bytesBehind address val (b.stored, b.ram)).1, b.snapshot,
        (bytesBehind address val (b.stored, b.ram)).2, modeBehind address val b.twelveHour⟩ := by
  by_cases hlow : address < 8
  · interval_cases address <;> rfl
  · have hmode : modeBehind address val b.twelveHour = b.twelveHour := if_neg (by omega)
    have hkeeps : Keeps address := .inr (by omega)
    rw [hmode, keep, bytesBehind, if_pos hkeeps]
    by_cases halarm : address < 16
    · rw [Register.at?_alarm (by omega) halarm, dif_pos halarm]
      exact dif_pos halarm
    · rw [Register.at?_memory (by omega), dif_neg halarm]
      rfl

theorem drive_of_not_drivesClock (h : ¬ DrivesClock address) (val : UInt8) (v : VirtualClock) :
    drive address val v clock = v := by
  unfold DrivesClock at h
  by_cases hlow : address < 8
  · have hneither : address = 1 ∨ address = 7 := by omega
    rcases hneither with rfl | rfl
    · rfl
    · rfl
  · by_cases halarm : address < 16
    · rw [drive, Register.at?_alarm (by omega) halarm]
      rfl
    · rw [drive, Register.at?_memory (by omega)]

/-- A write behind the memory is lost. -/
theorem keep_of_size_le (h : b.size ≤ address) (val : UInt8) : b.keep address val = b := by
  unfold size registerCount at h
  have hkeeps : Keeps address := .inr (by omega)
  have hmode : modeBehind address val b.twelveHour = b.twelveHour := if_neg (by omega)
  rw [keep_eq, hmode, bytesBehind, if_pos hkeeps, dif_neg (by omega),
    List.set_eq_of_length_le (by dsimp only; omega)]

/-- A write puts its byte to the address, if this keeps one, and nowhere else. -/
theorem kept_keep_eq (ha : a < b.size) (address : Nat) (val : UInt8) :
    (b.keep address val).kept a = if Keeps a ∧ address = a then val else b.kept a := by
  by_cases haddress : Keeps address
  · by_cases hsize : address < b.size
    · have hsame : address = a ↔ Keeps a ∧ address = a :=
        ⟨fun h => ⟨h ▸ haddress, h⟩, And.right⟩
      rw [kept_keep_of_keeps haddress hsize, if_congr hsame rfl rfl]
    · have hne : ¬ (Keeps a ∧ address = a) := by omega
      rw [keep_of_size_le (by omega), if_neg hne]
  · have hne : ¬ (Keeps a ∧ address = a) := by
      rintro ⟨hkeeps, rfl⟩
      exact haddress hkeeps
    rw [kept_keep_of_not_keeps haddress, if_neg hne]

/-! ### Views -/

/-- A view of a bank and a clock: what a write makes of it depends on the view alone, and only the
writes to some addresses are seen at all. -/
structure Sees {γ : Type} (clock : HostClock) (seen : Nat → Prop) (view : Bank × VirtualClock → γ)
    (change : Nat → UInt8 → γ → γ) : Prop where
  write : ∀ p address val, view (p.1.write p.2 clock address val) = change address val (view p)
  unseen : ∀ address val x, ¬ seen address → change address val x = x

section

variable {γ : Type} {seen : Nat → Prop} {view : Bank × VirtualClock → γ}
  {change : Nat → UInt8 → γ → γ}

/-- **A list of writes changes a view as each of them does.** -/
theorem Sees.writeEach (h : Sees clock seen view change) (p : Bank × VirtualClock)
    (ws : List (Nat × UInt8)) :
    view (writeEach clock p ws) = ws.foldl (fun x w => change w.1 w.2 x) (view p) := by
  induction ws generalizing p with
  | nil => rfl
  | cons w ws ih => rw [writeEach_cons, ih, h.write, List.foldl_cons]

variable [DecidablePred seen]

/-- So the writes that are not seen may be left out. -/
theorem Sees.writeEach_filter (h : Sees clock seen view change) (p : Bank × VirtualClock)
    (ws : List (Nat × UInt8)) :
    view (Bank.writeEach clock p (ws.filter fun w => seen w.1))
      = view (Bank.writeEach clock p ws) := by
  rw [h.writeEach, h.writeEach, List.foldl_filter]
  congr 1
  funext x w
  split
  · rfl
  · next hw => exact (h.unseen w.1 w.2 x (by simpa using hw)).symm

/-- Two lists with the same seen writes give the same view. -/
theorem Sees.writeEach_congr (h : Sees clock seen view change) (p : Bank × VirtualClock)
    {us ws : List (Nat × UInt8)}
    (hsame : (us.filter fun w => seen w.1) = ws.filter fun w => seen w.1) :
    view (Bank.writeEach clock p us) = view (Bank.writeEach clock p ws) := by
  rw [← h.writeEach_filter p us, hsame, h.writeEach_filter p ws]

end

/-- What drives the clock, and the mode of the hours with it, is driven by nothing else. -/
theorem sees_time (clock : HostClock) :
    Sees clock DrivesClock (fun p => (p.2, p.1.twelveHour))
      fun address val x => (drive address val x.1 clock, modeBehind address val x.2) where
  write p address val := by
    show (drive address val p.2 clock, (p.1.keep address val).twelveHour) = _
    rw [keep_eq]
  unseen address val x h := by
    have hmode : modeBehind address val x.2 = x.2 := by
      refine if_neg ?_
      rintro rfl
      exact h (by decide)
    rw [drive_of_not_drivesClock h, hmode]

/-- The registers and the memory see nothing of the clock. -/
theorem sees_bytes (clock : HostClock) :
    Sees clock Keeps (fun p => (p.1.stored, p.1.ram)) bytesBehind where
  write p address val := by
    show ((p.1.keep address val).stored, (p.1.keep address val).ram) = _
    rw [keep_eq]
  unseen _ _ _ h := if_neg h

theorem snapshot_writeEach (p : Bank × VirtualClock) (ws : List (Nat × UInt8)) :
    (writeEach clock p ws).1.snapshot = p.1.snapshot := by
  induction ws generalizing p with
  | nil => rfl
  | cons w ws ih =>
    have hfirst : (p.1.keep w.1 w.2).snapshot = p.1.snapshot := by rw [keep_eq]
    exact (ih _).trans hfirst

/-! ### Bytes -/

/-- The bytes that a list of writes has for an address, in order. -/
def writtenTo (address : Nat) (ws : List (Nat × UInt8)) : List UInt8 :=
  (ws.filter fun w => w.1 = address).map Prod.snd

theorem writtenTo_cons (a address : Nat) (val : UInt8) (ws : List (Nat × UInt8)) :
    writtenTo a ((address, val) :: ws)
      = if address = a then val :: writtenTo a ws else writtenTo a ws := by
  by_cases h : address = a
  · simp [writtenTo, h]
  · simp [writtenTo, h]

/-- **An address that keeps a byte keeps the one that was written last.**  The others do not change
at all. -/
theorem kept_writeEach {p : Bank × VirtualClock} (ha : a < p.1.size) (ws : List (Nat × UInt8)) :
    (Bank.writeEach clock p ws).1.kept a
      = if Keeps a then (writtenTo a ws).getLastD (p.1.kept a) else p.1.kept a := by
  induction ws generalizing p with
  | nil => exact (ite_self _).symm
  | cons w ws ih =>
    obtain ⟨address, val⟩ := w
    have hsize : (p.1.write p.2 clock address val).1.size = p.1.size := by
      show registerCount + (p.1.keep address val).ram.length = registerCount + p.1.ram.length
      rw [length_ram_keep]
    have hfirst : (p.1.write p.2 clock address val).1.kept a
        = if Keeps a ∧ address = a then val else p.1.kept a := kept_keep_eq ha address val
    rw [writeEach_cons, ih (by rw [hsize]; exact ha), hfirst]
    by_cases hkeeps : Keeps a
    · rw [if_pos hkeeps, if_pos hkeeps, writtenTo_cons]
      by_cases h : address = a
      · rw [if_pos ⟨hkeeps, h⟩, if_pos h, List.getLastD_cons]
      · rw [if_neg (fun hboth => h hboth.2), if_neg h]
    · rw [if_neg hkeeps, if_neg hkeeps, if_neg (fun hboth => hkeeps hboth.1)]

/-- **Bytes for the clock and bytes that are kept do not see each other.**  The clock and the mode
of the hours end as if the other writes had never been made, and so do the registers and the memory.
The registers between control and alarm do not change, nor does the snapshot, and everywhere else
there is the byte that was written last.  So any other list that has the same writes of both kinds,
each kind in the same order, leads to the same bank and the same clock. -/
theorem writeEach_independent (clock : HostClock) (b : Bank) (v : VirtualClock)
    (ws : List (Nat × UInt8)) :
    let p := writeEach clock (b, v) ws
    let timed := writeEach clock (b, v) (ws.filter fun w => DrivesClock w.1)
    let stored := writeEach clock (b, v) (ws.filter fun w => Keeps w.1)
    (timed.2 = p.2 ∧ timed.1.twelveHour = p.1.twelveHour)
      ∧ (stored.1.stored = p.1.stored ∧ stored.1.ram = p.1.ram)
      ∧ p.1.snapshot = b.snapshot
      ∧ (∀ a, ¬ Keeps a → p.1.kept a = b.kept a)
      ∧ (∀ a < b.size, Keeps a → p.1.kept a = (writtenTo a ws).getLastD (b.kept a))
      ∧ ∀ us : List (Nat × UInt8),
          (us.filter fun w => DrivesClock w.1) = (ws.filter fun w => DrivesClock w.1) →
          (us.filter fun w => Keeps w.1) = (ws.filter fun w => Keeps w.1) →
          writeEach clock (b, v) us = p := by
  intro p timed stored
  refine ⟨Prod.mk.inj ((sees_time clock).writeEach_filter (b, v) ws),
    Prod.mk.inj ((sees_bytes clock).writeEach_filter (b, v) ws), snapshot_writeEach (b, v) ws,
    ?_, ?_, ?_⟩
  · intro a hkeeps
    have ha : a < b.size := by
      unfold Keeps at hkeeps
      unfold size registerCount
      omega
    exact (kept_writeEach ha ws).trans (if_neg hkeeps)
  · intro a ha hkeeps
    exact (kept_writeEach ha ws).trans (if_pos hkeeps)
  · intro us htimed hstored
    have htime := Prod.mk.inj ((sees_time clock).writeEach_congr (b, v) htimed)
    have hbytes := Prod.mk.inj ((sees_bytes clock).writeEach_congr (b, v) hstored)
    have hsnapshot : (writeEach clock (b, v) us).1.snapshot = p.1.snapshot :=
      (snapshot_writeEach (b, v) us).trans (snapshot_writeEach (b, v) ws).symm
    refine Prod.ext ?_ htime.1
    exact (Bank.mk.injEq ..).mpr ⟨hbytes.1, hsnapshot, hbytes.2, htime.2⟩

/-- The clock is halted, set and resumed, between bytes for the memory, an alarm register and the
timer, and then in another order. -/
theorem writeEach_independent_interleaved :
    let b := ofStored (.replicate 16 0) (.replicate 240 0)
    let v := VirtualClock.running 5
    let ws : List (Nat × UInt8) :=
      [(0, 0x80), (4, 0x92), (16, 0x11), (7, 0x99), (8, 0x5a), (5, 0x41), (16, 0x22), (0, 0x03)]
    let us : List (Nat × UInt8) :=
      [(0, 0x80), (16, 0x11), (8, 0x5a), (16, 0x22), (4, 0x92), (5, 0x41), (0, 0x03), (1, 0x77)]
    let p := writeEach (.plain 100 0) (b, v) ws
    writeEach (.plain 100 0) (b, v) us = p ∧ p.1.kept 0 = 0x03 ∧ p.1.kept 7 = 0
      ∧ p.1.kept 16 = 0x22 := by
  intro b v ws us p
  have hsize : b.size = 256 := by
    show 16 + (List.replicate 240 (0 : UInt8)).length = 256
    rw [List.length_replicate]
  obtain ⟨-, -, -, hfixed, hlast, hother⟩ := writeEach_independent (.plain 100 0) b v ws
  refine ⟨hother us (by decide) (by decide), ?_, ?_, ?_⟩
  · exact hlast 0 (by omega) (by decide)
  · exact hfixed 7 (by decide)
  · exact hlast 16 (by omega) (by decide)

end Bank

end ClockChip
