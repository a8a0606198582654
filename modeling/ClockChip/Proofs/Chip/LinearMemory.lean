import ClockChip.Proofs.Chip.Reachable
import ClockChip.Proofs.Chip.Transfer
import ClockChip.Proofs.Register.Keeping

/-!
# A chip as a linear memory

Seen through bursts, a chip is a memory of 256 bytes that wraps around, seven of which show the
clock and a timer.  A run of bursts and saves, each under a host clock of its own, leaves behind
every other address the byte that was written there last, however the bursts overlap, and a read
shows it.  Only what is written to an address itself counts for it: control writes also halt the
clock, and writes to the seven addresses set it, but no other byte is touched by this.

## Main definitions

* `bytesAt`: the bytes of a burst that go to an address.
* `Chip.Task`, `Chip.perform`, `Chip.performAll`: bursts and saves, and runs of them.
* `Chip.writtenTo`: the bytes that a run writes to an address, in order.

## Main results

* `Chip.perform_kept`, `Chip.performAll_kept`: **one task, and a run, leave the byte written last.**
* `Chip.readBurst_eq_lastWritten`: **a read shows the byte written last.**
-/

namespace ClockChip

/-- The bytes of a burst that go to an address, in order. -/
def bytesAt (address start : Nat) (vals : List UInt8) : List UInt8 :=
  ((vals.zipIdx start).filter fun x => x.2 % addressCount == address).map Prod.fst

theorem bytesAt_cons (address start : Nat) (val : UInt8) (vals : List UInt8) :
    bytesAt address start (val :: vals)
      = if start % addressCount = address then val :: bytesAt address (start + 1) vals
        else bytesAt address (start + 1) vals := by
  rw [bytesAt, List.zipIdx_cons, List.filter_cons]
  by_cases h : start % addressCount = address
  · rw [if_pos h, if_pos (by simpa using h)]
    rfl
  · rw [if_neg h, if_neg (by simpa using h)]
    rfl

theorem getLastD_append {α : Type} (xs ys : List α) (x : α) :
    (xs ++ ys).getLastD x = ys.getLastD (xs.getLastD x) := by
  induction xs generalizing x with
  | nil => rfl
  | cons y xs ih => rw [List.cons_append, List.getLastD_cons, List.getLastD_cons, ih]

namespace Chip

/-! ### Bursts -/

section

variable (clock : HostClock)

/-- Bytes written one behind the other leave the last one at each address that keeps it. -/
theorem kept_writeAll {a : Nat} (hkeeps : Keeps a) (start : Nat) (vals : List UInt8)
    {s : Bank × VirtualClock} (hsize : s.1.size = addressCount) :
    ((registers clock).writeAll start vals s).1.kept a
        = (bytesAt a start vals).getLastD (s.1.kept a)
      ∧ ((registers clock).writeAll start vals s).1.size = addressCount := by
  induction vals generalizing start s with
  | nil => exact ⟨rfl, hsize⟩
  | cons val vals ih =>
    let address := start % addressCount
    have haddress : address < s.1.size := by
      rw [hsize]
      exact Nat.mod_lt _ (by decide)
    have hsize' : (s.1.keep address val).size = addressCount := by
      rw [Bank.size, Bank.length_ram_keep]
      exact hsize
    obtain ⟨hkept, hrest⟩ := ih (start + 1) (s := s.1.write s.2 clock address val) hsize'
    refine ⟨?_, hrest⟩
    -- the bytes behind the first see the bank that it has left
    have hhead : (s.1.write s.2 clock address val).1.kept a
        = if address = a then val else s.1.kept a := Bank.kept_keep hkeeps haddress val
    rw [RegisterMap.writeAll_cons, bytesAt_cons]
    refine hkept.trans ?_
    rw [hhead]
    by_cases h : address = a
    · rw [if_pos h, if_pos h, List.getLastD_cons]
    · rw [if_neg h, if_neg h]

/-- The bank and the clock behind a burst of writes. -/
theorem parts_writeBurst (pointer : UInt8) (vals : List UInt8) (c : Chip) :
    (((wire clock).writeBurst pointer vals c).2.bank,
        ((wire clock).writeBurst pointer vals c).2.time)
      = (registers clock).writeAll pointer.toNat vals (c.bank.latch c.time clock, c.time) := by
  have hsame : (wire clock).writeBurst pointer vals c = Prod.map id c.withParts _ :=
    (wire_translates clock c).writeBurst pointer vals (c.responder, c.bank, c.time)
  rw [hsame, Responder.writeBurst_wire]
  rfl

/-- The bank behind a burst of writes. -/
theorem bank_writeBurst (pointer : UInt8) (vals : List UInt8) (c : Chip) :
    ((wire clock).writeBurst pointer vals c).2.bank
      = ((registers clock).writeAll pointer.toNat vals (c.bank.latch c.time clock, c.time)).1 := by
  rw [← parts_writeBurst]

/-- A burst of reads gives one byte for each address, and leaves the bank with its snapshot. -/
theorem readBurst_latched (pointer : UInt8) (n : Nat) (c : Chip) :
    ((wire clock).readBurst pointer n c).1
        = .ok ((List.range n).map fun i =>
            (c.bank.latch c.time clock).read ((pointer.toNat + i) % addressCount))
      ∧ ((wire clock).readBurst pointer n c).2.bank = c.bank.latch c.time clock := by
  have hsame : (wire clock).readBurst pointer n c = Prod.map id c.withParts _ :=
    (wire_translates clock c).readBurst pointer n (c.responder, c.bank, c.time)
  obtain ⟨bit, shift, hburst⟩ :=
    Responder.readBurst_wire (registers clock) pointer n c.responder (c.bank, c.time)
  rw [hsame, hburst]
  by_cases hn : n = 0
  · subst hn
    exact ⟨rfl, rfl⟩
  · rw [if_neg hn, RegisterMap.readAll_of_quiet fun _ _ => rfl]
    exact ⟨rfl, rfl⟩

end

/-! ### Runs -/

/-- What is done to a chip as a whole. -/
inductive Task where
  /-- Bytes are written from an address on. -/
  | write (pointer : UInt8) (vals : List UInt8)
  /-- A number of bytes are read from an address on. -/
  | read (pointer : UInt8) (n : Nat)
  /-- Changes are saved. -/
  | save
  deriving DecidableEq, Repr

/-- The bytes that a task writes to an address. -/
def Task.bytesTo (address : Nat) : Task → List UInt8
  | write pointer vals => bytesAt address pointer.toNat vals
  | read _ _ => []
  | save => []

/-- The bytes that a run writes to an address, in order. -/
def writtenTo (address : Nat) (ts : List (HostClock × Task)) : List UInt8 :=
  ts.flatMap fun x => x.2.bytesTo address

section

variable {σ : Type} (store : Store (StateM σ))

/-- A task under a host clock.  Whoever gives it is told of the outcome; the chip and its store are
what is left. -/
def perform (p : Chip × σ) (x : HostClock × Task) : Chip × σ :=
  match x.2 with
  | .write pointer vals => (((wire x.1).writeBurst pointer vals p.1).2, p.2)
  | .read pointer n => (((wire x.1).readBurst pointer n p.1).2, p.2)
  | .save => (((p.1.saveChanges store).run p.2).1.2, ((p.1.saveChanges store).run p.2).2)

/-- Tasks one after the other. -/
def performAll (ts : List (HostClock × Task)) (p : Chip × σ) : Chip × σ :=
  ts.foldl (perform store) p

variable {a : Nat}

/-- **A task leaves the byte that it wrote last**, and the byte before it if it wrote none. -/
theorem perform_kept (hkeeps : Keeps a) {p : Chip × σ} (hsize : p.1.bank.size = addressCount)
    (x : HostClock × Task) :
    (perform store p x).1.bank.kept a = (x.2.bytesTo a).getLastD (p.1.bank.kept a)
      ∧ (perform store p x).1.bank.size = addressCount := by
  obtain ⟨clock, task⟩ := x
  cases task with
  | write pointer vals =>
    have hlatch : (p.1.bank.latch p.1.time clock).size = addressCount := hsize
    have hwritten := kept_writeAll clock hkeeps pointer.toNat vals
      (s := (p.1.bank.latch p.1.time clock, p.1.time)) hlatch
    rw [Bank.kept_latch] at hwritten
    rw [perform, bank_writeBurst, Task.bytesTo]
    exact hwritten
  | read pointer n =>
    rw [perform, (readBurst_latched clock pointer n p.1).2, Bank.kept_latch]
    exact ⟨rfl, hsize⟩
  | save =>
    -- the store may refuse, but not even then is the bank another one
    have hbank : (perform store p (clock, .save)).1.bank = p.1.bank :=
      congrArg Image.bank (image_saveChanges store p.1 p.2)
    rw [hbank]
    exact ⟨rfl, hsize⟩

/-- **A run leaves the byte that it wrote last.** -/
theorem performAll_kept (hkeeps : Keeps a) (ts : List (HostClock × Task)) {p : Chip × σ}
    (hsize : p.1.bank.size = addressCount) :
    (performAll store ts p).1.bank.kept a = (writtenTo a ts).getLastD (p.1.bank.kept a) := by
  induction ts generalizing p with
  | nil => rfl
  | cons x ts ih =>
    obtain ⟨hkept, hsize'⟩ := perform_kept store hkeeps hsize x
    have hrest : (performAll store (x :: ts) p).1.bank.kept a
        = (writtenTo a ts).getLastD ((perform store p x).1.bank.kept a) := ih hsize'
    have hwritten : writtenTo a (x :: ts) = x.2.bytesTo a ++ writtenTo a ts := List.flatMap_cons
    rw [hrest, hkept, hwritten, getLastD_append]

/-- What a burst of reads behind a run returns for an address. -/
theorem getElem?_readBurst {ts : List (HostClock × Task)} {p : Chip × σ} {clock : HostClock}
    {pointer : UInt8} {n : Nat} {vals : List UInt8}
    (h : ((wire clock).readBurst pointer n (performAll store ts p).1).1 = .ok vals) {i : Nat}
    (hi : i < n) : vals[i]? = some (((performAll store ts p).1.bank.latch
      (performAll store ts p).1.time clock).read ((pointer.toNat + i) % addressCount)) := by
  obtain ⟨hvals, -⟩ := readBurst_latched clock pointer n (performAll store ts p).1
  obtain rfl := Except.ok.inj (hvals.symm.trans h)
  rw [List.getElem?_map, List.getElem?_range hi]
  rfl

/-- **A read shows the byte written last.**  Behind any run of a chip with its 240 bytes of memory a
burst of reads returns as many bytes as were asked for.  At an address that keeps its byte this is
the one that the run wrote there last, or the one that was there before the run; the timer reads as
zero.  Whatever else another run does, to the clock or to other addresses, it leaves the same byte
where it wrote the same. -/
theorem readBurst_eq_lastWritten (c : Chip) (y : σ) (h : c.bank.ram.length = ramSize)
    (ts : List (HostClock × Task)) (clock : HostClock) (pointer : UInt8) (n : Nat) :
    ∃ vals, ((wire clock).readBurst pointer n (performAll store ts (c, y)).1).1 = .ok vals
      ∧ vals.length = n
      ∧ ∀ i < n,
          let address := (pointer.toNat + i) % addressCount
          (Keeps address → vals[i]? = some ((writtenTo address ts).getLastD (c.bank.kept address)))
            ∧ (address = 7 → vals[i]? = some 0)
            ∧ (Keeps address → ∀ us clock' vals', writtenTo address us = writtenTo address ts →
                ((wire clock').readBurst pointer n (performAll store us (c, y)).1).1 = .ok vals' →
                vals'[i]? = vals[i]?) := by
  have hsize : c.bank.size = addressCount := by rw [Bank.size, h, addressCount]
  obtain ⟨hvals, -⟩ := readBurst_latched clock pointer n (performAll store ts (c, y)).1
  refine ⟨_, hvals, by simp, ?_⟩
  intro i hi address
  refine ⟨?_, ?_, ?_⟩
  · intro hkeeps
    rw [getElem?_readBurst store hvals hi, Bank.read_latch hkeeps,
      performAll_kept store hkeeps ts hsize]
  · intro htimer
    rw [getElem?_readBurst store hvals hi, show (pointer.toNat + i) % addressCount = 7 from htimer,
      Bank.read_latch_timerDays]
  · intro hkeeps us clock' vals' hsame hvals'
    rw [getElem?_readBurst store hvals' hi, getElem?_readBurst store hvals hi,
      Bank.read_latch hkeeps, Bank.read_latch hkeeps, performAll_kept store hkeeps us hsize,
      performAll_kept store hkeeps ts hsize, hsame]

/-- A burst over the end of the memory that halts the clock and sets it, a save that is refused, and
one byte more at another host time. -/
def acrossTheEnd : List (HostClock × Task) :=
  [(.plain 0 0, .write 0xfe [0x11, 0x22, 0x80, 0x99, 0x30]), (.plain 10 0, .save),
    (.plain 20 50, .write 0xff [0x33])]

/-- From the last two bytes of the memory to the first alarm register a read shows what was written
there last, zero for the timer, and the zero of the blank chip. -/
theorem readBurst_eq_lastWritten_acrossTheEnd :
    let c := ofContext "rtc" (.blank ramSize registerCount)
    let refusing : UncheckedStore := ⟨[], true⟩
    c.bank.ram.length = ramSize
      ∧ ∃ vals, ((wire (.plain 30 0)).readBurst 0xfe 11
            (performAll UncheckedStore.store acrossTheEnd (c, refusing)).1).1 = .ok vals
          ∧ vals.length = 11 ∧ vals[0]? = some 0x11 ∧ vals[1]? = some 0x33 ∧ vals[2]? = some 0x80
          ∧ vals[9]? = some 0 ∧ vals[10]? = some 0 := by
  intro c refusing
  have hlen : c.bank.ram.length = ramSize := by decide +kernel
  obtain ⟨vals, hvals, hcount, hshown⟩ := readBurst_eq_lastWritten UncheckedStore.store c refusing
    hlen acrossTheEnd (.plain 30 0) 0xfe 11
  refine ⟨hlen, vals, hvals, hcount, ?_, ?_, ?_, ?_, ?_⟩
  · exact (hshown 0 (by decide)).1 (by decide)
  · exact (hshown 1 (by decide)).1 (by decide)
  · exact (hshown 2 (by decide)).1 (by decide)
  · exact (hshown 9 (by decide)).2.1 rfl
  · exact (hshown 10 (by decide)).1 (by decide)

end

end Chip

end ClockChip
