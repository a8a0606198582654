import ClockChip.Proofs.Wire.Fall
import ClockChip.Wire.Controller

/-!
# Bursts between a controller and a responder

A controller that sets the lines of a responder and looks at its data line makes the responder go
through the stages of a transfer.  Whatever the responder was doing before, the START takes it to
the address, and from there every byte on the wire takes it from the end of one byte to the next.

## Main definitions

* `Responder.wire`: a responder and its registers, as a controller sees them.
* `RegisterMap.writeAll`, `RegisterMap.readAll`: bursts without a wire.

## Main results

* `Responder.run_startEvents`: a START ends whatever went before.
* `Responder.sendByte_wire`, `Responder.receiveByte_offering`: one byte on the wire.
* `Responder.writeBurst_wire`, `Responder.readBurst_wire`: **a burst on the wire is a burst on the
  registers**, from any position of the responder.
-/

namespace ClockChip

variable {σ : Type}

/-! ### Bursts on registers -/

namespace RegisterMap

/-- Bytes written one behind the other, from an address on and around behind the last. -/
def writeAll (f : RegisterMap σ) (start : Nat) (vals : List UInt8) (s : σ) : σ :=
  (vals.zipIdx start).foldl (fun s x => f.write s (x.2 % f.count) x.1) s

/-- `n` bytes read one behind the other, from an address on and around behind the last. -/
def readAll (f : RegisterMap σ) : (start n : Nat) → σ → List UInt8 × σ
  | _, 0, s => ([], s)
  | start, n + 1, s =>
    let (val, s) := f.read s (start % f.count)
    let (vals, s) := f.readAll (start + 1) n s
    (val :: vals, s)

theorem writeAll_cons (f : RegisterMap σ) (start : Nat) (val : UInt8) (vals : List UInt8)
    (s : σ) : f.writeAll start (val :: vals) s
      = f.writeAll (start + 1) vals (f.write s (start % f.count) val) := rfl

/-- Reads that leave the registers alone can be made in any order. -/
theorem readAll_of_quiet {f : RegisterMap σ} (h : ∀ s a, (f.read s a).2 = s) (start n : Nat)
    (s : σ) : f.readAll start n s
      = ((List.range n).map fun i => (f.read s ((start + i) % f.count)).1, s) := by
  induction n generalizing start with
  | zero => rfl
  | succ n ih =>
    have hshift : ∀ i, start + 1 + i = start + (i + 1) := fun i => by omega
    simp [readAll, h, ih, hshift, List.range_succ_eq_map, Function.comp_def]

end RegisterMap

/-! ### Acknowledged transfers

A transfer goes through all of its stages if each of them is acknowledged. -/

namespace Wire

variable {w : Wire σ} {pointer : UInt8} {s s₁ s₂ : σ}

theorem sendBytes_cons_of_acked {b : UInt8} (h : w.sendByte b s = (true, s₁)) (bs : List UInt8) :
    w.sendBytes (b :: bs) s = w.sendBytes bs s₁ := by
  simp [sendBytes, h]

theorem writeBurst_of_acked {vals : List UInt8}
    (hfound : w.sendByte writeSelect (w.start s) = (true, s₁))
    (hsent : w.sendBytes (pointer :: vals) s₁ = (true, s₂)) :
    w.writeBurst pointer vals s = (.ok (), w.stop s₂) := by
  simp [writeBurst, hfound, hsent]

/-- Of a burst of no bytes only the register pointer goes over the wire. -/
theorem readBurst_zero_of_acked (hfound : w.sendByte writeSelect (w.start s) = (true, s₁))
    (hpointed : w.sendByte pointer s₁ = (true, s₂)) :
    w.readBurst pointer 0 s = (.ok [], w.stop s₂) := by
  simp [readBurst, hfound, hpointed]

theorem readBurst_of_acked {n : Nat} (hn : n ≠ 0) {s₃ s₄ : σ} {vals : List UInt8}
    (hfound : w.sendByte writeSelect (w.start s) = (true, s₁))
    (hpointed : w.sendByte pointer s₁ = (true, s₂))
    (hagain : w.sendByte readSelect (w.start s₂) = (true, s₃))
    (hvals : w.receiveBytes n s₃ = (vals, s₄)) :
    w.readBurst pointer n s = (.ok vals, w.stop s₄) := by
  simp [readBurst, hfound, hpointed, hn, hagain, hvals]

theorem readLevels_succ_of {n : Nat} {level : Bool} {levels : List Bool}
    (hlook : w.sample (w.drive (.clock true) s) = (level, s₁))
    (hrest : w.readLevels n (w.drive (.clock false) s₁) = (levels, s₂)) :
    w.readLevels (n + 1) s = (level :: levels, s₂) := by
  simp [readLevels, hlook, hrest]

/-- All but the last byte of a burst are acknowledged. -/
theorem receiveBytes_succ_of {n : Nat} {val : UInt8} {vals : List UInt8}
    (hval : w.receiveByte (n != 0) s = (val, s₁)) (hrest : w.receiveBytes n s₁ = (vals, s₂)) :
    w.receiveBytes (n + 1) s = (val :: vals, s₂) := by
  simp [receiveBytes, hval, hrest]

end Wire

namespace Responder

/-! ### The responder as a wire -/

/-- A responder and its registers, as a controller sees them. -/
def wire (f : RegisterMap σ) : Wire (Responder × σ) where
  drive e x := step f e x.1 x.2
  sample x := (x.1.sends, x)

theorem driveAll_wire (f : RegisterMap σ) (es : List LineEvent) (x : Responder × σ) :
    (wire f).driveAll es x = run f es x.1 x.2 := by
  induction es generalizing x with
  | nil => rfl
  | cons e es ih => exact ih _

theorem step_data_low {r : Responder} (h : r.clock = false) (f : RegisterMap σ) (s : σ)
    (level : Bool) : step f (.data level) r s = ({ r with data := level }, s) :=
  step_data_quiet (by simp [h]) (by simp [h]) f s

theorem run_bitEvents {r : Responder} (h : r.clock = false) (f : RegisterMap σ) (s : σ)
    (level : Bool) : run f (bitEvents level) r s = fallOn f level r s := by
  rw [bitEvents, run_cons, step_data_low h, run_pulse]
  rfl

theorem clock_fallOn (f : RegisterMap σ) (level : Bool) (r : Responder) (s : σ) :
    (fallOn f level r s).1.clock = false := (fall_lines f _ s).1

theorem run_flatMap_bitEvents {r : Responder} (h : r.clock = false) (f : RegisterMap σ) (s : σ)
    (ls : List Bool) : run f (ls.flatMap bitEvents) r s = falls f ls r s := by
  induction ls generalizing r s with
  | nil => rfl
  | cons level ls ih =>
    rw [List.flatMap_cons, run_append, run_bitEvents h, ih (clock_fallOn f level r s), falls_cons]

theorem clock_falls {r : Responder} (h : r.clock = false) (f : RegisterMap σ) (s : σ)
    (ls : List Bool) : (falls f ls r s).1.clock = false := by
  induction ls generalizing r s with
  | nil => exact h
  | cons level ls ih => exact ih (clock_fallOn f level r s) _

/-! ### Framing -/

/-- **A START takes the responder to the address from any position.** -/
theorem run_startEvents (f : RegisterMap σ) (r : Responder) (s : σ) :
    run f startEvents r s = (awaiting .addressing false r.pointer, f.onStart s) := by
  -- raising the data line may be a STOP
  obtain ⟨phase, hraised⟩ : ∃ phase,
      step f (.data true) r s = ({ r with data := true, phase := phase }, s) := by
    cases hstop : r.clock && !r.data && true with
    | true => exact ⟨.idle, step_data_stop hstop f s⟩
    | false => exact ⟨r.phase, step_data_quiet (by simp) hstop f s⟩
  rw [startEvents, run_cons, hraised, run_cons, step_clock_quiet (by simp), run_cons,
    step_data_start rfl, run_cons, step_clock_fall rfl, fallOn_begun]
  rfl

theorem run_stopEvents {r : Responder} (h : r.clock = false) (f : RegisterMap σ) (s : σ) :
    run f stopEvents r s = ({ r with clock := true, data := true, phase := .idle }, s) := by
  rw [stopEvents, run_cons, step_data_low h, run_cons, step_clock_quiet (by simp), run_cons,
    step_data_stop rfl]
  rfl

theorem start_wire (f : RegisterMap σ) (r : Responder) (s : σ) :
    (wire f).start (r, s) = (awaiting .addressing false r.pointer, f.onStart s) := by
  rw [Wire.start, driveAll_wire, run_startEvents]

theorem stop_wire {r : Responder} (h : r.clock = false) (f : RegisterMap σ) (s : σ) :
    (wire f).stop (r, s) = ({ r with clock := true, data := true, phase := .idle }, s) := by
  rw [Wire.stop, driveAll_wire, run_stopEvents h]

theorem drive_fall (f : RegisterMap σ) (r : Responder) (s : σ) :
    (wire f).drive (.clock false) ({ r with clock := true }, s) = fallOn f r.data r s := by
  show step f (.clock false) { r with clock := true } s = fallOn f r.data r s
  rw [step_clock_fall (by simp)]
  rfl

/-! ### A byte sent to the responder -/

/-- The controller looks at the acknowledgement between the rise and the fall of the ninth pulse. -/
theorem sendByte_wire {r : Responder} (h : r.clock = false) (f : RegisterMap σ) (b : UInt8)
    (s : σ) : (wire f).sendByte b (r, s) =
      (!(falls f (Byte.levels b) r s).1.sends,
        fallOn f true (falls f (Byte.levels b) r s).1 (falls f (Byte.levels b) r s).2) := by
  have hbits : (wire f).driveAll ((Byte.levels b).flatMap bitEvents) (r, s)
      = falls f (Byte.levels b) r s := by
    rw [driveAll_wire, run_flatMap_bitEvents h]
  rcases hq : falls f (Byte.levels b) r s with ⟨q, t⟩
  have hlow : q.clock = false := by
    have hclock := clock_falls h f s (Byte.levels b)
    rwa [hq] at hclock
  have hraised : (wire f).driveAll [.data true, .clock true] (q, t)
      = ({ q with data := true, clock := true }, t) := by
    rw [driveAll_wire, run_cons, step_data_low hlow, run_cons, step_clock_quiet (by simp)]
    rfl
  rw [hq] at hbits
  simp only [Wire.sendByte, hbits, hraised]
  exact congrArg (Prod.mk _) (drive_fall f { q with data := true } t)

theorem sendByte_of_full {r : Responder} (hclock : r.clock = false) {f : RegisterMap σ}
    {b : UInt8} {s t : σ} {phase : Phase} {val : UInt8} {data : Bool} {pointer : Nat}
    (hfull : falls f (Byte.levels b) r s = (full phase val data pointer, t)) :
    (wire f).sendByte b (r, s)
      = (!(full phase val data pointer).sends, fallOn f true (full phase val data pointer) t) := by
  rw [sendByte_wire hclock, hfull]

section

variable (f : RegisterMap σ) (data : Bool) (pointer : Nat) (b : UInt8) (s : σ)

/-- The address of a write transfer is acknowledged and followed by the register pointer. -/
theorem sendByte_writeSelect :
    (wire f).sendByte writeSelect (awaiting .addressing data pointer, s)
      = (true, (awaiting .pointing true pointer, s)) := by
  have hfull := falls_addressing f data pointer s (Byte.length_levels writeSelect)
  rw [Byte.ofLevels_levels, choose, if_pos rfl] at hfull
  rw [sendByte_of_full rfl hfull, fallOn_writeChosen]
  rfl

/-- The address of a read transfer is acknowledged and followed by the byte at the pointer. -/
theorem sendByte_readSelect :
    (wire f).sendByte readSelect (awaiting .addressing data pointer, s)
      = (true, (offering (f.read s pointer).1 true pointer, (f.read s pointer).2)) := by
  have hfull := falls_addressing f data pointer s (Byte.length_levels readSelect)
  rw [Byte.ofLevels_levels, choose, if_neg (by decide), if_pos rfl] at hfull
  rw [sendByte_of_full rfl hfull, fallOn_readChosen]
  rfl

/-- The register pointer is taken over within the number of registers. -/
theorem sendByte_pointer :
    (wire f).sendByte b (awaiting .pointing data pointer, s)
      = (true, (awaiting .receiving true (b.toNat % f.count), s)) := by
  have hfull := falls_pointing f data pointer s (Byte.length_levels b)
  rw [Byte.ofLevels_levels] at hfull
  rw [sendByte_of_full rfl hfull, fallOn_pointed]
  rfl

/-- A byte to store is written at the pointer, which moves on. -/
theorem sendByte_val :
    (wire f).sendByte b (awaiting .receiving data pointer, s)
      = (true, (awaiting .receiving true ((pointer + 1) % f.count), f.write s pointer b)) := by
  have hfull := falls_receiving f data pointer s (Byte.length_levels b)
  rw [Byte.ofLevels_levels] at hfull
  rw [sendByte_of_full rfl hfull, fallOn_received]
  rfl

end

theorem sendBytes_vals (f : RegisterMap σ) (start : Nat) (vals : List UInt8) (s : σ) :
    (wire f).sendBytes vals (awaiting .receiving true (start % f.count), s)
      = (true, (awaiting .receiving true ((start + vals.length) % f.count),
          f.writeAll start vals s)) := by
  induction vals generalizing start s with
  | nil => rfl
  | cons val vals ih =>
    have hnext : (start % f.count + 1) % f.count = (start + 1) % f.count := Nat.mod_add_mod _ _ _
    have hlen : start + (val :: vals).length = start + 1 + vals.length := by
      rw [List.length_cons]; omega
    rw [Wire.sendBytes_cons_of_acked (sendByte_val f true _ val s), hnext, ih, hlen,
      RegisterMap.writeAll_cons]

/-- **A burst of writes** stores its bytes behind one START, from any position of the responder. -/
theorem writeBurst_wire (f : RegisterMap σ) (pointer : UInt8) (vals : List UInt8) (r : Responder)
    (s : σ) : (wire f).writeBurst pointer vals (r, s)
      = (.ok (), ({ released with pointer := (pointer.toNat + vals.length) % f.count },
          f.writeAll pointer.toNat vals (f.onStart s))) := by
  have hfound : (wire f).sendByte writeSelect ((wire f).start (r, s))
      = (true, (awaiting .pointing true r.pointer, f.onStart s)) := by
    rw [start_wire, sendByte_writeSelect]
  rw [Wire.writeBurst_of_acked hfound
    ((Wire.sendBytes_cons_of_acked (sendByte_pointer f true _ pointer _) vals).trans
      (sendBytes_vals f pointer.toNat vals _)), stop_wire rfl]
  rfl

/-! ### A byte sent by the responder -/

/-- A controller that clocks sees what the responder sends before each fall. -/
theorem readLevels_wire (f : RegisterMap σ) (n : Nat) {r : Responder} (hclock : r.clock = false)
    (hdata : r.data = true) (s : σ) :
    (wire f).readLevels n (r, s) =
      ((List.range n).map fun i => (falls f (List.replicate i true) r s).1.sends,
        falls f (List.replicate n true) r s) := by
  induction n generalizing r s with
  | zero => rfl
  | succ n ih =>
    have hrise : (wire f).drive (.clock true) (r, s) = ({ r with clock := true }, s) :=
      step_clock_quiet (by simp) f s
    have hlook : (wire f).sample ((wire f).drive (.clock true) (r, s))
        = (r.sends, ({ r with clock := true }, s)) := by
      rw [hrise]
      rfl
    obtain ⟨hc, hd⟩ := fall_lines f (r.fallen true) s
    have hrest : (wire f).readLevels n
        ((wire f).drive (.clock false) ({ r with clock := true }, s))
          = ((List.range n).map fun i =>
              (falls f (List.replicate (i + 1) true) r s).1.sends,
            falls f (List.replicate (n + 1) true) r s) := by
      rw [drive_fall, hdata]
      exact ih hc hd (fallOn f true r s).2
    rw [Wire.readLevels_succ_of hlook hrest, List.range_succ_eq_map, List.map_cons, List.map_map]
    rfl

section

variable (f : RegisterMap σ) (val : UInt8) (data : Bool) (pointer : Nat) (s : σ)

/-- While a byte is sent its levels are on the line one after the other. -/
theorem sends_giving {k : Nat} (hk : k < 8) :
    ((offering val data pointer).giving (List.replicate k true)).sends
      = Byte.bit val (7 - k) := by
  rw [← Byte.and_mask_ne_zero val hk, giving, List.length_replicate]
  rfl

/-- The eight levels of a byte that is offered are those of the byte. -/
theorem readLevels_offering :
    (wire f).readLevels 8 (offering val true pointer, s)
      = (Byte.levels val, (full .sent val true pointer, s)) := by
  have hlevel : ∀ i ∈ List.range 8,
      (falls f (List.replicate i true) (offering val true pointer) s).1.sends
        = Byte.bit val (7 - i) := by
    intro i hi
    have hlt : i < 8 := List.mem_range.mp hi
    rw [falls_giving f val true pointer s (by rwa [List.length_replicate]),
      sends_giving val true pointer hlt]
  rw [readLevels_wire f 8 rfl rfl, List.map_congr_left hlevel,
    falls_offering f val true pointer s List.length_replicate]
  rfl

/-- The controller's answer to a byte is on the line when the clock falls for the ninth time. -/
theorem receiveByte_offering (ack : Bool) :
    (wire f).receiveByte ack (offering val data pointer, s) =
      let out := fallOn f (!ack) (full .sent val true pointer) s
      (val, ({ out.1 with data := true }, out.2)) := by
  have hfree : (wire f).drive (.data true) (offering val data pointer, s)
      = (offering val true pointer, s) := step_data_low rfl f s true
  have hanswer : (wire f).driveAll [.data !ack, .clock true, .clock false, .data true]
      (full .sent val true pointer, s) =
        let out := fallOn f (!ack) (full .sent val true pointer) s
        ({ out.1 with data := true }, out.2) := by
    have hbit := run_bitEvents (r := full .sent val true pointer) rfl f s (!ack)
    have hsplit : [LineEvent.data !ack, .clock true, .clock false, .data true]
        = bitEvents (!ack) ++ [.data true] := rfl
    rw [driveAll_wire, hsplit, run_append, hbit, run_cons, step_data_low (clock_fallOn f _ _ s)]
    rfl
  simp only [Wire.receiveByte, hfree, readLevels_offering, hanswer, Byte.ofLevels_levels]

theorem receiveByte_ack :
    (wire f).receiveByte true (offering val data pointer, s)
      = (val, (offering (f.read s ((pointer + 1) % f.count)).1 true ((pointer + 1) % f.count),
          (f.read s ((pointer + 1) % f.count)).2)) := by
  rw [receiveByte_offering, Bool.not_true, fallOn_sent_low]
  rfl

theorem receiveByte_nack :
    (wire f).receiveByte false (offering val data pointer, s)
      = (val, (full .idle val true pointer, s)) := by
  rw [receiveByte_offering, Bool.not_false, fallOn_sent_high]
  rfl

end

/-- A burst of reads takes up one byte that is on offer already and reads the others. -/
theorem receiveBytes_offering (f : RegisterMap σ) (start n : Nat) (val : UInt8) (s : σ) :
    ∃ last, (wire f).receiveBytes (n + 1) (offering val true (start % f.count), s)
      = (val :: (f.readAll (start + 1) n s).1,
          (full .idle last true ((start + n) % f.count), (f.readAll (start + 1) n s).2)) := by
  induction n generalizing start val s with
  | zero => exact ⟨val, Wire.receiveBytes_succ_of (receiveByte_nack f val true _ s) rfl⟩
  | succ n ih =>
    have hnext : (start % f.count + 1) % f.count = (start + 1) % f.count := Nat.mod_add_mod _ _ _
    have hval := receiveByte_ack f val true (start % f.count) s
    rw [hnext] at hval
    obtain ⟨last, hrest⟩ := ih (start + 1) (f.read s ((start + 1) % f.count)).1
      (f.read s ((start + 1) % f.count)).2
    have hend : start + 1 + n = start + (n + 1) := by omega
    rw [hend] at hrest
    exact ⟨last, Wire.receiveBytes_succ_of hval hrest⟩

/-- **A burst of reads** latches behind a START, reads its bytes behind a second one, and leaves
the pointer at the last byte that it read. -/
theorem readBurst_wire (f : RegisterMap σ) (pointer : UInt8) (n : Nat) (r : Responder) (s : σ) :
    ∃ bit shift, (wire f).readBurst pointer n (r, s) =
      if n = 0 then
        (.ok [], ({ released with pointer := pointer.toNat % f.count }, f.onStart s))
      else
        (.ok (f.readAll pointer.toNat n (f.onStart (f.onStart s))).1,
          (⟨true, true, .idle, bit, shift, (pointer.toNat + n - 1) % f.count⟩,
            (f.readAll pointer.toNat n (f.onStart (f.onStart s))).2)) := by
  have hfound : (wire f).sendByte writeSelect ((wire f).start (r, s))
      = (true, (awaiting .pointing true r.pointer, f.onStart s)) := by
    rw [start_wire, sendByte_writeSelect]
  have hpointed := sendByte_pointer f true r.pointer pointer (f.onStart s)
  cases n with
  | zero =>
    refine ⟨0, 0, ?_⟩
    rw [Wire.readBurst_zero_of_acked hfound hpointed, stop_wire rfl, if_pos rfl]
    rfl
  | succ n =>
    have hagain := sendByte_readSelect f false (pointer.toNat % f.count) (f.onStart (f.onStart s))
    obtain ⟨last, hvals⟩ := receiveBytes_offering f pointer.toNat n
      (f.read (f.onStart (f.onStart s)) (pointer.toNat % f.count)).1
      (f.read (f.onStart (f.onStart s)) (pointer.toNat % f.count)).2
    refine ⟨8, last, ?_⟩
    rw [Wire.readBurst_of_acked (Nat.succ_ne_zero n) hfound hpointed
      (by rw [start_wire]; exact hagain) hvals, stop_wire rfl, if_neg (Nat.succ_ne_zero n)]
    rfl

end Responder

end ClockChip
