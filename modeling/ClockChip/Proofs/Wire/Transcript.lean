import ClockChip.Proofs.Wire.Burst
import ClockChip.Proofs.Wire.Translation

/-!
# What a controller does on a wire

A controller knows nothing of the device at the other end of its wire but the levels that it sees on
the data line.  This module writes down what it does, together with what it sees, for a device that
may answer anything at all: the line events and the looks at the data line, in their order.  A byte
sent is eight bits and a look during the ninth pulse; a byte received is eight looks and a ninth
pulse.  A transfer is made of these, and where it ends depends on what was seen.

## Main definitions

* `WireAct`, `Wire.observed`: line events and looks, and a wire that keeps them.
* `startActs`, `stopActs`, `sentActs`, `receivedActs`: the acts of a START, a STOP and a byte.
* `writtenActs`, `readActs`, `refusedActs`: the acts of transfers that go through, and of those that
  end at a byte that is refused.
* `looks`: the levels that were seen.

## Main results

* `Wire.sendByte_observed`, `Wire.receiveByte_observed`: one byte.
* `Wire.sendBytes_observed`, `Wire.receiveBytes_observed`: bytes, up to the first that is refused.
* `Wire.bursts_observed`: **the acts and the outcome of a transfer, whatever the device answers.**
-/

namespace ClockChip

/-- What a controller does to a wire, or sees on it. -/
inductive WireAct where
  /-- A line is set to a level. -/
  | drive (e : LineEvent)
  /-- The data line is looked at, and has a level. -/
  | look (level : Bool)
  deriving DecidableEq, Repr

/-! ### Acts -/

/-- The acts of a START. -/
def startActs : List WireAct := startEvents.map .drive

/-- The acts of a STOP. -/
def stopActs : List WireAct := stopEvents.map .drive

/-- The acts of sending a byte: its bits, the most significant first, and a look at the released
data line during the ninth pulse.  A high level there refuses the byte. -/
def sentActs (b : UInt8) (refused : Bool) : List WireAct :=
  ((Byte.levels b).flatMap bitEvents).map .drive
    ++ [.drive (.data true), .drive (.clock true), .look refused, .drive (.clock false)]

/-- The acts of sending bytes that are all acknowledged. -/
def sentAllActs (bs : List UInt8) : List WireAct := bs.flatMap fun b => sentActs b false

/-- One clock pulse with a look at the data line. -/
def lookActs (level : Bool) : List WireAct :=
  [.drive (.clock true), .look level, .drive (.clock false)]

/-- The acts of receiving a byte: a look at each of its bits on the released data line, the most
significant first, and a ninth pulse with the data line low to go on, or high to end. -/
def receivedActs (val : UInt8) (ack : Bool) : List WireAct :=
  .drive (.data true) :: (Byte.levels val).flatMap lookActs
    ++ [LineEvent.data !ack, .clock true, .clock false, .data true].map .drive

/-- The acts of receiving bytes: all but the last are acknowledged. -/
def receivedAllActs : List UInt8 → List WireAct
  | [] => []
  | val :: vals => receivedActs val (!vals.isEmpty) ++ receivedAllActs vals

/-- The acts of a write that goes through. -/
def writtenActs (pointer : UInt8) (vals : List UInt8) : List WireAct :=
  startActs ++ sentAllActs (writeSelect :: pointer :: vals) ++ stopActs

/-- The acts of a transfer that ends at the first byte that is refused. -/
def refusedActs (front : List UInt8) (b : UInt8) : List WireAct :=
  startActs ++ sentAllActs front ++ sentActs b true ++ stopActs

/-- The acts of pointing at a register and calling the device again to be read. -/
def calledActs (pointer : UInt8) (refused : Bool) : List WireAct :=
  startActs ++ sentAllActs [writeSelect, pointer] ++ startActs ++ sentActs readSelect refused

/-- The acts of a read that goes through.  If there is nothing to read the device is not called
again. -/
def readActs (pointer : UInt8) : List UInt8 → List WireAct
  | [] => writtenActs pointer []
  | vals => calledActs pointer false ++ receivedAllActs vals ++ stopActs

@[simp] theorem sentAllActs_nil : sentAllActs [] = [] := rfl

@[simp] theorem sentAllActs_cons (b : UInt8) (bs : List UInt8) :
    sentAllActs (b :: bs) = sentActs b false ++ sentAllActs bs := rfl

/-- The levels that were seen, in order. -/
def looks (acts : List WireAct) : List Bool :=
  acts.filterMap fun
    | .drive _ => none
    | .look level => some level

@[simp] theorem looks_append (acts bcts : List WireAct) :
    looks (acts ++ bcts) = looks acts ++ looks bcts := List.filterMap_append

@[simp] theorem looks_drive (es : List LineEvent) : looks (es.map .drive) = [] := by
  induction es with
  | nil => rfl
  | cons e es ih => exact ih

@[simp] theorem looks_startActs : looks startActs = [] := rfl

@[simp] theorem looks_stopActs : looks stopActs = [] := rfl

/-- Of a byte that is sent only the answer is looked at. -/
@[simp] theorem looks_sentActs (b : UInt8) (refused : Bool) :
    looks (sentActs b refused) = [refused] := by
  rw [sentActs, looks_append, looks_drive]
  rfl

@[simp] theorem looks_sentAllActs (bs : List UInt8) :
    looks (sentAllActs bs) = List.replicate bs.length false := by
  induction bs with
  | nil => rfl
  | cons b bs ih => simp [ih, List.replicate_succ]

theorem looks_refusedActs (front : List UInt8) (b : UInt8) :
    looks (refusedActs front b) = List.replicate front.length false ++ [true] := by
  simp [refusedActs]

theorem looks_calledActs (pointer : UInt8) (refused : Bool) :
    looks (calledActs pointer refused) = [false, false, refused] := by
  simp [calledActs]

/-! ### Refused transfers

A transfer is stopped behind the first byte that is refused. -/

namespace Wire

variable {σ : Type} {w : Wire σ} {pointer : UInt8} {s s₁ s₂ s₃ : σ}

theorem writeBurst_of_absent {vals : List UInt8}
    (hlost : w.sendByte writeSelect (w.start s) = (false, s₁)) :
    w.writeBurst pointer vals s = (.error (.noDevice writeSelect), w.stop s₁) := by
  simp [writeBurst, hlost]

theorem writeBurst_of_refused {vals : List UInt8}
    (hfound : w.sendByte writeSelect (w.start s) = (true, s₁))
    (hsent : w.sendBytes (pointer :: vals) s₁ = (false, s₂)) :
    w.writeBurst pointer vals s = (.error (.writeRefused pointer), w.stop s₂) := by
  simp [writeBurst, hfound, hsent]

theorem readBurst_of_absent {n : Nat}
    (hlost : w.sendByte writeSelect (w.start s) = (false, s₁)) :
    w.readBurst pointer n s = (.error (.noDevice writeSelect), w.stop s₁) := by
  simp [readBurst, hlost]

theorem readBurst_of_unpointed {n : Nat}
    (hfound : w.sendByte writeSelect (w.start s) = (true, s₁))
    (hpointed : w.sendByte pointer s₁ = (false, s₂)) :
    w.readBurst pointer n s = (.error (.pointerRefused pointer), w.stop s₂) := by
  simp [readBurst, hfound, hpointed]

theorem readBurst_of_gone {n : Nat} (hn : n ≠ 0)
    (hfound : w.sendByte writeSelect (w.start s) = (true, s₁))
    (hpointed : w.sendByte pointer s₁ = (true, s₂))
    (hlost : w.sendByte readSelect (w.start s₂) = (false, s₃)) :
    w.readBurst pointer n s = (.error (.noDevice readSelect), w.stop s₃) := by
  simp [readBurst, hfound, hpointed, hn, hlost]

end Wire

/-! ### Observed wires -/

namespace Wire

variable {σ : Type} (w : Wire σ)

/-- The same wire, with what was done and seen so far beside its state. -/
def observed : Wire (σ × List WireAct) where
  drive e x := (w.drive e x.1, x.2 ++ [.drive e])
  sample x := let (level, t) := w.sample x.1; (level, (t, x.2 ++ [.look level]))

/-- Keeping the acts changes nothing for a controller. -/
theorem observed_translates : w.observed.Translates w Prod.fst :=
  ⟨fun _ _ => rfl, fun _ => rfl⟩

/-! ### Bytes -/

theorem driveAll_observed (es : List LineEvent) (s : σ) (acts : List WireAct) :
    w.observed.driveAll es (s, acts) = (w.driveAll es s, acts ++ es.map .drive) := by
  induction es generalizing s acts with
  | nil => simp
  | cons e es ih =>
    have hrest := ih (w.drive e s) (acts ++ [.drive e])
    rw [List.append_assoc] at hrest
    exact hrest

theorem start_observed (s : σ) (acts : List WireAct) :
    w.observed.start (s, acts) = (w.start s, acts ++ startActs) := w.driveAll_observed _ s acts

theorem stop_observed (s : σ) (acts : List WireAct) :
    w.observed.stop (s, acts) = (w.stop s, acts ++ stopActs) := w.driveAll_observed _ s acts

theorem drive_observed (e : LineEvent) (s : σ) (acts : List WireAct) :
    w.observed.drive e (s, acts) = (w.drive e s, acts ++ [.drive e]) := rfl

theorem sample_observed {s t : σ} {level : Bool} (h : w.sample s = (level, t))
    (acts : List WireAct) :
    w.observed.sample (s, acts) = (level, (t, acts ++ [.look level])) := by
  simp only [observed, h]

/-- **One byte sent.**  It is acknowledged if the data line is low at the ninth pulse. -/
theorem sendByte_observed (b : UInt8) (s : σ) (acts : List WireAct) :
    ∃ refused t, w.observed.sendByte b (s, acts) = (!refused, (t, acts ++ sentActs b refused)) := by
  rcases hlook : w.sample (w.driveAll [.data true, .clock true]
    (w.driveAll ((Byte.levels b).flatMap bitEvents) s)) with ⟨refused, t⟩
  refine ⟨refused, w.drive (.clock false) t, ?_⟩
  rw [sendByte]
  simp only [driveAll_observed, sample_observed w hlook, drive_observed, List.append_assoc]
  rfl

/-- The levels that are read are those that are seen. -/
theorem readLevels_observed (n : Nat) (s : σ) (acts : List WireAct) :
    ∃ levels t, levels.length = n
      ∧ w.observed.readLevels n (s, acts) = (levels, (t, acts ++ levels.flatMap lookActs)) := by
  induction n generalizing s acts with
  | zero => exact ⟨[], s, rfl, by simp [readLevels]⟩
  | succ n ih =>
    rcases hlook : w.sample (w.drive (.clock true) s) with ⟨level, t⟩
    obtain ⟨levels, u, hlen, hrest⟩ := ih (w.drive (.clock false) t) (acts ++ lookActs level)
    refine ⟨level :: levels, u, by rw [List.length_cons, hlen], ?_⟩
    have hseen : w.observed.sample (w.observed.drive (.clock true) (s, acts))
        = (level, (t, acts ++ [.drive (.clock true)] ++ [.look level])) :=
      w.sample_observed hlook _
    have hfallen : w.observed.drive (.clock false)
        (t, acts ++ [.drive (.clock true)] ++ [.look level])
          = (w.drive (.clock false) t, acts ++ lookActs level) := by
      rw [drive_observed, lookActs]
      simp
    rw [readLevels_succ_of hseen (hfallen ▸ hrest), List.flatMap_cons, List.append_assoc]

/-- **One byte received.**  Its bits are the levels that were seen. -/
theorem receiveByte_observed (ack : Bool) (s : σ) (acts : List WireAct) :
    ∃ val t, w.observed.receiveByte ack (s, acts) = (val, (t, acts ++ receivedActs val ack)) := by
  obtain ⟨levels, t, hlen, hread⟩ :=
    w.readLevels_observed 8 (w.drive (.data true) s) (acts ++ [.drive (.data true)])
  refine ⟨Byte.ofLevels levels,
    w.driveAll [.data !ack, .clock true, .clock false, .data true] t, ?_⟩
  rw [receiveByte, drive_observed, hread]
  simp only [driveAll_observed, receivedActs, Byte.levels_ofLevels hlen, List.append_assoc]
  rfl

/-- **Bytes sent up to the first that is refused.** -/
theorem sendBytes_observed (bs : List UInt8) (s : σ) (acts : List WireAct) :
    (∃ t, w.observed.sendBytes bs (s, acts) = (true, (t, acts ++ sentAllActs bs)))
      ∨ ∃ front b rest t, bs = front ++ b :: rest
        ∧ w.observed.sendBytes bs (s, acts)
          = (false, (t, acts ++ sentAllActs front ++ sentActs b true)) := by
  induction bs generalizing s acts with
  | nil => exact .inl ⟨s, by simp [sendBytes]⟩
  | cons b bs ih =>
    obtain ⟨refused, t, hsent⟩ := w.sendByte_observed b s acts
    cases refused with
    | true =>
      refine .inr ⟨[], b, bs, t, rfl, ?_⟩
      rw [sendBytes, hsent, sentAllActs_nil, List.append_nil]
      rfl
    | false =>
      have hcons := sendBytes_cons_of_acked hsent bs
      rcases ih t (acts ++ sentActs b false) with ⟨u, hrest⟩ | ⟨front, c, rest, u, rfl, hrest⟩
      · refine .inl ⟨u, ?_⟩
        rw [hcons, hrest, sentAllActs_cons, List.append_assoc]
      · refine .inr ⟨b :: front, c, rest, u, rfl, ?_⟩
        rw [hcons, hrest, sentAllActs_cons, List.append_assoc acts]

/-- **Bytes received.**  All but the last are acknowledged. -/
theorem receiveBytes_observed (n : Nat) (s : σ) (acts : List WireAct) :
    ∃ vals t, vals.length = n
      ∧ w.observed.receiveBytes n (s, acts) = (vals, (t, acts ++ receivedAllActs vals)) := by
  -- a byte is acknowledged as long as some are still to come
  induction n generalizing s acts with
  | zero => exact ⟨[], s, rfl, by rw [receivedAllActs, List.append_nil]; rfl⟩
  | succ n ih =>
    obtain ⟨val, t, hval⟩ := w.receiveByte_observed (n != 0) s acts
    obtain ⟨vals, u, hlen, hrest⟩ := ih t (acts ++ receivedActs val (n != 0))
    refine ⟨val :: vals, u, by rw [List.length_cons, hlen], ?_⟩
    have hmore : (!vals.isEmpty) = (n != 0) := by rw [← hlen]; cases vals <;> rfl
    rw [receiveBytes_succ_of hval hrest, receivedAllActs, hmore, List.append_assoc]

/-! ### Transfers -/

/-- **A burst of writes.**  It goes through if all of its bytes are acknowledged, and is stopped
behind the first that is not. -/
theorem writeBurst_observed (pointer : UInt8) (vals : List UInt8) (s : σ) (acts : List WireAct) :
    (∃ t, w.observed.writeBurst pointer vals (s, acts)
        = (.ok (), (t, acts ++ writtenActs pointer vals)))
      ∨ ∃ front b rest t, writeSelect :: pointer :: vals = front ++ b :: rest
        ∧ w.observed.writeBurst pointer vals (s, acts)
          = (.error (if front = [] then .noDevice writeSelect else .writeRefused pointer),
            (t, acts ++ refusedActs front b)) := by
  obtain ⟨refused, t, hfound⟩ := w.sendByte_observed writeSelect (w.start s) (acts ++ startActs)
  rw [← start_observed] at hfound
  cases refused with
  | true =>
    refine .inr ⟨[], writeSelect, pointer :: vals, w.stop t, rfl, ?_⟩
    rw [writeBurst_of_absent hfound, stop_observed, if_pos rfl]
    simp only [refusedActs, sentAllActs_nil, List.append_nil, List.append_assoc]
  | false =>
    rcases w.sendBytes_observed (pointer :: vals) t
      (acts ++ startActs ++ sentActs writeSelect false)
      with ⟨u, hsent⟩ | ⟨front, b, rest, u, hsplit, hsent⟩
    · refine .inl ⟨w.stop u, ?_⟩
      rw [writeBurst_of_acked hfound hsent, stop_observed]
      simp only [writtenActs, sentAllActs_cons, List.append_assoc]
    · refine .inr ⟨writeSelect :: front, b, rest, w.stop u, by rw [hsplit]; rfl, ?_⟩
      rw [writeBurst_of_refused hfound hsent, stop_observed, if_neg (List.cons_ne_nil _ _)]
      simp only [refusedActs, sentAllActs_cons, List.append_assoc]

/-- **A burst of reads.**  It is stopped behind the first byte that is not acknowledged. -/
theorem readBurst_observed (pointer : UInt8) (n : Nat) (s : σ) (acts : List WireAct) :
    (∃ vals t, vals.length = n ∧ w.observed.readBurst pointer n (s, acts)
        = (.ok vals, (t, acts ++ readActs pointer vals)))
      ∨ (∃ front b rest t, [writeSelect, pointer] = front ++ b :: rest
        ∧ w.observed.readBurst pointer n (s, acts)
          = (.error (if front = [] then .noDevice writeSelect else .pointerRefused pointer),
            (t, acts ++ refusedActs front b)))
      ∨ (n ≠ 0 ∧ ∃ t, w.observed.readBurst pointer n (s, acts)
          = (.error (.noDevice readSelect),
            (t, acts ++ (calledActs pointer true ++ stopActs)))) := by
  obtain ⟨refused, t, hfound⟩ := w.sendByte_observed writeSelect (w.start s) (acts ++ startActs)
  rw [← start_observed] at hfound
  cases refused with
  | true =>
    refine .inr (.inl ⟨[], writeSelect, [pointer], w.stop t, rfl, ?_⟩)
    rw [readBurst_of_absent hfound, stop_observed, if_pos rfl]
    simp only [refusedActs, sentAllActs_nil, List.append_nil, List.append_assoc]
  | false =>
    obtain ⟨refused, u, hpointed⟩ :=
      w.sendByte_observed pointer t (acts ++ startActs ++ sentActs writeSelect false)
    cases refused with
    | true =>
      refine .inr (.inl ⟨[writeSelect], pointer, [], w.stop u, rfl, ?_⟩)
      rw [readBurst_of_unpointed hfound hpointed, stop_observed, if_neg (List.cons_ne_nil _ _)]
      simp only [refusedActs, sentAllActs_cons, sentAllActs_nil, List.append_nil,
        List.append_assoc]
    | false =>
      cases n with
      | zero =>
        refine .inl ⟨[], w.stop u, rfl, ?_⟩
        rw [readBurst_zero_of_acked hfound hpointed, stop_observed]
        simp only [readActs, writtenActs, sentAllActs_cons, sentAllActs_nil, List.append_assoc,
          List.append_nil]
      | succ n =>
        obtain ⟨refused, v, hagain⟩ := w.sendByte_observed readSelect (w.start u)
          (acts ++ startActs ++ sentActs writeSelect false ++ sentActs pointer false ++ startActs)
        rw [← start_observed] at hagain
        cases refused with
        | true =>
          refine .inr (.inr ⟨n.succ_ne_zero, w.stop v, ?_⟩)
          rw [readBurst_of_gone n.succ_ne_zero hfound hpointed hagain, stop_observed]
          simp only [calledActs, sentAllActs_cons, sentAllActs_nil, List.append_nil,
            List.append_assoc]
        | false =>
          obtain ⟨vals, x, hlen, hvals⟩ := w.receiveBytes_observed (n + 1) v _
          refine .inl ⟨vals, w.stop x, hlen, ?_⟩
          obtain ⟨val, rest, rfl⟩ := List.exists_cons_of_length_eq_add_one hlen
          rw [readBurst_of_acked n.succ_ne_zero hfound hpointed hagain hvals, stop_observed]
          simp only [readActs, calledActs, sentAllActs_cons, sentAllActs_nil, List.append_assoc,
            List.append_nil]

/-- **What a controller does on a wire and how its transfers end, whatever the device answers.**
A write sends its bytes up to the first that is refused, and succeeds if none of them is.  A read
points at a register in the same way, calls the device again if there is anything to read, and then
returns the bytes whose levels it saw. -/
theorem bursts_observed (pointer : UInt8) (s : σ) :
    (∀ vals, ∃ outcome t acts,
      w.writeBurst pointer vals s = (outcome, t)
        ∧ w.observed.writeBurst pointer vals (s, []) = (outcome, (t, acts))
        ∧ (outcome = .ok () ↔ ∀ refused ∈ looks acts, refused = false)
        ∧ (outcome = .ok () ∧ acts = writtenActs pointer vals
          ∨ ∃ front b rest, writeSelect :: pointer :: vals = front ++ b :: rest
            ∧ acts = refusedActs front b
            ∧ outcome = .error
              (if front = [] then .noDevice writeSelect else .writeRefused pointer)))
      ∧ ∀ n, ∃ outcome t acts,
        w.readBurst pointer n s = (outcome, t)
          ∧ w.observed.readBurst pointer n (s, []) = (outcome, (t, acts))
          ∧ ((∃ vals, outcome = .ok vals)
            ↔ ∀ refused ∈ (looks acts).take (if n = 0 then 2 else 3), refused = false)
          ∧ ((∃ vals, vals.length = n ∧ outcome = .ok vals ∧ acts = readActs pointer vals)
            ∨ (∃ front b rest, [writeSelect, pointer] = front ++ b :: rest
              ∧ acts = refusedActs front b
              ∧ outcome = .error
                (if front = [] then .noDevice writeSelect else .pointerRefused pointer))
            ∨ n ≠ 0 ∧ acts = calledActs pointer true ++ stopActs
              ∧ outcome = .error (.noDevice readSelect)) := by
  refine ⟨fun vals => ?_, fun n => ?_⟩
  · have hplain := w.observed_translates.writeBurst pointer vals (s, [])
    rcases w.writeBurst_observed pointer vals s []
      with ⟨t, hsent⟩ | ⟨front, b, rest, t, hsplit, hsent⟩
    · rw [hsent] at hplain
      refine ⟨_, t, _, hplain, hsent, ?_, .inl ⟨rfl, rfl⟩⟩
      simp [writtenActs]
    · rw [hsent] at hplain
      refine ⟨_, t, _, hplain, hsent, ?_, .inr ⟨front, b, rest, hsplit, rfl, rfl⟩⟩
      simp [looks_refusedActs]
  · have hplain := w.observed_translates.readBurst pointer n (s, [])
    rcases w.readBurst_observed pointer n s []
      with ⟨vals, t, hlen, hread⟩ | ⟨front, b, rest, t, hsplit, hread⟩ | ⟨hn, t, hread⟩
    · rw [hread] at hplain
      refine ⟨_, t, _, hplain, hread, ?_, .inl ⟨vals, hlen, rfl, rfl⟩⟩
      subst hlen
      cases vals with
      | nil => simp [readActs, writtenActs]
      | cons val vals => simp [readActs, looks_calledActs]
    · rw [hread] at hplain
      refine ⟨_, t, _, hplain, hread, ?_, .inr (.inl ⟨front, b, rest, hsplit, rfl, rfl⟩)⟩
      -- the byte that was refused is one of the first two
      have hlen := congrArg List.length hsplit
      simp only [List.length_append, List.length_cons, List.length_nil] at hlen
      rw [List.nil_append, looks_refusedActs, List.take_of_length_le (by split <;> simp <;> omega)]
      simp
    · rw [hread] at hplain
      refine ⟨_, t, _, hplain, hread, ?_, .inr (.inr ⟨hn, rfl, rfl⟩)⟩
      simp [looks_calledActs, hn]

end Wire

end ClockChip
