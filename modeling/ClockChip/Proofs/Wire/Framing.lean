import ClockChip.Proofs.Wire.Reading
import ClockChip.Proofs.Wire.Transcript
import ClockChip.Wire.Recorder

/-!
# How transfers are framed

While the clock is high the data line must not change, but to begin a transfer or to end it.  A
controller keeps to that on any wire, whether its bytes are acknowledged or not: a transfer begins
with a START, is begun again by a second one if a register is pointed at and something is to be
read there, and ends with its only STOP, which leaves both lines high for the next transfer.

Between its START and its STOP a transfer is made of parts that leave the clock low, each of which
is free of such changes from there on.

## Main definitions

* `events`, `linesAfter`, `framing`: the line events of acts, the levels they leave, and the changes
  of the data line while the clock is high.
* `Unframed`, `Framed`: a part of a transfer, and a whole one.
* `Burst`, `Wire.carry`: transfers of either kind.

## Main results

* `framed_once`, `framed_twice`: transfers with one START or two.
* `Wire.carry_observed`: a transfer is framed, however it ends.
* `Wire.carry_framed`: **so is every transfer of a sequence of transfers.**
-/

namespace ClockChip

/-! ### Lines -/

/-- The levels of the clock and data lines behind a line event. -/
def LineEvent.onto : LineEvent → Bool × Bool → Bool × Bool
  | clock level, lines => (level, lines.2)
  | data level, lines => (lines.1, level)

/-- The levels of the clock and data lines behind line events. -/
def linesAfter (lines : Bool × Bool) (es : List LineEvent) : Bool × Bool :=
  es.foldl (fun lines e => e.onto lines) lines

/-- A transfer can begin: the clock is low, or both lines are high. -/
def Ready (lines : Bool × Bool) : Prop := lines.1 = true → lines.2 = true

theorem linesAfter_append (lines : Bool × Bool) (es fs : List LineEvent) :
    linesAfter lines (es ++ fs) = linesAfter (linesAfter lines es) fs := List.foldl_append

theorem signals_append (lines : Bool × Bool) (es fs : List LineEvent) :
    signals lines.1 lines.2 (es ++ fs) = signals lines.1 lines.2 es
      ++ signals (linesAfter lines es).1 (linesAfter lines es).2 fs := by
  induction es generalizing lines with
  | nil => rfl
  | cons e es ih =>
    have hrest := ih (e.onto lines)
    cases e with
    | clock level =>
      simp only [List.cons_append, signals]
      split
      · exact congrArg (_ :: ·) hrest
      · exact hrest
    | data level =>
      simp only [List.cons_append, signals]
      split
      · exact congrArg (_ :: ·) hrest
      · split
        · exact congrArg (_ :: ·) hrest
        · exact hrest

/-! ### Framing -/

/-- STARTs and STOPs. -/
def Signal.frames : Signal → Bool
  | fall _ => false
  | _ => true

/-- The STARTs and STOPs of line events: every change of the data line while the clock is high. -/
def framing (lines : Bool × Bool) (es : List LineEvent) : List Signal :=
  (signals lines.1 lines.2 es).filter Signal.frames

theorem framing_append (lines : Bool × Bool) (es fs : List LineEvent) :
    framing lines (es ++ fs) = framing lines es ++ framing (linesAfter lines es) fs := by
  rw [framing, signals_append, List.filter_append]
  rfl

/-- A part of a transfer: from a low clock on nothing is framed, and the clock is left low. -/
structure Unframed (es : List LineEvent) : Prop where
  framing_eq : ∀ data, framing (false, data) es = []
  clock_low : ∀ data, (linesAfter (false, data) es).1 = false

theorem unframed_nil : Unframed [] := ⟨fun _ => rfl, fun _ => rfl⟩

/-- From a low clock on, a part of a transfer leaves the clock low. -/
theorem Unframed.linesAfter_eq {es : List LineEvent} (h : Unframed es) (data : Bool) :
    ∃ data', linesAfter (false, data) es = (false, data') :=
  ⟨(linesAfter (false, data) es).2, Prod.ext (h.clock_low data) rfl⟩

theorem Unframed.append {es fs : List LineEvent} (hes : Unframed es) (hfs : Unframed fs) :
    Unframed (es ++ fs) := by
  constructor <;> intro data <;> obtain ⟨data', hlines⟩ := hes.linesAfter_eq data
  · rw [framing_append, hes.framing_eq, hlines, hfs.framing_eq, List.append_nil]
  · rw [linesAfter_append, hlines, hfs.clock_low]

theorem Unframed.flatMap {α : Type} {f : α → List LineEvent} (h : ∀ x, Unframed (f x))
    (xs : List α) : Unframed (xs.flatMap f) := by
  induction xs with
  | nil => exact unframed_nil
  | cons x xs ih => exact (h x).append ih

theorem unframed_data (level : Bool) : Unframed [.data level] :=
  ⟨fun _ => rfl, fun _ => rfl⟩

theorem unframed_pulse : Unframed [.clock true, .clock false] :=
  ⟨fun _ => rfl, fun _ => rfl⟩

theorem unframed_bitEvents (level : Bool) : Unframed (bitEvents level) :=
  (unframed_data level).append unframed_pulse

/-! ### Acts of transfers -/

/-- The line events among acts. -/
def events (acts : List WireAct) : List LineEvent :=
  acts.filterMap fun
    | .drive e => some e
    | .look _ => none

theorem events_append (acts bcts : List WireAct) :
    events (acts ++ bcts) = events acts ++ events bcts := List.filterMap_append

theorem events_drive (es : List LineEvent) : events (es.map .drive) = es := by
  induction es with
  | nil => rfl
  | cons e es ih => exact congrArg (e :: ·) ih

theorem events_flatMap {α : Type} (f : α → List WireAct) (xs : List α) :
    events (xs.flatMap f) = xs.flatMap fun x => events (f x) := by
  induction xs with
  | nil => rfl
  | cons x xs ih => rw [List.flatMap_cons, events_append, ih, List.flatMap_cons]

theorem unframed_sentActs (b : UInt8) (refused : Bool) :
    Unframed (events (sentActs b refused)) := by
  have hanswer : events [.drive (.data true), .drive (.clock true), .look refused,
      .drive (.clock false)] = bitEvents true := rfl
  rw [sentActs, events_append, events_drive, hanswer]
  exact (Unframed.flatMap unframed_bitEvents _).append (unframed_bitEvents true)

theorem unframed_sentAllActs (bs : List UInt8) : Unframed (events (sentAllActs bs)) := by
  rw [sentAllActs, events_flatMap]
  exact .flatMap (fun b => unframed_sentActs b false) bs

theorem unframed_receivedActs (val : UInt8) (ack : Bool) :
    Unframed (events (receivedActs val ack)) := by
  have hlooks : Unframed (events ((Byte.levels val).flatMap lookActs)) := by
    rw [events_flatMap]
    exact .flatMap (fun _ => unframed_pulse) _
  have hanswer : [LineEvent.data !ack, .clock true, .clock false, .data true]
      = bitEvents (!ack) ++ [.data true] := rfl
  rw [receivedActs, events_append, events_drive, hanswer]
  exact ((unframed_data true).append hlooks).append
    ((unframed_bitEvents !ack).append (unframed_data true))

theorem unframed_receivedAllActs (vals : List UInt8) :
    Unframed (events (receivedAllActs vals)) := by
  induction vals with
  | nil => exact unframed_nil
  | cons val vals ih =>
    rw [receivedAllActs, events_append]
    exact (unframed_receivedActs val _).append ih

/-! ### Whole transfers -/

/-- Line events that make a START, or two of them, and behind these a STOP with their last one, and
that leave both lines high. -/
structure Framed (again : Bool) (es : List LineEvent) (lines : Bool × Bool) : Prop where
  starts : framing lines es.dropLast = if again then [.start, .start] else [.start]
  stop : es.getLast? = some (.data true)
  framing_eq : framing lines es = framing lines es.dropLast ++ [.stop]
  lines_high : linesAfter lines es = (true, true)

theorem framing_startEvents {lines : Bool × Bool} (h : Ready lines) :
    framing lines startEvents = [.start] := by
  obtain ⟨clock, data⟩ := lines
  cases clock with
  | false => rfl
  | true =>
    obtain rfl : data = true := h rfl
    rfl

theorem linesAfter_startEvents (lines : Bool × Bool) :
    linesAfter lines startEvents = (false, false) := rfl

/-- A STOP ends what left the clock low. -/
theorem framed_of_low {again : Bool} {es : List LineEvent} {lines : Bool × Bool} {data : Bool}
    (hstarts : framing lines es = if again then [.start, .start] else [.start])
    (hlow : linesAfter lines es = (false, data)) : Framed again (es ++ stopEvents) lines := by
  -- of a STOP only the last event is a change while the clock is high
  have hlast : es ++ stopEvents = (es ++ [.data false, .clock true]) ++ [.data true] := by
    rw [List.append_assoc]
    rfl
  have hraised : linesAfter lines (es ++ [.data false, .clock true]) = (true, false) := by
    rw [linesAfter_append, hlow]
    rfl
  have hfront : framing lines (es ++ [.data false, .clock true])
      = if again then [.start, .start] else [.start] := by
    rw [framing_append, hlow, hstarts]
    exact List.append_nil _
  rw [hlast]
  constructor
  · rw [List.dropLast_concat, hfront]
  · exact List.getLast?_concat
  · rw [List.dropLast_concat, framing_append, hraised]
    rfl
  · rw [linesAfter_append, hraised]
    rfl

section

variable {lines : Bool × Bool} (h : Ready lines)

include h

/-- **A transfer with one START.** -/
theorem framed_once {es : List LineEvent} (hes : Unframed es) :
    Framed false (startEvents ++ es ++ stopEvents) lines := by
  obtain ⟨data, hlow⟩ := hes.linesAfter_eq false
  refine framed_of_low ?_ (by rw [linesAfter_append, linesAfter_startEvents, hlow])
  rw [framing_append, framing_startEvents h, linesAfter_startEvents, hes.framing_eq]
  rfl

/-- **A transfer that is begun again.** -/
theorem framed_twice {es fs : List LineEvent} (hes : Unframed es) (hfs : Unframed fs) :
    Framed true (startEvents ++ es ++ startEvents ++ fs ++ stopEvents) lines := by
  obtain ⟨data, hlow⟩ := hes.linesAfter_eq false
  obtain ⟨data', hlow'⟩ := hfs.linesAfter_eq false
  have hready : Ready (false, data) := fun hclock => Bool.noConfusion hclock
  refine framed_of_low ?_
    (by rw [linesAfter_append, linesAfter_append, linesAfter_startEvents, hlow'])
  simp only [framing_append, linesAfter_append, linesAfter_startEvents, hlow,
    framing_startEvents h, framing_startEvents hready, hes.framing_eq, hfs.framing_eq]
  rfl

theorem framed_writtenActs (pointer : UInt8) (vals : List UInt8) :
    Framed false (events (writtenActs pointer vals)) lines := by
  rw [writtenActs, startActs, stopActs, events_append, events_append, events_drive, events_drive]
  exact framed_once h (unframed_sentAllActs _)

theorem framed_refusedActs (front : List UInt8) (b : UInt8) :
    Framed false (events (refusedActs front b)) lines := by
  rw [refusedActs, List.append_assoc startActs, startActs, stopActs]
  simp only [events_append, events_drive]
  exact framed_once h ((unframed_sentAllActs front).append (unframed_sentActs b true))

theorem framed_calledActs (pointer : UInt8) (refused : Bool) (vals : List UInt8) :
    Framed true (events (calledActs pointer refused ++ receivedAllActs vals ++ stopActs))
      lines := by
  rw [calledActs, List.append_assoc _ _ (receivedAllActs vals), startActs, stopActs]
  simp only [events_append, events_drive]
  exact framed_twice h (unframed_sentAllActs _)
    ((unframed_sentActs readSelect refused).append (unframed_receivedAllActs vals))

end

/-! ### Sequences of transfers -/

/-- A transfer of either kind. -/
inductive Burst where
  /-- Bytes to be written from a register on. -/
  | write (pointer : UInt8) (vals : List UInt8)
  /-- A number of bytes to be read from a register on. -/
  | read (pointer : UInt8) (n : Nat)
  deriving DecidableEq, Repr

/-- A transfer is begun again if its first two bytes are acknowledged and something is to be
read. -/
def Burst.again : Burst → (answers : List Bool) → Bool
  | write _ _, _ => false
  | read _ n, answers => n != 0 && answers.take 2 == [false, false]

/-- A transfer is not begun again if one of its first two bytes is refused. -/
theorem again_refusedActs (pointer : UInt8) (n : Nat) {front rest : List UInt8} {b : UInt8}
    (h : [writeSelect, pointer] = front ++ b :: rest) :
    (Burst.read pointer n).again (looks (refusedActs front b)) = false := by
  rw [Burst.again, looks_refusedActs, Bool.and_eq_false_iff]
  right
  have hlen := congrArg List.length h
  simp only [List.length_append, List.length_cons, List.length_nil] at hlen
  rcases Nat.le_one_iff_eq_zero_or_eq_one.mp (show front.length ≤ 1 by omega) with h0 | h1
  · rw [h0]
    rfl
  · rw [h1]
    rfl

namespace Wire

variable {σ : Type} (w : Wire σ)

/-- A transfer, whatever it comes to. -/
def carry : Burst → σ → σ
  | .write pointer vals, s => (w.writeBurst pointer vals s).2
  | .read pointer n, s => (w.readBurst pointer n s).2

/-- Transfers one after the other. -/
def carryAll (bursts : List Burst) (s : σ) : σ := bursts.foldl (fun s burst => w.carry burst s) s

/-- **A transfer is framed, however it ends.** -/
theorem carry_observed (burst : Burst) (s : σ) (before : List WireAct) :
    ∃ t acts, w.observed.carry burst (s, before) = (t, before ++ acts)
      ∧ ∀ lines, Ready lines → Framed (burst.again (looks acts)) (events acts) lines := by
  cases burst with
  | write pointer vals =>
    rcases w.writeBurst_observed pointer vals s before
      with ⟨t, hsent⟩ | ⟨front, b, rest, t, hsplit, hsent⟩
    · exact ⟨t, _, by rw [carry, hsent], fun _ h => framed_writtenActs h pointer vals⟩
    · exact ⟨t, _, by rw [carry, hsent], fun _ h => framed_refusedActs h front b⟩
  | read pointer n =>
    rcases w.readBurst_observed pointer n s before
      with ⟨vals, t, hlen, hread⟩ | ⟨front, b, rest, t, hsplit, hread⟩ | ⟨hn, t, hread⟩
    · refine ⟨t, _, by rw [carry, hread], fun lines h => ?_⟩
      subst hlen
      cases vals with
      -- without anything to read it is a transfer of two bytes
      | nil => exact framed_writtenActs h pointer []
      | cons val vals =>
        simpa [Burst.again, readActs, looks_calledActs]
          using framed_calledActs h pointer false (val :: vals)
    · refine ⟨t, _, by rw [carry, hread], fun lines h => ?_⟩
      rw [again_refusedActs pointer n hsplit]
      exact framed_refusedActs h front b
    · refine ⟨t, _, by rw [carry, hread], fun lines h => ?_⟩
      have hagain : (Burst.read pointer n).again (looks (calledActs pointer true ++ stopActs))
          = true := by simp [Burst.again, looks_calledActs, hn]
      rw [hagain]
      simpa [receivedAllActs] using framed_calledActs h pointer true []

/-- Behind transfers another one can begin. -/
theorem ready_carryAll (bursts : List Burst) (s : σ) {lines : Bool × Bool} {before : List WireAct}
    (h : Ready (linesAfter lines (events before))) :
    Ready (linesAfter lines (events (w.observed.carryAll bursts (s, before)).2)) := by
  induction bursts generalizing s before with
  | nil => exact h
  | cons burst bursts ih =>
    -- the STOP of the first transfer leaves both lines high
    obtain ⟨t, acts, hcarry, hframed⟩ := w.carry_observed burst s before
    rw [carryAll, List.foldl_cons, hcarry]
    refine ih t ?_
    rw [events_append, linesAfter_append, (hframed _ h).lines_high]
    exact fun _ => rfl

/-- **Every transfer is framed, on any wire and behind any others.** -/
theorem carry_framed (s : σ) {lines : Bool × Bool} (h : Ready lines) (earlier : List Burst)
    (burst : Burst) :
    ∃ acts, (w.observed.carryAll (earlier ++ [burst]) (s, [])).2
        = (w.observed.carryAll earlier (s, [])).2 ++ acts
      ∧ Framed (burst.again (looks acts)) (events acts)
        (linesAfter lines (events (w.observed.carryAll earlier (s, [])).2)) := by
  have hready : Ready (linesAfter lines (events (w.observed.carryAll earlier (s, [])).2)) :=
    w.ready_carryAll earlier s h
  obtain ⟨t, acts, hcarry, hframed⟩ := w.carry_observed burst
    (w.observed.carryAll earlier (s, [])).1 (w.observed.carryAll earlier (s, [])).2
  refine ⟨acts, ?_, hframed _ hready⟩
  rw [carryAll, List.foldl_append]
  exact congrArg Prod.snd hcarry

/-- A device that takes a write, and is gone when it is called again to be read. -/
theorem carry_framed_of_silent :
    Ready (true, true) ∧ ∃ acts, (Script.wire.observed.carryAll
        ([.write 1 [7]] ++ [.read 5 2]) (⟨[false, false, false, false, false], 0⟩, [])).2
        = (Script.wire.observed.carryAll [.write 1 [7]]
          (⟨[false, false, false, false, false], 0⟩, [])).2 ++ acts
      ∧ Framed ((Burst.read 5 2).again (looks acts)) (events acts)
        (linesAfter (true, true) (events (Script.wire.observed.carryAll [.write 1 [7]]
          (⟨[false, false, false, false, false], 0⟩, [])).2)) :=
  ⟨fun _ => rfl, carry_framed Script.wire ⟨[false, false, false, false, false], 0⟩
    (fun _ => rfl) [.write 1 [7]] (.read 5 2)⟩

end Wire

end ClockChip
