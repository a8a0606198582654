import ClockChip.Proofs.Wire.Call
import ClockChip.Proofs.Wire.Fall

/-!
# Line events read byte by byte

A responder works edge by edge, with a phase, a bit count and a shift register.  What it does can
be read off the line events without any of these: find the STARTs and STOPs, take the data levels
at the falling clock in between, group them in nines, and read each group as a byte and its
acknowledgement.  This module defines that reading and shows that a responder follows it.

## Main definitions

* `Signal`, `signals`: STARTs, STOPs and falls of the clock in a list of line events.
* `transfers`: the levels of each transfer, from behind its START to the next START or STOP.
* `frames`, `bytes`, `acknowledgements`: the groups of nine, and what is read in them.
* `Reading`: the calls of a responder and the pointer it is left with.
* `Reading.ofTransfer`, `Reading.ofEvents`: the reading of one transfer, and of line events.

## Main results

* `Responder.falls_ofTransfer`: a responder follows the reading of one transfer.
* `Responder.run_signals`: a run falls into the levels ahead and the transfers behind them.
* `Responder.run_eq_reading`: **the calls of a responder and its pointer are those of the reading.**
-/

namespace ClockChip

/-! ### Signals -/

/-- What a two-wire line shows. -/
inductive Signal where
  /-- Data falls while the clock is high. -/
  | start
  /-- Data rises while the clock is high. -/
  | stop
  /-- The clock falls while data is at a level. -/
  | fall (level : Bool)
  deriving DecidableEq, Repr

/-- The signals of a list of line events, from given levels of the clock and data lines on. -/
def signals : (clock data : Bool) → List LineEvent → List Signal
  | _, _, [] => []
  | clock, data, .clock level :: es =>
    if clock && !level then .fall data :: signals level data es else signals level data es
  | clock, data, .data level :: es =>
    if clock && data && !level then .start :: signals clock level es
    else if clock && !data && level then .stop :: signals clock level es
    else signals clock level es

/-- The levels at the falls before the next START or STOP. -/
def levelsAhead : List Signal → List Bool
  | .fall level :: ss => level :: levelsAhead ss
  | _ => []

/-- The levels of each transfer.  The first fall behind a START only ends the START. -/
def transfers : List Signal → List (List Bool)
  | [] => []
  | .start :: ss => (levelsAhead ss).drop 1 :: transfers ss
  | _ :: ss => transfers ss

/-! ### Frames -/

/-- Levels in groups of nine; the last group may be shorter. -/
def frames (ls : List Bool) : List (List Bool) :=
  if ls = [] then [] else ls.take 9 :: frames (ls.drop 9)
termination_by ls.length
decreasing_by
  have := List.length_pos_iff.mpr ‹ls ≠ []›
  simp only [List.length_drop]; omega

/-- The byte of a frame, if all its bits are there. -/
def frameByte? (frame : List Bool) : Option UInt8 :=
  if 8 ≤ frame.length then some (Byte.ofLevels (frame.take 8)) else none

/-- The complete bytes of a transfer. -/
def bytes (ls : List Bool) : List UInt8 := (frames ls).filterMap frameByte?

/-- The levels at the acknowledgements of a transfer. -/
def acknowledgements (ls : List Bool) : List Bool := (frames ls).filterMap fun frame => frame[8]?

/-- What a responder asks of its registers, and the pointer it is left with. -/
structure Reading where
  /-- The calls of the registers, in order. -/
  calls : List Call
  /-- The pointer behind them. -/
  pointer : Nat
  deriving DecidableEq, Repr

namespace Reading

/-- Calls in front of a reading. -/
def behind (cs : List Call) (r : Reading) : Reading := { r with calls := cs ++ r.calls }

/-- Bytes stored from a register on, with the pointer wrapping around behind the last of `n`. -/
def ofWrites (n : Nat) : (pointer : Nat) → List UInt8 → Reading
  | pointer, [] => ⟨[], pointer⟩
  | pointer, val :: vals => behind [.write pointer val] (ofWrites n ((pointer + 1) % n) vals)

/-- Bytes read as long as they are acknowledged: a low level asks for the next register, a high
one for nothing more. -/
def ofReads (n : Nat) : (pointer : Nat) → (acks : List Bool) → Reading
  | pointer, [] => ⟨[], pointer⟩
  | pointer, true :: _ => ⟨[], pointer⟩
  | pointer, false :: acks =>
    behind [.read ((pointer + 1) % n)] (ofReads n ((pointer + 1) % n) acks)

/-- The bytes behind the address of a write transfer: the register pointer, and what is stored. -/
def ofStored (n pointer : Nat) : List UInt8 → Reading
  | [] => ⟨[], pointer⟩
  | register :: vals => ofWrites n (register.toNat % n) vals

/-- The acknowledgements of a read transfer: the first is that of the address. -/
def ofFetched (n pointer : Nat) : List Bool → Reading
  | [] => ⟨[], pointer⟩
  | _ :: acks => behind [.read pointer] (ofReads n pointer acks)

/-- The reading of one transfer in front of `n` registers. -/
def ofTransfer (n pointer : Nat) (ls : List Bool) : Reading :=
  match bytes ls with
  | [] => ⟨[], pointer⟩
  | address :: vals =>
    if address = writeSelect then ofStored n pointer vals
    else if address = readSelect then ofFetched n pointer (acknowledgements ls)
    else ⟨[], pointer⟩

/-- The reading of transfers one after the other. -/
def ofTransfers (n : Nat) : (pointer : Nat) → List (List Bool) → Reading
  | pointer, [] => ⟨[], pointer⟩
  | pointer, ls :: lss =>
    let first := ofTransfer n pointer ls
    behind (.start :: first.calls) (ofTransfers n first.pointer lss)

/-- The reading of line events on lines that were released before, with the pointer at the first
of `n` registers. -/
def ofEvents (n : Nat) (es : List LineEvent) : Reading :=
  ofTransfers n 0 (transfers (signals true true es))

@[simp] theorem calls_behind (cs : List Call) (r : Reading) :
    (behind cs r).calls = cs ++ r.calls := rfl

end Reading

/-! ### Bytes and acknowledgements of frames -/

/-- Induction by frames: less than a byte, a byte without an acknowledgement, and a whole frame in
front of other levels. -/
@[elab_as_elim]
theorem frames_induction {P : List Bool → Prop} (short : ∀ ls, ls.length < 8 → P ls)
    (byte : ∀ ls, ls.length = 8 → P ls)
    (frame : ∀ eight ack rest, eight.length = 8 → P rest → P (eight ++ ack :: rest))
    (ls : List Bool) : P ls := by
  induction hn : ls.length using Nat.strongRecOn generalizing ls with
  | ind n ih =>
    rcases Nat.lt_trichotomy ls.length 8 with h | h | h
    · exact short ls h
    · exact byte ls h
    · have hsplit : ls = ls.take 8 ++ ls[8] :: ls.drop 9 := by
        rw [← List.drop_eq_getElem_cons h, List.take_append_drop]
      rw [hsplit]
      exact frame _ _ _ (by simp; omega) (ih (ls.drop 9).length (by simp; omega) _ rfl)

theorem frames_of_length_le {ls : List Bool} (hne : ls ≠ []) (h : ls.length ≤ 9) :
    frames ls = [ls] := by
  rw [frames, if_neg hne, List.take_of_length_le h, List.drop_of_length_le h, frames, if_pos rfl]

theorem frames_append {eight : List Bool} (h : eight.length = 8) (ack : Bool) (rest : List Bool) :
    frames (eight ++ ack :: rest) = (eight ++ [ack]) :: frames rest := by
  have hsplit : eight ++ ack :: rest = (eight ++ [ack]) ++ rest := by simp
  have hlen : (eight ++ [ack]).length = 9 := by simp [h]
  rw [hsplit, frames, if_neg (by simp), ← hlen, List.take_left, List.drop_left]

theorem frameByte?_append {eight : List Bool} (h : eight.length = 8) (rest : List Bool) :
    frameByte? (eight ++ rest) = some (Byte.ofLevels eight) := by
  have htake : (eight ++ rest).take 8 = eight := by rw [← h, List.take_left]
  rw [frameByte?, if_pos (by simp [h]), htake]

theorem bytes_short {ls : List Bool} (h : ls.length < 8) : bytes ls = [] := by
  by_cases hne : ls = []
  · subst hne; simp [bytes, frames]
  · simp [bytes, frames_of_length_le hne (by omega), frameByte?, h]

theorem bytes_byte {ls : List Bool} (h : ls.length = 8) : bytes ls = [Byte.ofLevels ls] := by
  have hne : ls ≠ [] := List.ne_nil_of_length_eq_add_one h
  have hbyte : frameByte? ls = some (Byte.ofLevels ls) := by simpa using frameByte?_append h []
  simp [bytes, frames_of_length_le hne (by omega), hbyte]

theorem bytes_frame {eight : List Bool} (h : eight.length = 8) (ack : Bool) (rest : List Bool) :
    bytes (eight ++ ack :: rest) = Byte.ofLevels eight :: bytes rest := by
  simp [bytes, frames_append h, frameByte?_append h]

theorem acknowledgements_short {ls : List Bool} (h : ls.length < 9) : acknowledgements ls = [] := by
  by_cases hne : ls = []
  · subst hne; simp [acknowledgements, frames]
  · have hget : ls[8]? = none := List.getElem?_eq_none (by omega)
    simp [acknowledgements, frames_of_length_le hne (by omega), hget]

theorem acknowledgements_frame {eight : List Bool} (h : eight.length = 8) (ack : Bool)
    (rest : List Bool) :
    acknowledgements (eight ++ ack :: rest) = ack :: acknowledgements rest := by
  have hget : (eight ++ [ack])[8]? = some ack := by
    rw [← h, List.getElem?_append_right (Nat.le_refl _)]; simp
  simp [acknowledgements, frames_append h, hget]

/-! ### Following a reading -/

namespace Responder

variable {σ : Type}

/-- The outcome of a run that started in front of registers `s` is that of a reading. -/
structure Follows (f : RegisterMap σ) (s : σ) (out : Responder × σ) (r : Reading) : Prop where
  pointer : out.1.pointer = r.pointer
  registers : out.2 = f.perform r.calls s

theorem follows_nil {f : RegisterMap σ} {s : σ} {out : Responder × σ} {p : Nat}
    (hp : out.1.pointer = p) (hs : out.2 = s) : Follows f s out ⟨[], p⟩ := ⟨hp, hs⟩

/-- Calls that were already made are in front of those that follow. -/
theorem Follows.behind {f : RegisterMap σ} {s : σ} {out : Responder × σ} {r : Reading}
    (cs : List Call) (h : Follows f (f.perform cs s) out r) : Follows f s out (r.behind cs) :=
  ⟨h.pointer, by rw [h.registers, Reading.calls_behind, RegisterMap.perform_append]⟩

theorem falls_idle (f : RegisterMap σ) (s : σ) (ls : List Bool) {r : Responder}
    (hr : r.phase = .idle) : Follows f s (falls f ls r s) ⟨[], r.pointer⟩ := by
  induction ls generalizing r with
  | nil => exact follows_nil rfl rfl
  | cons level ls ih =>
    rw [falls_cons, fallOn_idle hr]
    exact ih (r := r.fallen level) hr

theorem falls_ofWrites (f : RegisterMap σ) (ls : List Bool) (data : Bool) (pointer : Nat) (s : σ) :
    Follows f s (falls f ls (awaiting .receiving data pointer) s)
      (.ofWrites f.count pointer (bytes ls)) := by
  induction ls using frames_induction generalizing data pointer s with
  | short ls h =>
    rw [falls_short rfl f data pointer s h, bytes_short h]
    exact follows_nil rfl rfl
  | byte ls h =>
    rw [falls_receiving f data pointer s h, bytes_byte h]
    exact .behind [.write pointer (Byte.ofLevels ls)] (follows_nil rfl rfl)
  | frame eight ack rest h ih =>
    rw [falls_append, falls_receiving f data pointer s h, falls_cons, fallOn_received,
      bytes_frame h]
    exact .behind [.write pointer (Byte.ofLevels eight)] (ih ack _ _)

theorem falls_ofReads (f : RegisterMap σ) (ls : List Bool) (val : UInt8) (data : Bool)
    (pointer : Nat) (s : σ) :
    Follows f s (falls f ls (offering val data pointer) s)
      (.ofReads f.count pointer (acknowledgements ls)) := by
  induction ls using frames_induction generalizing val data pointer s with
  | short ls h =>
    rw [falls_giving f val data pointer s h, acknowledgements_short (by omega)]
    exact follows_nil rfl rfl
  | byte ls h =>
    rw [falls_offering f val data pointer s h, acknowledgements_short (by omega)]
    exact follows_nil rfl rfl
  | frame eight ack rest h ih =>
    rw [falls_append, falls_offering f val data pointer s h, falls_cons, acknowledgements_frame h]
    cases ack with
    | false =>
      rw [fallOn_sent_low]
      exact .behind [.read ((pointer + 1) % f.count)] (ih _ _ _ _)
    | true =>
      rw [fallOn_sent_high]
      exact falls_idle f s rest rfl

theorem falls_ofStored (f : RegisterMap σ) (ls : List Bool) (data : Bool) (pointer : Nat) (s : σ) :
    Follows f s (falls f ls (awaiting .pointing data pointer) s)
      (.ofStored f.count pointer (bytes ls)) := by
  cases ls using frames_induction with
  | short ls h =>
    rw [falls_short rfl f data pointer s h, bytes_short h]
    exact follows_nil rfl rfl
  | byte ls h =>
    rw [falls_pointing f data pointer s h, bytes_byte h]
    exact follows_nil rfl rfl
  | frame eight ack rest h =>
    rw [falls_append, falls_pointing f data pointer s h, falls_cons, fallOn_pointed, bytes_frame h]
    exact falls_ofWrites f rest ack _ s

/-- **A transfer is followed as it is read**, from the first level of its address on. -/
theorem falls_ofTransfer (f : RegisterMap σ) (ls : List Bool) (data : Bool) (pointer : Nat)
    (s : σ) : Follows f s (falls f ls (awaiting .addressing data pointer) s)
      (.ofTransfer f.count pointer ls) := by
  cases ls using frames_induction with
  | short ls h =>
    rw [falls_short rfl f data pointer s h, Reading.ofTransfer, bytes_short h]
    exact follows_nil rfl rfl
  | byte ls h =>
    rw [falls_addressing f data pointer s h, Reading.ofTransfer, bytes_byte h,
      acknowledgements_short (by omega)]
    dsimp only
    -- whatever the address is, nothing is done before it is acknowledged
    split
    · exact follows_nil rfl rfl
    · split
      · exact follows_nil rfl rfl
      · exact follows_nil rfl rfl
  | frame eight ack rest h =>
    rw [falls_append, falls_addressing f data pointer s h, falls_cons, Reading.ofTransfer,
      bytes_frame h, acknowledgements_frame h]
    dsimp only [choose]
    split
    · rw [fallOn_writeChosen]
      exact falls_ofStored f rest ack pointer s
    · split
      · rw [fallOn_readChosen]
        exact .behind [.read pointer] (falls_ofReads f rest _ ack pointer _)
      · rw [fallOn_idle rfl]
        exact falls_idle f s rest rfl

/-- The first level behind a START ends the START; the transfer follows it. -/
theorem falls_begun (f : RegisterMap σ) (ls : List Bool) (r : Responder) (s : σ) :
    Follows f s (falls f ls r.begun s) (.ofTransfer f.count r.pointer (ls.drop 1)) := by
  cases ls with
  | nil =>
    rw [falls_nil, List.drop_nil, Reading.ofTransfer, bytes_short (by decide)]
    exact follows_nil rfl rfl
  | cons level ls =>
    rw [falls_cons, fallOn_begun, List.drop_one, List.tail_cons]
    exact falls_ofTransfer f ls level r.pointer s

/-- The lines before the first of a list of falls do not matter. -/
theorem falls_lines (f : RegisterMap σ) (s : σ) (ls : List Bool) (r : Responder)
    (clock data : Bool) :
    (falls f ls { r with clock := clock, data := data } s).1.pointer = (falls f ls r s).1.pointer
      ∧ (falls f ls { r with clock := clock, data := data } s).2 = (falls f ls r s).2 := by
  cases ls <;> exact ⟨rfl, rfl⟩

/-- A run first goes through the levels up to the next START or STOP, whatever transfer they belong
to, and then through the transfers behind it. -/
theorem run_signals (f : RegisterMap σ) (es : List LineEvent) (r : Responder) (s : σ)
    {clock data : Bool} (hclock : r.clock = clock) (hdata : r.data = data) :
    Follows f (falls f (levelsAhead (signals clock data es)) r s).2 (run f es r s)
      (.ofTransfers f.count (falls f (levelsAhead (signals clock data es)) r s).1.pointer
        (transfers (signals clock data es))) := by
  induction es generalizing r s clock data with
  | nil => exact follows_nil rfl rfl
  | cons e es ih =>
    rw [run_cons]
    cases e with
    | clock level =>
      rw [signals]
      cases hfall : clock && !level with
      | true =>
        obtain ⟨hc, hd⟩ := fall_lines f (r.fallen r.data) s
        have hlevel : false = level := by simpa using ((Bool.and_eq_true_iff.mp hfall).2).symm
        rw [step_clock_fall (by rw [hclock, hfall]), if_pos rfl, ← hdata]
        exact ih _ _ (hc.trans hlevel) hd
      | false =>
        rw [step_clock_quiet (by rw [hclock, hfall]), if_neg (by simp)]
        obtain ⟨hp, hs⟩ := falls_lines f s (levelsAhead (signals level data es)) r level r.data
        rw [← hp, ← hs]
        exact ih _ s rfl hdata
    | data level =>
      rw [signals]
      cases hstart : clock && data && !level with
      | true =>
        have hlevel : false = level := by simpa using ((Bool.and_eq_true_iff.mp hstart).2).symm
        rw [step_data_start (by rw [hclock, hdata, hstart]), if_pos rfl]
        -- the transfer behind this START is over where the next one begins
        obtain ⟨hp, hs⟩ := falls_begun f (levelsAhead (signals clock level es)) r (f.onStart s)
        have h := ih r.begun (f.onStart s) hclock hlevel
        rw [hp, hs] at h
        exact .behind (.start :: _) h
      | false =>
        rw [if_neg (by simp)]
        cases hstop : clock && !data && level with
        | true =>
          have hlevel : true = level := ((Bool.and_eq_true_iff.mp hstop).2).symm
          rw [step_data_stop (by rw [hclock, hdata, hstop]), if_pos rfl]
          obtain ⟨hp, hs⟩ :=
            falls_idle f s (levelsAhead (signals clock level es)) (r := r.ended) rfl
          have h := ih r.ended s hclock hlevel
          rw [hp, hs] at h
          exact h
        | false =>
          rw [step_data_quiet (by rw [hclock, hdata, hstart]) (by rw [hclock, hdata, hstop]),
            if_neg (by simp)]
          obtain ⟨hp, hs⟩ := falls_lines f s (levelsAhead (signals clock level es)) r r.clock level
          rw [← hp, ← hs]
          exact ih _ s hclock rfl

/-- From released lines on, the levels before the first START belong to no transfer. -/
theorem run_follows (f : RegisterMap σ) (es : List LineEvent) (s : σ) :
    Follows f s (run f es released s) (.ofEvents f.count es) := by
  have hclock : released.clock = true := rfl
  have hdata : released.data = true := rfl
  obtain ⟨hp, hs⟩ := falls_idle f s (levelsAhead (signals true true es)) (r := released) rfl
  have h := run_signals f es released s hclock hdata
  rw [hp, hs] at h
  exact h

/-- **A responder makes the calls of the byte-level reading and is left with its pointer.**  This
holds in front of any registers and for any list of line events, whichever bytes are cut short and
wherever STARTs and STOPs are repeated. -/
theorem run_eq_reading (f : RegisterMap σ) (es : List LineEvent) (s : σ) :
    (run f es released s).1.pointer = (Reading.ofEvents f.count es).pointer
      ∧ (run f.recorded es released (s, [])).2
          = ((run f es released s).2, (Reading.ofEvents f.count es).calls) := by
  obtain ⟨hpointer, hregisters⟩ := run_follows f es s
  have hrecorded := (run_follows f.recorded es (s, [])).registers
  rw [RegisterMap.perform_recorded, RegisterMap.count_recorded, List.nil_append,
    ← hregisters] at hrecorded
  exact ⟨hpointer, hrecorded⟩

end Responder

end ClockChip
