import ClockChip.Proofs.Byte.Levels
import ClockChip.Wire.Responder

/-!
# What falling clocks do to a responder

Between two framing conditions only the falling clock moves a responder on, and all it looks at is
the level of the data line at that moment.  A stretch of a transfer is therefore a list of levels,
and this module follows a responder through such a list: eight levels are one byte taken in or
given out, and the ninth is its acknowledgement.

Between two bytes a responder is `awaiting` one or `offering` one.  Within a byte the levels that
have passed are kept with it: `Responder.taking r ls` has taken in `ls`, `Responder.giving r ls`
has given out as many bits as `ls` has levels.  Behind the eighth level it is `full`.

## Main definitions

* `Responder.fallOn`, `Responder.falls`: the clock falls on one level, and on a list of them.
* `Responder.awaiting`, `Responder.offering`, `Responder.full`: the ends of a byte.
* `Responder.byteTaken`: what becomes of a complete byte.

## Main results

* `Responder.falls_short`, `Responder.falls_byte`: less than a byte, and a whole byte taken in.
* `Responder.falls_offering`: the same for a byte that is sent.
* `Responder.fallOn_writeChosen` and the lemmas behind it: the ninth level.
-/

namespace ClockChip

/-- The responder takes the levels of a byte in. -/
def Phase.takesIn : Phase → Bool
  | addressing | pointing | receiving => true
  | _ => false

namespace Responder

variable {σ : Type}

/-! ### Runs of falls -/

/-- The lines of the responder when the clock has just fallen while data was at a level. -/
def fallen (r : Responder) (level : Bool) : Responder := { r with clock := false, data := level }

/-- The clock falls while the data line is at a level. -/
def fallOn (f : RegisterMap σ) (level : Bool) (r : Responder) (s : σ) : Responder × σ :=
  fall f (r.fallen level) s

/-- The clock falls on each of a list of levels. -/
def falls (f : RegisterMap σ) : List Bool → Responder → σ → Responder × σ
  | [], r, s => (r, s)
  | level :: ls, r, s => falls f ls (fallOn f level r s).1 (fallOn f level r s).2

@[simp] theorem falls_nil (f : RegisterMap σ) (r : Responder) (s : σ) :
    falls f [] r s = (r, s) := rfl

@[simp] theorem falls_cons (f : RegisterMap σ) (level : Bool) (ls : List Bool) (r : Responder)
    (s : σ) :
    falls f (level :: ls) r s = falls f ls (fallOn f level r s).1 (fallOn f level r s).2 := rfl

theorem falls_append (f : RegisterMap σ) (ls ms : List Bool) (r : Responder) (s : σ) :
    falls f (ls ++ ms) r s = falls f ms (falls f ls r s).1 (falls f ls r s).2 := by
  induction ls generalizing r s with
  | nil => rfl
  | cons level ls ih => exact ih _ _

/-- Fewer than eight levels, each of which just moves the responder on to its next position. -/
theorem falls_of_step {f : RegisterMap σ} {s : σ} (position : List Bool → Responder)
    (hstep : ∀ ls level, ls.length < 7 →
      fallOn f level (position ls) s = (position (ls ++ [level]), s))
    (ms ls : List Bool) (h : (ls ++ ms).length < 8) :
    falls f ms (position ls) s = (position (ls ++ ms), s) := by
  induction ms generalizing ls with
  | nil => simp
  | cons level ms ih =>
    have hlen : ls.length + (ms.length + 1) < 8 := by simpa using h
    rw [falls_cons, hstep ls level (by omega), ih _ (by simpa using h), List.append_assoc,
      List.singleton_append]

/-- Eight levels, the last of which has an outcome of its own. -/
theorem falls_of_step_eighth {f : RegisterMap σ} {s : σ} (position : List Bool → Responder)
    (outcome : List Bool → Responder × σ)
    (hstep : ∀ ls level, ls.length < 7 →
      fallOn f level (position ls) s = (position (ls ++ [level]), s))
    (hlast : ∀ ls level, ls.length = 7 →
      fallOn f level (position ls) s = outcome (ls ++ [level]))
    {ls : List Bool} (h : ls.length = 8) : falls f ls (position []) s = outcome ls := by
  obtain ⟨init, level, rfl⟩ : ∃ init level, ls = init ++ [level] :=
    ⟨_, _, (List.dropLast_concat_getLast (List.ne_nil_of_length_eq_add_one h)).symm⟩
  have hinit : init.length = 7 := by simpa using h
  have hstart : falls f init (position []) s = (position init, s) :=
    falls_of_step position hstep init [] (by simp [hinit])
  rw [falls_append, hstart, falls_cons, falls_nil, hlast init level hinit]

/-! ### The ends of a byte -/

/-- The responder before a byte that it is to take in. -/
def awaiting (phase : Phase) (data : Bool) (pointer : Nat) : Responder :=
  ⟨false, data, phase, 0, 0, pointer⟩

/-- The responder before a byte that it is to send. -/
def offering (val : UInt8) (data : Bool) (pointer : Nat) : Responder :=
  ⟨false, data, .sending, 0, val, pointer⟩

/-- The responder behind the eighth level of a byte. -/
def full (phase : Phase) (val : UInt8) (data : Bool) (pointer : Nat) : Responder :=
  ⟨false, data, phase, 8, val, pointer⟩

/-- A byte is complete behind its eighth level, and not before. -/
theorem complete_concat {r : Responder} {ls : List Bool} (h : ls.length < 8) {level : Bool}
    (hr : r.bit = UInt8.ofNat (ls ++ [level]).length) : r.complete = decide (ls.length = 7) := by
  have all : ∀ n < 8, (UInt8.ofNat (n + 1) == 8) = decide (n = 7) := by decide
  simpa [complete, hr] using all _ h

/-! ### A byte taken in -/

/-- The responder with the levels `ls` of a byte taken in; the clock is low. -/
def taking (r : Responder) (ls : List Bool) : Responder :=
  { r with clock := false, data := ls.getLastD r.data, bit := UInt8.ofNat ls.length,
           shift := Byte.filled ls }

theorem taking_full (phase : Phase) (data : Bool) (pointer : Nat) {ls : List Bool}
    (h : ls.length = 8) : (awaiting phase data pointer).taking ls
      = full phase (Byte.ofLevels ls) (ls.getLastD data) pointer := by
  rw [taking, h, Byte.filled_eq_ofLevels h]
  rfl

/-- What a responder does with a byte that it has taken in. -/
def byteTaken (f : RegisterMap σ) (r : Responder) (s : σ) : Responder × σ :=
  match r.phase with
  | .addressing => ({ r with phase := choose r.shift }, s)
  | .pointing => ({ r with pointer := r.shift.toNat % f.count, phase := .pointed }, s)
  | .receiving => ({ r.advance f.count with phase := .received }, f.write s r.pointer r.shift)
  | _ => (r, s)

/-- In the phases that take a byte in, a fall is one more bit, and the last of them hands the byte
over. -/
theorem fall_of_takesIn {r : Responder} (h : r.phase.takesIn = true) (f : RegisterMap σ) (s : σ) :
    fall f r s = if r.takeBit.complete then byteTaken f r.takeBit s else (r.takeBit, s) := by
  have hphase : r.takeBit.phase = r.phase := rfl
  cases hp : r.phase <;> simp [hp, Phase.takesIn] at h <;>
    simp only [fall, byteTaken, hphase, hp] <;> split <;> rfl

theorem takeBit_taking (r : Responder) {ls : List Bool} (h : ls.length < 8) (level : Bool) :
    ((r.taking ls).fallen level).takeBit = r.taking (ls ++ [level]) := by
  simp only [takeBit, taking, fallen, Byte.filled_concat h, List.length_append,
    List.length_singleton, UInt8.ofNat_add, List.getLastD_concat]
  rfl

theorem fallOn_taking {r : Responder} (hr : r.phase.takesIn = true) (f : RegisterMap σ) (s : σ)
    {ls : List Bool} (h : ls.length < 8) (level : Bool) :
    fallOn f level (r.taking ls) s =
      if ls.length = 7 then byteTaken f (r.taking (ls ++ [level])) s
      else (r.taking (ls ++ [level]), s) := by
  have hcomplete : (r.taking (ls ++ [level])).complete = decide (ls.length = 7) :=
    complete_concat h rfl
  rw [fallOn, fall_of_takesIn (by exact hr), takeBit_taking r h, hcomplete]
  by_cases h7 : ls.length = 7 <;> simp [h7]

variable {phase : Phase}

theorem falls_short (hphase : phase.takesIn = true) (f : RegisterMap σ) (data : Bool)
    (pointer : Nat) (s : σ) {ls : List Bool} (h : ls.length < 8) :
    falls f ls (awaiting phase data pointer) s
      = ((awaiting phase data pointer).taking ls, s) := by
  refine falls_of_step (awaiting phase data pointer).taking ?_ ls [] h
  intro ls level hlen
  rw [fallOn_taking hphase f s (by omega), if_neg (by omega)]

/-- **Eight levels are a byte, which is handed over.** -/
theorem falls_byte (hphase : phase.takesIn = true) (f : RegisterMap σ) (data : Bool)
    (pointer : Nat) (s : σ) {ls : List Bool} (h : ls.length = 8) :
    falls f ls (awaiting phase data pointer) s
      = byteTaken f (full phase (Byte.ofLevels ls) (ls.getLastD data) pointer) s := by
  rw [← taking_full phase data pointer h]
  refine falls_of_step_eighth (awaiting phase data pointer).taking
    (fun ls => byteTaken f ((awaiting phase data pointer).taking ls) s) ?_ ?_ h
  · intro ls level hlen
    rw [fallOn_taking hphase f s (by omega), if_neg (by omega)]
  · intro ls level hlen
    rw [fallOn_taking hphase f s (by omega), if_pos hlen]

section

variable (f : RegisterMap σ) (data : Bool) (pointer : Nat) (s : σ) {ls : List Bool}

theorem falls_addressing (h : ls.length = 8) :
    falls f ls (awaiting .addressing data pointer) s
      = (full (choose (Byte.ofLevels ls)) (Byte.ofLevels ls) (ls.getLastD data) pointer, s) :=
  falls_byte rfl f data pointer s h

theorem falls_pointing (h : ls.length = 8) :
    falls f ls (awaiting .pointing data pointer) s
      = (full .pointed (Byte.ofLevels ls) (ls.getLastD data)
          ((Byte.ofLevels ls).toNat % f.count), s) :=
  falls_byte rfl f data pointer s h

theorem falls_receiving (h : ls.length = 8) :
    falls f ls (awaiting .receiving data pointer) s
      = (full .received (Byte.ofLevels ls) (ls.getLastD data) ((pointer + 1) % f.count),
          f.write s pointer (Byte.ofLevels ls)) :=
  falls_byte rfl f data pointer s h

end

/-! ### A byte given out -/

/-- The responder with as many bits of its byte given out as `ls` has levels; the clock is low. -/
def giving (r : Responder) (ls : List Bool) : Responder :=
  { r with clock := false, data := ls.getLastD r.data, bit := UInt8.ofNat ls.length }

def passBit (r : Responder) : Responder := { r with bit := r.bit + 1 }

/-- While a byte is sent, a fall is one more bit, and behind the last the responder waits. -/
theorem fall_of_sending {r : Responder} (h : r.phase = .sending) (f : RegisterMap σ) (s : σ) :
    fall f r s
      = (if r.passBit.complete then { r.passBit with phase := .sent } else r.passBit, s) := by
  simp only [fall, h, passBit]

theorem passBit_giving (r : Responder) (ls : List Bool) (level : Bool) :
    ((r.giving ls).fallen level).passBit = r.giving (ls ++ [level]) := by
  simp only [passBit, giving, fallen, List.length_append, List.length_singleton, UInt8.ofNat_add,
    List.getLastD_concat]
  rfl

theorem fallOn_giving {r : Responder} (hr : r.phase = .sending) (f : RegisterMap σ) (s : σ)
    {ls : List Bool} (h : ls.length < 8) (level : Bool) :
    fallOn f level (r.giving ls) s =
      (if ls.length = 7 then { r.giving (ls ++ [level]) with phase := .sent }
       else r.giving (ls ++ [level]), s) := by
  have hcomplete : (r.giving (ls ++ [level])).complete = decide (ls.length = 7) :=
    complete_concat h rfl
  rw [fallOn, fall_of_sending (by exact hr), passBit_giving, hcomplete]
  by_cases h7 : ls.length = 7 <;> simp [h7]

section

variable (f : RegisterMap σ) (val : UInt8) (data : Bool) (pointer : Nat) (s : σ) {ls : List Bool}

theorem falls_giving (h : ls.length < 8) :
    falls f ls (offering val data pointer) s = ((offering val data pointer).giving ls, s) := by
  refine falls_of_step (offering val data pointer).giving ?_ ls [] h
  intro ls level hlen
  rw [fallOn_giving rfl f s (by omega), if_neg (by omega)]

/-- Behind the eighth bit the responder waits for the acknowledgement. -/
theorem falls_offering (h : ls.length = 8) :
    falls f ls (offering val data pointer) s
      = (full .sent val (ls.getLastD data) pointer, s) := by
  have hsent : falls f ls (offering val data pointer) s
      = ({ (offering val data pointer).giving ls with phase := .sent }, s) := by
    refine falls_of_step_eighth (offering val data pointer).giving
      (fun ls => ({ (offering val data pointer).giving ls with phase := .sent }, s)) ?_ ?_ h
    · intro ls level hlen
      rw [fallOn_giving rfl f s (by omega), if_neg (by omega)]
    · intro ls level hlen
      rw [fallOn_giving rfl f s (by omega), if_pos hlen]
  rw [hsent, giving, h]
  rfl

end

/-! ### The ninth level -/

theorem fallOn_idle {r : Responder} (h : r.phase = .idle) (f : RegisterMap σ) (s : σ)
    (level : Bool) : fallOn f level r s = (r.fallen level, s) := by
  rw [fallOn, fall, show (r.fallen level).phase = .idle from h]

section

variable (f : RegisterMap σ) (level : Bool) (val : UInt8) (data : Bool) (pointer : Nat) (s : σ)

theorem fallOn_writeChosen :
    fallOn f level (full .writeChosen val data pointer) s
      = (awaiting .pointing level pointer, s) := rfl

theorem fallOn_readChosen :
    fallOn f level (full .readChosen val data pointer) s
      = (offering (f.read s pointer).1 level pointer, (f.read s pointer).2) := rfl

theorem fallOn_pointed :
    fallOn f level (full .pointed val data pointer) s
      = (awaiting .receiving level pointer, s) := rfl

theorem fallOn_received :
    fallOn f level (full .received val data pointer) s
      = (awaiting .receiving level pointer, s) := rfl

theorem fallOn_sent_low :
    fallOn f false (full .sent val data pointer) s
      = (offering (f.read s ((pointer + 1) % f.count)).1 false ((pointer + 1) % f.count),
          (f.read s ((pointer + 1) % f.count)).2) := rfl

theorem fallOn_sent_high :
    fallOn f true (full .sent val data pointer) s = (full .idle val true pointer, s) := rfl

end

/-! ### Line events

Of the two settings of the clock line only its fall is more than a new level, and of the two
settings of the data line only those while the clock is high. -/

variable {r : Responder} {level : Bool}

theorem step_clock_quiet (h : (r.clock && !level) = false) (f : RegisterMap σ) (s : σ) :
    step f (.clock level) r s = ({ r with clock := level }, s) := by
  cases r; cases level <;> simp_all [step, onClock]

theorem step_clock_fall (h : (r.clock && !level) = true) (f : RegisterMap σ) (s : σ) :
    step f (.clock level) r s = fallOn f r.data r s := by
  cases r; cases level <;> simp_all [step, onClock, fallOn, fallen]

/-- A clock pulse: nothing happens until it falls. -/
theorem run_pulse (f : RegisterMap σ) (r : Responder) (s : σ) :
    run f [.clock true, .clock false] r s = fallOn f r.data r s := by
  rw [run_cons, step_clock_quiet (by simp), run_cons, step_clock_fall rfl]
  rfl

/-- The responder behind a START. -/
def begun (r : Responder) : Responder := { r.clear with data := false, phase := .started }

/-- The responder behind a STOP. -/
def ended (r : Responder) : Responder := { r with data := true, phase := .idle }

theorem step_data_start (h : (r.clock && r.data && !level) = true) (f : RegisterMap σ) (s : σ) :
    step f (.data level) r s = (r.begun, f.onStart s) := by
  cases level <;> simp_all [step, onData, begun]

theorem step_data_stop (h : (r.clock && !r.data && level) = true) (f : RegisterMap σ) (s : σ) :
    step f (.data level) r s = (r.ended, s) := by
  cases level <;> simp_all [step, onData, ended]

theorem step_data_quiet (hstart : (r.clock && r.data && !level) = false)
    (hstop : (r.clock && !r.data && level) = false) (f : RegisterMap σ) (s : σ) :
    step f (.data level) r s = ({ r with data := level }, s) := by
  obtain ⟨clock, data, phase, bit, shift, pointer⟩ := r
  cases level <;> cases data <;> simp_all [step, onData]

/-- The first fall behind a START leads to the address. -/
theorem fallOn_begun (f : RegisterMap σ) (level : Bool) (r : Responder) (s : σ) :
    fallOn f level r.begun s = (awaiting .addressing level r.pointer, s) := rfl

theorem fall_lines (f : RegisterMap σ) (r : Responder) (s : σ) :
    (fall f r s).1.clock = r.clock ∧ (fall f r s).1.data = r.data := by
  cases hp : r.phase <;> simp only [fall, hp, takeBit, advance, load, clear, and_self]
  all_goals split <;> simp

end Responder

end ClockChip
