import ClockChip.Proofs.Wire.Agreement

/-!
# Transfers for another device

Several devices share the two lines, and each of them sees every transfer.  A responder that is idle
is drawn into a transfer by its START and follows the first byte.  If that byte is cut short, or is
the address of another device, the responder is idle again behind it; until then it has taken no
part in the transfer.  It has left the data line alone, its pointer has not moved, and it has asked
nothing of its registers but to note the START.

Whether a responder will take part depends on what is still to come.  The invariant therefore looks
at the signals ahead as well as at the responder.

## Main definitions

* `Foreign`: a transfer whose first byte is not one of the responder's addresses.
* `Responder.Aloof`: a responder that takes no part in a transfer, with certain signals ahead.

## Main results

* `Responder.fallOn_aloof`, `Responder.step_aloof`: **along foreign transfers a responder stays
  aloof**, one falling clock and one event at a time.
* `Responder.step_idle`: before the first START nothing happens at all.
-/

namespace ClockChip

/-- A transfer whose first byte is cut short or is no address of the responder. -/
def Foreign (ls : List Bool) : Prop :=
  ∀ address ∈ frameByte? ls, address ≠ writeSelect ∧ address ≠ readSelect

instance (ls : List Bool) : Decidable (Foreign ls) :=
  inferInstanceAs (Decidable (∀ address ∈ frameByte? ls, _))

/-- A foreign address is complete with its eighth level, whatever follows. -/
theorem Foreign.choose_eq_idle {eight rest : List Bool} (h : Foreign (eight ++ rest))
    (hlen : eight.length = 8) : Responder.choose (Byte.ofLevels eight) = .idle := by
  have haddress : Byte.ofLevels eight ∈ frameByte? (eight ++ rest) := frameByte?_append hlen rest
  obtain ⟨hwrite, hread⟩ := h _ haddress
  rw [Responder.choose, if_neg hwrite, if_neg hread]

namespace Responder

variable {σ : Type}

/-- A responder that takes no part in a transfer, and will take none up to the next START or STOP,
with the signals `ss` ahead. -/
inductive Aloof (ss : List Signal) (r : Responder) : Prop where
  /-- There is no transfer, or it is not for this responder. -/
  | idle (hphase : r.phase = .idle)
  /-- Behind a START. -/
  | started (hphase : r.phase = .started) (hbit : r.bit = 0) (hshift : r.shift = 0)
      (hforeign : Foreign ((levelsAhead ss).drop 1))
  /-- Within an address, with some of its levels taken in. -/
  | addressing (ls : List Bool) (hlen : ls.length < 8) (hphase : r.phase = .addressing)
      (hbit : r.bit = UInt8.ofNat ls.length) (hshift : r.shift = Byte.filled ls)
      (hforeign : Foreign (ls ++ levelsAhead ss))

variable {ss : List Signal} {r : Responder}

/-- A responder that takes no part leaves the data line alone. -/
theorem Aloof.sends (h : Aloof ss r) : r.sends = true := by
  cases h with
  | idle hphase => rw [Responder.sends, hphase]
  | started hphase => rw [Responder.sends, hphase]
  | addressing ls hlen hphase => rw [Responder.sends, hphase]

/-- Only the levels of the lines change. -/
theorem Aloof.with_lines (h : Aloof ss r) (clock data : Bool) :
    Aloof ss { r with clock := clock, data := data } := by
  cases h with
  | idle hphase => exact .idle hphase
  | started hphase hbit hshift hforeign => exact .started hphase hbit hshift hforeign
  | addressing ls hlen hphase hbit hshift hforeign =>
    exact .addressing ls hlen hphase hbit hshift hforeign

/-- What is left of a responder and its registers by something it took no part in. -/
structure Spared (f : RegisterMap σ) (r : Responder) (s : σ) (out : Responder × σ) : Prop where
  pointer : out.1.pointer = r.pointer
  registers : out.2 = s ∨ out.2 = f.onStart s

section

variable (f : RegisterMap σ) (s : σ)

/-- One more level of a foreign transfer.  The eighth of its address takes the responder back to
where it waits for a START. -/
theorem fallOn_aloof {level : Bool} (h : Aloof (.fall level :: ss) r) :
    Aloof ss (fallOn f level r s).1 ∧ (fallOn f level r s).1.pointer = r.pointer
      ∧ (fallOn f level r s).2 = s := by
  cases h with
  | idle hphase =>
    rw [fallOn_idle hphase]
    exact ⟨.idle hphase, rfl, rfl⟩
  | started hphase hbit hshift hforeign =>
    have hfall : fallOn f level r s = ({ r.fallen level with phase := .addressing }, s) := by
      rw [fallOn, fall, show (r.fallen level).phase = .started from hphase]
    rw [hfall]
    refine ⟨.addressing [] (by decide) rfl hbit ?_ hforeign, rfl, rfl⟩
    exact hshift
  | addressing ls hlen hphase hbit hshift hforeign =>
    -- the responder is `r.taking ls` up to its lines, which the fall sets
    have hposition : r.fallen level = (r.taking ls).fallen level := by
      simp only [fallen, taking, hbit, hshift]
    have hfall := fallOn_taking (r := r) (by rw [hphase]; rfl) f s hlen level
    rw [fallOn, ← hposition] at hfall
    have hahead : Foreign ((ls ++ [level]) ++ levelsAhead ss) := by
      rw [List.append_assoc]
      exact hforeign
    rw [fallOn, hfall]
    split
    case isTrue hlast =>
      have hidle := hahead.choose_eq_idle (by simp [hlast])
      have hfull : Byte.filled (ls ++ [level]) = Byte.ofLevels (ls ++ [level]) :=
        Byte.filled_eq_ofLevels (by simp [hlast])
      have htaken : byteTaken f (r.taking (ls ++ [level])) s
          = ({ r.taking (ls ++ [level]) with phase := .idle }, s) := by
        rw [byteTaken, show (r.taking (ls ++ [level])).phase = .addressing from hphase]
        simp only [taking, hfull, hidle]
      rw [htaken]
      exact ⟨.idle rfl, rfl, rfl⟩
    case isFalse hshort =>
      refine ⟨.addressing (ls ++ [level]) ?_ hphase rfl rfl hahead, rfl, rfl⟩
      rw [List.length_append, List.length_singleton]
      omega

/-- **Along foreign transfers a responder stays aloof.**  An event that belongs to one moves no
pointer and asks the registers for nothing but to note a START, and the transfers behind it are
foreign as well. -/
theorem step_aloof {e : LineEvent} {es : List LineEvent}
    (h : Aloof (signals r.clock r.data (e :: es)) r)
    (hforeign : ∀ ls ∈ transfers (signals r.clock r.data (e :: es)), Foreign ls) :
    let q := (step f e r s).1
    Aloof (signals q.clock q.data es) q ∧ Spared f r s (step f e r s)
      ∧ ∀ ls ∈ transfers (signals q.clock q.data es), Foreign ls := by
  rw [signals_cons_step f e es r s] at h hforeign
  dsimp only
  rcases step_cases f e r s with ⟨hsignal, hstep⟩ | ⟨hsignal, hstep⟩ | ⟨hsignal, hstep⟩
    | ⟨hsignal, clock, data, hstep⟩
  · rw [hsignal] at h hforeign
    obtain ⟨haloof, hpointer, hregisters⟩ := fallOn_aloof f s h
    rw [← hstep] at haloof hpointer hregisters
    exact ⟨haloof, ⟨hpointer, .inl hregisters⟩, hforeign⟩
  · -- the transfer that this START begins is the first of those ahead
    rw [hsignal, hstep] at hforeign
    obtain ⟨hfirst, hrest⟩ := List.forall_mem_cons.mp hforeign
    rw [hstep]
    exact ⟨.started rfl rfl rfl hfirst, ⟨rfl, .inr rfl⟩, hrest⟩
  · rw [hsignal, hstep] at hforeign
    rw [hstep]
    exact ⟨.idle rfl, ⟨rfl, .inl rfl⟩, hforeign⟩
  · rw [hsignal, List.nil_append, hstep] at h hforeign
    rw [hstep]
    exact ⟨h.with_lines clock data, ⟨rfl, .inl rfl⟩, hforeign⟩

/-- **Before the first START nothing happens at all.** -/
theorem step_idle {e : LineEvent} (hphase : r.phase = .idle)
    (hstart : Signal.start ∉ signals r.clock r.data [e]) :
    (step f e r s).1.phase = .idle ∧ (step f e r s).2 = s := by
  rcases step_cases f e r s with ⟨-, hstep⟩ | ⟨hsignal, -⟩ | ⟨-, hstep⟩ | ⟨-, clock, data, hstep⟩
  · rw [hstep, fallOn_idle hphase]
    exact ⟨hphase, rfl⟩
  · rw [hsignal] at hstart
    exact absurd List.mem_cons_self hstart
  · rw [hstep]
    exact ⟨rfl, rfl⟩
  · rw [hstep]
    exact ⟨hphase, rfl⟩

end

end Responder

end ClockChip
