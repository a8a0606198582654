import ClockChip.Proofs.Wire.Reading

/-!
# Registers that a responder cannot tell apart

A responder learns nothing about its registers but the bytes that it reads.  Two register maps may
therefore stand behind it whose states differ, as long as related states show the same bytes and
are led to related states by the same reads and writes.  Then the responder in front of one does
what the responder in front of the other does, up to the next START: what a START does to the
registers is not asked for.

## Main definitions

* `RegisterMap.Alike`: reads and writes keep states related and show the same bytes.

## Main results

* `Responder.signals_cons_step`: the signals of line events, read event by event.
* `Responder.step_cases`: **an event is the fall of the clock, a START, a STOP, or only a new
  level.**
* `Responder.step_alike`: **an event that is no START leads equal responders in front of related
  registers to equal responders in front of related registers.**
* `Responder.step_eq_perform`: what an event does to the registers is done by its recorded calls.
-/

namespace ClockChip

variable {σ τ : Type}

/-- Related states show the same bytes and stay related along reads and writes. -/
structure RegisterMap.Alike (f : RegisterMap σ) (g : RegisterMap τ) (R : σ → τ → Prop) :
    Prop where
  count : f.count = g.count
  shown : ∀ {s t}, R s t → ∀ address, (f.read s address).1 = (g.read t address).1
  read : ∀ {s t}, R s t → ∀ address, R (f.read s address).2 (g.read t address).2
  write : ∀ {s t}, R s t → ∀ address val, R (f.write s address val) (g.write t address val)

/-- Registers and the same registers with their calls recorded are related. -/
theorem RegisterMap.alike_recorded (f : RegisterMap σ) :
    f.Alike f.recorded fun s x => s = x.1 where
  count := rfl
  shown h address := congrArg (fun s => (f.read s address).1) h
  read h address := congrArg (fun s => (f.read s address).2) h
  write h address val := congrArg (fun s => f.write s address val) h

namespace Responder

/-! ### The lines behind an event -/

theorem lines_step_clock (f : RegisterMap σ) (level : Bool) (r : Responder) (s : σ) :
    (step f (.clock level) r s).1.clock = level
      ∧ (step f (.clock level) r s).1.data = r.data := by
  cases hfall : r.clock && !level with
  | true =>
    have hlevel : level = false := by simpa using (Bool.and_eq_true_iff.mp hfall).2
    rw [step_clock_fall hfall, hlevel]
    exact fall_lines f _ s
  | false =>
    rw [step_clock_quiet hfall]
    exact ⟨rfl, rfl⟩

theorem lines_step_data (f : RegisterMap σ) (level : Bool) (r : Responder) (s : σ) :
    (step f (.data level) r s).1.clock = r.clock
      ∧ (step f (.data level) r s).1.data = level := by
  rw [step, onData]
  split
  case isTrue hsame => exact ⟨rfl, hsame⟩
  case isFalse =>
    split
    · cases level with
      | true => exact ⟨rfl, rfl⟩
      | false => exact ⟨rfl, rfl⟩
    · exact ⟨rfl, rfl⟩

/-- The signals of line events are those of the first event, followed by those of the others from
the lines on that the first one leaves. -/
theorem signals_cons_step (f : RegisterMap σ) (e : LineEvent) (es : List LineEvent) (r : Responder)
    (s : σ) : signals r.clock r.data (e :: es)
      = signals r.clock r.data [e]
        ++ signals (step f e r s).1.clock (step f e r s).1.data es := by
  cases e with
  | clock level =>
    obtain ⟨hclock, hdata⟩ := lines_step_clock f level r s
    rw [hclock, hdata, signals, signals]
    split <;> simp [signals]
  | data level =>
    obtain ⟨hclock, hdata⟩ := lines_step_data f level r s
    rw [hclock, hdata, signals, signals]
    split
    · simp [signals]
    · split <;> simp [signals]

/-- **What an event comes to:** the fall of the clock, a START, a STOP, or only a new level. -/
theorem step_cases (f : RegisterMap σ) (e : LineEvent) (r : Responder) (s : σ) :
    (signals r.clock r.data [e] = [.fall r.data] ∧ step f e r s = fallOn f r.data r s)
      ∨ (signals r.clock r.data [e] = [.start] ∧ step f e r s = (r.begun, f.onStart s))
      ∨ (signals r.clock r.data [e] = [.stop] ∧ step f e r s = (r.ended, s))
      ∨ (signals r.clock r.data [e] = []
          ∧ ∃ clock data, step f e r s = ({ r with clock := clock, data := data }, s)) := by
  cases e with
  | clock level =>
    cases hfall : r.clock && !level with
    | true => exact .inl ⟨by simp [signals, hfall], step_clock_fall hfall f s⟩
    | false =>
      exact .inr (.inr (.inr ⟨by simp [signals, hfall], level, r.data, step_clock_quiet hfall f s⟩))
  | data level =>
    cases hstart : r.clock && r.data && !level with
    | true => exact .inr (.inl ⟨by simp [signals, hstart], step_data_start hstart f s⟩)
    | false =>
      cases hstop : r.clock && !r.data && level with
      | true =>
        exact .inr (.inr (.inl ⟨by simp [signals, hstart, hstop], step_data_stop hstop f s⟩))
      | false =>
        exact .inr (.inr (.inr ⟨by simp [signals, hstart, hstop], r.clock, level,
          step_data_quiet hstart hstop f s⟩))

/-! ### One event -/

variable {f : RegisterMap σ} {g : RegisterMap τ} {R : σ → τ → Prop} {s : σ} {t : τ}

theorem load_alike (h : f.Alike g R) (hst : R s t) (r : Responder) :
    (r.load f s).1 = (r.load g t).1 ∧ R (r.load f s).2 (r.load g t).2 := by
  refine ⟨?_, h.read hst r.pointer⟩
  simp only [load, h.shown hst r.pointer]

/-- The fall of the clock reads and writes at most one register. -/
theorem fall_alike (h : f.Alike g R) (hst : R s t) (r : Responder) :
    (fall f r s).1 = (fall g r t).1 ∧ R (fall f r s).2 (fall g r t).2 := by
  cases hp : r.phase with
  | readChosen =>
    simp only [fall, hp]
    exact load_alike h hst r
  | sent =>
    simp only [fall, hp, h.count]
    split
    · exact ⟨rfl, hst⟩
    · exact load_alike h hst _
  | receiving =>
    simp only [fall, hp, h.count]
    split
    · exact ⟨rfl, h.write hst _ _⟩
    · exact ⟨rfl, hst⟩
  | idle | started | addressing | writeChosen | pointing | pointed | sending | received =>
    simpa only [fall, hp, h.count, true_and] using hst

/-- **An event that is no START does the same in front of related registers**, and leaves them
related. -/
theorem step_alike (h : f.Alike g R) (hst : R s t) {e : LineEvent} {r : Responder}
    (hstart : Signal.start ∉ signals r.clock r.data [e]) :
    (step f e r s).1 = (step g e r t).1 ∧ R (step f e r s).2 (step g e r t).2 := by
  cases e with
  | clock level =>
    cases hfall : r.clock && !level with
    | true =>
      rw [step_clock_fall hfall, step_clock_fall hfall]
      exact fall_alike h hst _
    | false =>
      rw [step_clock_quiet hfall, step_clock_quiet hfall]
      exact ⟨rfl, hst⟩
  | data level =>
    have hquiet : (r.clock && r.data && !level) = false := by
      cases hfalls : r.clock && r.data && !level with
      | true => exact absurd (by simp [signals, hfalls]) hstart
      | false => rfl
    cases hstop : r.clock && !r.data && level with
    | true =>
      rw [step_data_stop hstop, step_data_stop hstop]
      exact ⟨rfl, hst⟩
    | false =>
      rw [step_data_quiet hquiet hstop, step_data_quiet hquiet hstop]
      exact ⟨rfl, hst⟩

/-! ### Recorded calls -/

theorem step_of_start (f : RegisterMap σ) {e : LineEvent} {r : Responder}
    (hstart : Signal.start ∈ signals r.clock r.data [e]) (s : σ) :
    step f e r s = (r.begun, f.onStart s) := by
  rcases step_cases f e r s with ⟨hsignal, -⟩ | ⟨-, hstep⟩ | ⟨hsignal, -⟩ | ⟨hsignal, -⟩
  · simp [hsignal] at hstart
  · exact hstep
  · simp [hsignal] at hstart
  · simp [hsignal] at hstart

/-- **What a line event does to the registers is done by the calls that are recorded.** -/
theorem step_eq_perform (f : RegisterMap σ) (e : LineEvent) (r : Responder) (s : σ) :
    (step f e r s).2 = f.perform (step f.recorded e r (s, [])).2.2 s := by
  have hsame : (step f e r s).2 = (step f.recorded e r (s, [])).2.1 := by
    by_cases hstart : Signal.start ∈ signals r.clock r.data [e]
    · rw [step_of_start f hstart, step_of_start f.recorded hstart]
      rfl
    · exact (step_alike (s := s) (t := (s, [])) f.alike_recorded rfl hstart).2
  obtain ⟨cs, -, hcs⟩ := step_perform f.recorded e r (s, [])
  rw [RegisterMap.perform_recorded, List.nil_append] at hcs
  rw [hsame, hcs]

end Responder

end ClockChip
