import ClockChip.Wire.Responder

/-!
# What a responder asks of its registers

A responder does three things to its register map: it announces a START, it reads a register and
it writes one.  `RegisterMap.recorded` keeps the list of these calls beside any register map, so
that the calls of a run can be talked about without looking into the responder.

## Main definitions

* `Call`: one use of a register map, with the register that it is about.
* `RegisterMap.perform`: what a list of calls does to the registers.
* `RegisterMap.recorded`: a register map that keeps its calls.

## Main results

* `RegisterMap.perform_recorded`: the calls that are performed are the calls that are kept.
* `Responder.step_invariant`: **what every call preserves, every line event preserves.**
* `Responder.calls_within`: **a line event makes no call about a register that is not there.**
-/

namespace ClockChip

/-- One use of a register map. -/
inductive Call where
  /-- A START was seen. -/
  | start
  /-- A register is read. -/
  | read (address : Nat)
  /-- A byte is written to a register. -/
  | write (address : Nat) (val : UInt8)
  deriving DecidableEq, Repr

namespace Call

/-- The register that a call is about. -/
def address? : Call → Option Nat
  | start => none
  | read address => some address
  | write address _ => some address

/-- A call is about one of `count` registers, if it is about a register at all. -/
def Within (count : Nat) (c : Call) : Prop := ∀ address ∈ c.address?, address < count

theorem start_within (count : Nat) : start.Within count := by simp [Within, address?]

theorem read_within {count address : Nat} : (read address).Within count ↔ address < count := by
  simp [Within, address?]

theorem write_within {count address : Nat} {val : UInt8} :
    (write address val).Within count ↔ address < count := by
  simp [Within, address?]

end Call

namespace RegisterMap

variable {σ : Type}

/-- What a call does to the registers. -/
def call (f : RegisterMap σ) (s : σ) : Call → σ
  | .start => f.onStart s
  | .read address => (f.read s address).2
  | .write address val => f.write s address val

/-- What a list of calls does to the registers. -/
def perform (f : RegisterMap σ) (cs : List Call) (s : σ) : σ := cs.foldl f.call s

@[simp] theorem perform_nil (f : RegisterMap σ) (s : σ) : f.perform [] s = s := rfl

@[simp] theorem perform_cons (f : RegisterMap σ) (c : Call) (cs : List Call) (s : σ) :
    f.perform (c :: cs) s = f.perform cs (f.call s c) := rfl

theorem perform_append (f : RegisterMap σ) (cs ds : List Call) (s : σ) :
    f.perform (cs ++ ds) s = f.perform ds (f.perform cs s) := by
  simp [perform]

/-- What every call preserves, a list of calls preserves. -/
theorem perform_invariant {f : RegisterMap σ} {P : σ → Prop} (hcall : ∀ c s, P s → P (f.call s c))
    (cs : List Call) {s : σ} (h : P s) : P (f.perform cs s) := by
  induction cs generalizing s with
  | nil => exact h
  | cons c cs ih => exact ih (hcall c s h)

/-- The same register map, with the calls so far beside its state. -/
def recorded (f : RegisterMap σ) : RegisterMap (σ × List Call) where
  count := f.count
  onStart x := (f.onStart x.1, x.2 ++ [.start])
  read x address :=
    let (val, s) := f.read x.1 address
    (val, (s, x.2 ++ [.read address]))
  write x address val := (f.write x.1 address val, x.2 ++ [.write address val])

@[simp] theorem count_recorded (f : RegisterMap σ) : f.recorded.count = f.count := rfl

theorem call_recorded (f : RegisterMap σ) (x : σ × List Call) (c : Call) :
    f.recorded.call x c = (f.call x.1 c, x.2 ++ [c]) := by
  cases c <;> rfl

theorem perform_recorded (f : RegisterMap σ) (cs : List Call) (x : σ × List Call) :
    f.recorded.perform cs x = (f.perform cs x.1, x.2 ++ cs) := by
  induction cs generalizing x with
  | nil => simp
  | cons c cs ih => rw [perform_cons, perform_cons, call_recorded, ih, List.append_assoc]; rfl

end RegisterMap

namespace Responder

variable {σ : Type}

/-- The fall of the clock makes at most one call, about the register at the pointer or the one
behind it. -/
theorem fall_perform (f : RegisterMap σ) (r : Responder) (s : σ) :
    ∃ cs, (r.pointer < f.count → ∀ c ∈ cs, c.Within f.count) ∧ (fall f r s).2 = f.perform cs s := by
  cases hp : r.phase with
  | readChosen =>
    refine ⟨[.read r.pointer], fun h => ?_, by simp [fall, hp, load, RegisterMap.call]⟩
    rw [List.forall_mem_singleton, Call.read_within]
    exact h
  | receiving =>
    cases hfull : r.takeBit.complete with
    | true =>
      refine ⟨[.write r.takeBit.pointer r.takeBit.shift], fun h => ?_, ?_⟩
      · rw [List.forall_mem_singleton, Call.write_within]
        exact h
      · simp [fall, hp, hfull, RegisterMap.call]
    | false => exact ⟨[], by simp, by simp [fall, hp, hfull]⟩
  | sent =>
    cases hdata : r.data with
    | true => exact ⟨[], by simp, by simp [fall, hp, hdata]⟩
    | false =>
      refine ⟨[.read (r.advance f.count).pointer], fun h => ?_, ?_⟩
      · rw [List.forall_mem_singleton, Call.read_within]
        exact Nat.mod_lt _ (by omega)
      · simp [fall, hp, hdata, load, RegisterMap.call]
  | _ => exact ⟨[], by simp, by simp [fall, hp]⟩

/-- What a line event does to the registers is done by calls, and none of them is about a register
that is not there. -/
theorem step_perform (f : RegisterMap σ) (e : LineEvent) (r : Responder) (s : σ) :
    ∃ cs, (r.pointer < f.count → ∀ c ∈ cs, c.Within f.count)
      ∧ (step f e r s).2 = f.perform cs s := by
  cases e with
  | clock level =>
    rw [step, onClock]
    split
    · exact ⟨[], by simp, rfl⟩
    · split
      · exact ⟨[], by simp, rfl⟩
      · exact fall_perform f { r with clock := false } s
  | data level =>
    rw [step, onData]
    split
    · exact ⟨[], by simp, rfl⟩
    · split
      · split
        · exact ⟨[], by simp, rfl⟩
        · exact ⟨[.start], by simp [Call.start_within], rfl⟩
      · exact ⟨[], by simp, rfl⟩

/-- **What every call preserves, every line event preserves.** -/
theorem step_invariant {f : RegisterMap σ} {P : σ → Prop} (hcall : ∀ c s, P s → P (f.call s c))
    (e : LineEvent) (r : Responder) {s : σ} (h : P s) : P (step f e r s).2 := by
  obtain ⟨cs, -, hcs⟩ := step_perform f e r s
  rw [hcs]
  exact RegisterMap.perform_invariant hcall cs h

/-- **A line event makes no call about a register that is not there**, if the pointer is one of the
registers. -/
theorem calls_within {f : RegisterMap σ} {r : Responder} (h : r.pointer < f.count) (e : LineEvent)
    (s : σ) : ∀ c ∈ (step f.recorded e r (s, [])).2.2, c.Within f.count := by
  obtain ⟨cs, hwithin, hcs⟩ := step_perform f.recorded e r (s, [])
  rw [hcs, RegisterMap.perform_recorded, List.nil_append]
  exact hwithin h

end Responder

end ClockChip
