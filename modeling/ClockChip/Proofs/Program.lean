/-!
# Programs that carry a state along

Stores, trees of files and benches are states that a program reads and changes on its way.  A run
of such a program is followed from one step to the next: what the first step returned and left is
what the others go on with.

## Main results

* `run_bind_of`: a program whose first step is known goes on behind it.
-/

namespace ClockChip

/-- A program goes on with what its first step returned and left. -/
theorem run_bind_of {σ α β : Type} {x : StateM σ α} {f : α → StateM σ β} {s t : σ} {a : α}
    (h : x.run s = (a, t)) : (x >>= f).run s = (f a).run t := by
  rw [StateT.run_bind, h]
  rfl

end ClockChip
