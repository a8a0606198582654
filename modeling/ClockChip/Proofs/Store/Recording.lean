import ClockChip.Store.Memory

/-!
# The calls of a store

What a store was asked for, and what it took, can be seen from its calls.  `Store.recorded` keeps
them beside the state of any store.  A store is trusted with a context only as far as it takes it
whole: a save that succeeds puts the context under the name and touches nothing else, and one that
fails touches nothing at all.

## Main definitions

* `StoreCall`, `Store.recorded`: the calls of a store, and a store that keeps them.
* `takenContexts`: the contexts that a store has taken.
* `Store.SavesWhole`: a save takes the whole context or nothing.

## Main results

* `MemoryStore.savesWhole`, `UncheckedStore.savesWhole`: both stores in memory save whole.
-/

namespace ClockChip

/-- A call of a store; of a save also what came of it. -/
inductive StoreCall where
  /-- A context of given sizes was asked for. -/
  | load (device : String) (ramSize registerSize : Nat)
  /-- A context was to be saved. -/
  | save (device : String) (context : Context) (outcome : Except StoreError Unit)

/-- The context that a call has put into the store. -/
def StoreCall.taken? : StoreCall → Option Context
  | save _ context (.ok ()) => some context
  | save _ _ (.error _) => none
  | load _ _ _ => none

/-- The contexts that a store has taken, the latest last. -/
def takenContexts (calls : List StoreCall) : List Context := calls.filterMap StoreCall.taken?

@[simp] theorem takenContexts_nil : takenContexts [] = [] := rfl

@[simp] theorem takenContexts_saved (calls : List StoreCall) (device : String) (c : Context) :
    takenContexts (calls ++ [.save device c (.ok ())]) = takenContexts calls ++ [c] := by
  simp [takenContexts, StoreCall.taken?]

@[simp] theorem takenContexts_refused (calls : List StoreCall) (device : String) (c : Context)
    (e : StoreError) :
    takenContexts (calls ++ [.save device c (.error e)]) = takenContexts calls := by
  simp [takenContexts, StoreCall.taken?]

namespace Store

variable {σ : Type}

/-- The same store, with its calls so far beside its state. -/
def recorded (store : Store (StateM σ)) : Store (StateM (σ × List StoreCall)) where
  load device ramSize registerSize := fun s =>
    let (r, x) := (store.load device ramSize registerSize).run s.1
    (r, x, s.2 ++ [.load device ramSize registerSize])
  save device context := fun s =>
    let (r, x) := (store.save device context).run s.1
    (r, x, s.2 ++ [.save device context r])

theorem run_save_recorded {store : Store (StateM σ)} {device : String} {context : Context}
    {x y : σ} {r : Except StoreError Unit} (h : (store.save device context).run x = (r, y))
    (calls : List StoreCall) :
    (store.recorded.save device context).run (x, calls)
      = (r, y, calls ++ [.save device context r]) := by
  show (let (r, x) := (store.save device context).run x
    (r, x, calls ++ [StoreCall.save device context r])) = _
  rw [h]

/-- As far as `held` shows what is saved under each name, a save that succeeds puts the context
under its name and a save that fails changes nothing. -/
structure SavesWhole (store : Store (StateM σ)) (held : σ → String → Option Context) : Prop where
  of_ok : ∀ {device context x y}, (store.save device context).run x = (.ok (), y) →
    held y device = some context ∧ ∀ other ≠ device, held y other = held x other
  of_error : ∀ {device context x y e}, (store.save device context).run x = (.error e, y) →
    held y = held x

end Store

/-! ### The stores in memory -/

theorem MemoryStore.savesWhole : store.SavesWhole fun s => s.shelf.find? where
  of_ok := by
    intro device context x y h
    cases h
    exact ⟨Shelf.find?_insert _ _ _, fun other hne => Shelf.find?_insert_of_ne hne _ _⟩
  of_error := by
    intro device context x y e h
    cases h

theorem UncheckedStore.savesWhole : store.SavesWhole fun s => s.shelf.find? where
  of_ok := by
    intro device context x y h
    change (if x.failing then _ else _) = _ at h
    split at h
    case isTrue => cases h
    case isFalse =>
      cases h
      exact ⟨Shelf.find?_insert _ _ _, fun other hne => Shelf.find?_insert_of_ne hne _ _⟩
  of_error := by
    intro device context x y e h
    change (if x.failing then _ else _) = _ at h
    split at h
    case isTrue =>
      cases h
      rfl
    case isFalse => cases h

end ClockChip
