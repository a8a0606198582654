import ClockChip.Store.Basic

/-!
# Stores in memory

`MemoryStore` keeps contexts in memory, counts the saves and gives out only what fits.
`UncheckedStore` gives out whatever was saved and can be switched off; it stands for storage that
a chip should not trust.

## Main definitions

* `Shelf`: contexts by device name.
* `MemoryStore`, `MemoryStore.store`.
* `UncheckedStore`, `UncheckedStore.store`.
-/

namespace ClockChip

/-- Contexts by device name; the latest under a name counts. -/
abbrev Shelf := List (String × Context)

namespace Shelf

/-- The context under a name. -/
def find? (s : Shelf) (device : String) : Option Context := s.lookup device

/-- Puts a context under a name. -/
def insert (s : Shelf) (device : String) (context : Context) : Shelf :=
  (device, context) :: s.filter fun e => e.1 != device

@[simp] theorem find?_nil (device : String) : find? [] device = none := rfl

theorem find?_insert (s : Shelf) (device : String) (context : Context) :
    (s.insert device context).find? device = some context := by
  simp [find?, insert]

theorem find?_filter_of_ne {device other : String} (h : other ≠ device) (s : Shelf) :
    find? (s.filter fun e => e.1 != device) other = s.find? other := by
  unfold find?
  induction s with
  | nil => rfl
  | cons e s ih =>
    rw [List.filter_cons]
    by_cases he : e.1 = device
    · have hother : (other == e.1) = false := by simpa [he] using h
      rw [if_neg (by simpa using he), ih, List.lookup_cons, hother]
    · rw [if_pos (by simpa using he), List.lookup_cons, List.lookup_cons, ih]

/-- What is put under one name changes nothing under another. -/
theorem find?_insert_of_ne {device other : String} (h : other ≠ device) (s : Shelf)
    (context : Context) : (s.insert device context).find? other = s.find? other := by
  have hhead : (other == device) = false := by simpa using h
  rw [← find?_filter_of_ne h s, find?, insert, List.lookup_cons, hhead]
  rfl

end Shelf

/-- Contexts in memory, and how often one was saved. -/
structure MemoryStore where
  /-- The contexts. -/
  shelf : Shelf
  /-- The number of saves. -/
  saves : Nat
  deriving DecidableEq, Repr

namespace MemoryStore

/-- A store in which nothing has been saved. -/
def empty : MemoryStore := ⟨[], 0⟩

/-- The context of a device, if it fits. -/
def get (s : MemoryStore) (device : String) (ramSize registerSize : Nat) : Option Context :=
  Context.fitting ramSize registerSize (s.shelf.find? device)

/-- Saves a context. -/
def put (s : MemoryStore) (device : String) (context : Context) : MemoryStore :=
  ⟨s.shelf.insert device context, s.saves + 1⟩

/-- The store as a chip uses it. -/
def store : Store (StateM MemoryStore) where
  load device ramSize registerSize := fun s => (.ok (s.get device ramSize registerSize), s)
  save device context := fun s => (.ok (), s.put device context)

end MemoryStore

/-- Contexts in memory that are given out unchecked, with a switch. -/
structure UncheckedStore where
  /-- The contexts. -/
  shelf : Shelf
  /-- Every load and save is refused. -/
  failing : Bool
  deriving DecidableEq, Repr

namespace UncheckedStore

/-- A store in which nothing has been saved, switched on. -/
def empty : UncheckedStore := ⟨[], false⟩

/-- The store as a chip uses it. -/
def store : Store (StateM UncheckedStore) where
  load device _ _ := fun s =>
    (if s.failing then .error .refused else .ok (s.shelf.find? device), s)
  save device context := fun s =>
    if s.failing then (.error .refused, s)
    else (.ok (), { s with shelf := s.shelf.insert device context })

end UncheckedStore

end ClockChip
