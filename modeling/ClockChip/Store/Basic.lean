import ClockChip.File.Error
import ClockChip.Store.Context

/-!
# Stores of saved contexts

A store keeps one context for each device name.  Loading names the sizes that are wanted and
yields nothing when there is nothing usable under the name; loading and saving may also fail.

## Main definitions

* `StoreError`: why a store could not load or save.
* `Store`: loading and saving in a monad `m`.
* `Store.within`: a store that is one part of a larger state.
-/

namespace ClockChip

/-- Why a store could not load or save. -/
inductive StoreError where
  /-- A save file is there but cannot be opened. -/
  | cannotOpen (path : String) (cause : FileError)
  /-- A save file was opened and its bytes could not be transferred. -/
  | cannotTransfer (cause : FileError)
  /-- A save file does not hold a context. -/
  | cannotDecode (path : String) (cause : DecodeError)
  /-- A save file or the directory for it cannot be made. -/
  | cannotCreate (path : String) (cause : FileError)
  /-- The store is switched off. -/
  | refused
  deriving DecidableEq, Repr

/-- The wording of a store's error. -/
def StoreError.message : StoreError → String
  | cannotOpen path cause => "Couldn't open `" ++ path ++ "`: " ++ cause.message
  | cannotTransfer cause => cause.message
  | cannotDecode path cause => "Couldn't decode `" ++ path ++ "`: " ++ cause.message
  | cannotCreate path cause => "Couldn't create `" ++ path ++ "`: " ++ cause.message
  | refused => "storage refused"

/-- A keeper of saved contexts. -/
structure Store (m : Type → Type) where
  /-- The usable context saved under a name, if there is one. -/
  load : (device : String) → (ramSize registerSize : Nat) → m (Except StoreError (Option Context))
  /-- Saves a context under a name. -/
  save : (device : String) → Context → m (Except StoreError Unit)

/-- A store that works on one part of a larger state. -/
def Store.within {σ τ : Type} (part : τ → σ) (replace : σ → τ → τ) (s : Store (StateM σ)) :
    Store (StateM τ) where
  load device ramSize registerSize := fun t =>
    let (r, x) := (s.load device ramSize registerSize).run (part t)
    (r, replace x t)
  save device context := fun t =>
    let (r, x) := (s.save device context).run (part t)
    (r, replace x t)

end ClockChip
