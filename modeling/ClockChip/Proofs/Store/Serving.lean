import ClockChip.Proofs.Program
import ClockChip.Store.Memory
import Mathlib.Logic.Function.Basic

/-!
# What a store owes

Between saves and loads a good store is a map from names to contexts.  What it owes to a request can
be told from the requests before it alone: a save succeeds, and a load gives out the context that
was saved last under the very name, if it fits.  Two stores that keep this up give the same replies
to any requests, whatever they keep the contexts in.

## Main definitions

* `Request`, `Reply`, `Store.serve`: saves and loads as data.
* `Request.keep`, `Request.due`: a request on a map, and the reply that is due.
* `lastSaved`: the context that was saved last under a name.
* `Store.Serves`: a store that stands for a map.

## Main results

* `Store.Serves.run`: **a store that keeps up each request keeps up a run of them.**
* `MemoryStore.serves`: a store in memory does.
-/

namespace ClockChip

/-- What is asked of a store. -/
inductive Request where
  /-- A context is to be saved under a name. -/
  | save (device : String) (context : Context)
  /-- The context that is saved under a name is wanted, with memory and registers of these sizes. -/
  | load (device : String) (ramSize registerSize : Nat)

/-- What a store replies. -/
inductive Reply where
  /-- What came of a save. -/
  | saved (outcome : Except StoreError Unit)
  /-- What came of a load: a context, or nothing usable. -/
  | loaded (outcome : Except StoreError (Option Context))

namespace Request

/-- The contexts by their names behind a request. -/
def keep (f : String → Option Context) : Request → String → Option Context
  | save device context => Function.update f device (some context)
  | load _ _ _ => f

/-- The reply that is due to a request. -/
def due (f : String → Option Context) : Request → Reply
  | save _ _ => .saved (.ok ())
  | load device ramSize registerSize =>
    .loaded (.ok (Context.fitting ramSize registerSize (f device)))

/-- The replies that are due to a run of requests. -/
def dueAll (f : String → Option Context) : List Request → List Reply
  | [] => []
  | r :: rs => r.due f :: dueAll (r.keep f) rs

/-- The context that a request saves under a name. -/
def contextUnder? (device : String) : Request → Option Context
  | save other context => if other = device then some context else none
  | load _ _ _ => none

end Request

/-- The context that was saved last under a name. -/
def lastSaved (device : String) (rs : List Request) : Option Context :=
  (rs.filterMap (Request.contextUnder? device)).getLast?

namespace Request

variable {f : String → Option Context}

theorem keep_eq_or (f : String → Option Context) (r : Request) (device : String) :
    r.keep f device = (r.contextUnder? device).or (f device) := by
  cases r with
  | save other context =>
    by_cases h : other = device
    · subst h
      simp [keep, contextUnder?]
    · simp [keep, contextUnder?, h, Function.update_of_ne (Ne.symm h)]
  | load => rfl

/-- Behind a run, each name has the context that was saved last under it. -/
theorem foldl_keep (f : String → Option Context) (rs : List Request) (device : String) :
    rs.foldl keep f device = (lastSaved device rs).or (f device) := by
  induction rs generalizing f with
  | nil => rfl
  | cons r rs ih =>
    rw [List.foldl_cons, ih, keep_eq_or, lastSaved, lastSaved, List.filterMap_cons]
    cases r.contextUnder? device with
    | none => rfl
    | some context =>
      dsimp only
      rw [List.getLast?_cons]
      cases (rs.filterMap (contextUnder? device)).getLast? <;> rfl

@[simp] theorem length_dueAll (f : String → Option Context) (rs : List Request) :
    (dueAll f rs).length = rs.length := by
  induction rs generalizing f with
  | nil => rfl
  | cons r rs ih => rw [dueAll, List.length_cons, List.length_cons, ih]

/-- The reply that is due to one request of a run. -/
theorem getElem?_dueAll (f : String → Option Context) (before : List Request) (r : Request)
    (rest : List Request) :
    (dueAll f (before ++ r :: rest))[before.length]? = some (r.due (before.foldl keep f)) := by
  induction before generalizing f with
  | nil => rfl
  | cons r' before ih => simpa [dueAll] using ih (r'.keep f)

end Request

namespace Store

/-- A request is served. -/
def serve {m : Type → Type} [Monad m] (store : Store m) : Request → m Reply
  | .save device context => return .saved (← store.save device context)
  | .load device ramSize registerSize => return .loaded (← store.load device ramSize registerSize)

/-- Requests are served one after the other. -/
def serveAll {m : Type → Type} [Monad m] (store : Store m) : List Request → m (List Reply)
  | [] => return []
  | r :: rs => do
    let reply ← store.serve r
    return reply :: (← store.serveAll rs)

variable {σ : Type} {store : Store (StateM σ)} {x : σ} {f : String → Option Context}

/-- A single save is replied to with what comes of it. -/
theorem run_serveAll_save (store : Store (StateM σ)) (device : String) (c : Context) (x : σ) :
    (store.serveAll [.save device c]).run x
      = ([.saved ((store.save device c).run x).1], ((store.save device c).run x).2) := rfl

/-- As long as requests are of a kind `P`, the states of a store stand for maps as `R` says: each
request gets the reply that is due, and is kept. -/
structure Serves (store : Store (StateM σ)) (R : σ → (String → Option Context) → Prop)
    (P : Request → Prop) : Prop where
  step : ∀ {x f r}, R x f → P r → ∃ y, (store.serve r).run x = (r.due f, y) ∧ R y (r.keep f)

variable {R : σ → (String → Option Context) → Prop} {P : Request → Prop}

/-- **A store that keeps up each request keeps up a run of them.** -/
theorem Serves.run (h : store.Serves R P) {rs : List Request} (hrs : ∀ r ∈ rs, P r)
    (hx : R x f) :
    ∃ y, (store.serveAll rs).run x = (Request.dueAll f rs, y) ∧ R y (rs.foldl Request.keep f) := by
  induction rs generalizing x f with
  | nil => exact ⟨x, rfl, hx⟩
  | cons r rs ih =>
    -- behind the first request the store stands for the map behind it
    obtain ⟨y, hserve, hy⟩ := h.step hx (hrs r List.mem_cons_self)
    obtain ⟨z, hrest, hz⟩ := ih (fun r' hr' => hrs r' (List.mem_cons_of_mem r hr')) hy
    refine ⟨z, ?_, hz⟩
    rw [serveAll, run_bind_of hserve, run_bind_of hrest]
    rfl

end Store

/-- **A store in memory gives every reply that is due.** -/
theorem MemoryStore.serves :
    store.Serves (fun s f => ∀ device, s.shelf.find? device = f device) fun _ => True where
  step := by
    intro s f r hs _
    cases r with
    | save device context =>
      refine ⟨s.put device context, rfl, ?_⟩
      intro other
      by_cases hother : other = device
      · subst hother
        rw [Request.keep, Function.update_self]
        exact Shelf.find?_insert _ _ _
      · rw [Request.keep, Function.update_of_ne hother, ← hs other]
        exact Shelf.find?_insert_of_ne hother _ _
    | load device ramSize registerSize =>
      refine ⟨s, ?_, hs⟩
      rw [Request.due, ← hs device]
      rfl

end ClockChip
