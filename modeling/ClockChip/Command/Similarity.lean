/-!
# Similar words

A mistyped command is told apart from a stray argument by its similarity to the commands there
are.  The measure counts the letters that two words share at nearly the same place (Jaro), less
those that are out of order, and favours words that begin alike (Winkler).  All of it is kept in
whole numbers, so that the comparison with the threshold is exact.

## Main definitions

* `Similarity.matching`: how many letters two words share, and how many of them out of order.
* `Similarity.commonStart`: how long two words begin alike.
* `Similarity.areSimilar`: the measure is above four fifths.
-/

namespace ClockChip.Similarity

/-- How far apart the places of a shared letter may be. -/
def reach (a b : List Char) : Nat := max a.length b.length / 2 - 1

/-- The first place from `lo` to `hi` at which `b` has the letter `c` and that is not yet taken. -/
def findFree (c : Char) (b : List Char) (taken : List Nat) (lo hi : Nat) : Option Nat :=
  (List.range b.length).find? fun j =>
    decide (lo ≤ j) && decide (j ≤ hi) && b[j]? == some c && !taken.contains j

/-- What is known of two words when the letters of the first have been looked up in part. -/
structure Found where
  /-- The places of the second word that are taken. -/
  taken : List Nat
  /-- The place taken last. -/
  last : Nat
  /-- How often a place came before the one taken last. -/
  swapped : Nat

/-- Looks up the letters of a word from the place `i` on. -/
def lookUp (b : List Char) (range : Nat) : (i : Nat) → List Char → Found → Found
  | _, [], f => f
  | i, c :: cs, f =>
    match findFree c b f.taken (i - range) (i + range) with
    | none => lookUp b range (i + 1) cs f
    | some j => lookUp b range (i + 1) cs
        ⟨j :: f.taken, j, if j < f.last then f.swapped + 1 else f.swapped⟩

/-- How many letters two words share, and how many of those are out of order. -/
def matching (a b : List Char) : Nat × Nat :=
  let f := lookUp b (reach a b) 0 a ⟨[], 0, 0⟩
  (f.taken.length, f.swapped)

/-- How many letters two words have in common at their start. -/
def commonStart : List Char → List Char → Nat
  | a :: as, b :: bs => if a = b then commonStart as bs + 1 else 0
  | _, _ => 0

/-- The similarity of two words is above four fifths.  With `m` shared letters, `t` of them out of
order, it is the mean of `m / a`, `m / b` and `(m - t) / m`, moved towards one by a tenth of the
missing part for each letter of the common start. -/
def areSimilar (a b : List Char) : Bool :=
  if a = b then true
  else if a.length ≤ 1 ∧ b.length ≤ 1 then false
  else
    let (m, t) := matching a b
    if m = 0 then false
    else
      let start : Int := commonStart a b
      let whole : Int := 3 * a.length * b.length * m
      let part : Int :=
        m * m * b.length + m * m * a.length + ((m : Int) - t) * a.length * b.length
      decide (8 * whole < (10 - start) * part + start * whole)

end ClockChip.Similarity
