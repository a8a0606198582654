/-!
# Sixty-four bit instants

Instants, offsets and latches are kept as signed 64-bit counts of seconds.  Sums that could leave
this range stop at its ends instead of wrapping around.

## Main definitions

* `clamp`: the number nearest to `x` that fits 64 bits.
* `Instant`: a 64-bit count of seconds, with `Instant.saturate`, `Instant.plus`, `Instant.minus`.
-/

namespace ClockChip

/-- The least 64-bit number. -/
def leastInstant : Int := -9223372036854775808

/-- The greatest 64-bit number. -/
def greatestInstant : Int := 9223372036854775807

/-- The 64-bit number nearest to `x`. -/
def clamp (x : Int) : Int := max leastInstant (min x greatestInstant)

theorem clamp_of_mem {x : Int} (hl : leastInstant ≤ x) (hg : x ≤ greatestInstant) :
    clamp x = x := by
  simp only [clamp, leastInstant, greatestInstant] at *; omega

/-- A count of seconds in 64 bits. -/
abbrev Instant := Int64

namespace Instant

/-- The instant nearest to a count of seconds. -/
def saturate (x : Int) : Instant := Int64.ofInt (clamp x)

/-- The sum, stopped at the ends of the range. -/
def plus (a b : Instant) : Instant := saturate (a.toInt + b.toInt)

/-- The difference, stopped at the ends of the range. -/
def minus (a b : Instant) : Instant := saturate (a.toInt - b.toInt)

@[simp] theorem toInt_saturate (x : Int) : (saturate x).toInt = clamp x := by
  apply Int64.toInt_ofInt_of_le <;> simp only [clamp, leastInstant, greatestInstant] <;> omega

@[simp] theorem toInt_plus (a b : Instant) : (plus a b).toInt = clamp (a.toInt + b.toInt) :=
  toInt_saturate _

@[simp] theorem toInt_minus (a b : Instant) : (minus a b).toInt = clamp (a.toInt - b.toInt) :=
  toInt_saturate _

end Instant

end ClockChip
