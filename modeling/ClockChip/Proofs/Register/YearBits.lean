import ClockChip.Proofs.Register.Latched

/-!
# The two year bits

The register of year and day has two bits for the year.  They are the low bits of the year of the
century in packed decimal, and so of its last digit alone, not of the year as a number: the tens
digit counts twenty years or none modulo four.  As a counter of leap years the two bits are right in
every other decade, and they do not go on at the end of a decade, when the digit goes from 9 to 0.

## Main results

* `Bank.Dated.yearBits`: the two bits are the last digit of the year modulo four.
* `Bank.yearBits_eq_mod_four_iff`: **they are the year modulo four if and only if the tens digit of
  the year is even, and they advance unless the year ends with 9.**
* `Bank.not_leapCounter_newDecade`: the turn from 2009 to 2010.
-/

namespace ClockChip

/-- The low bits of a number in packed decimal are those of its last digit. -/
theorem Setting.year_and_three {n : Nat} (h : n < 100) :
    ((year n).byte .packed &&& 3).toNat = n % 10 % 4 := by
  have hall : ∀ n < 100, ((year n).byte .packed &&& 3).toNat = n % 10 % 4 := by decide
  exact hall n h

namespace Bank

/-- The two bits above the day are the last digit of the year modulo four. -/
theorem Dated.yearBits {b : Bank} {c : Civil} (h : b.Dated c) (hc : c.Proper) :
    (((b.read 5).toNat / 64 : Nat) : Int) = c.date.year % 10 % 4 := by
  have hdigits : (c.date.year % 100).toNat < 100 := by omega
  have hbits : ((c.setting .year).byte .packed &&& 3).toNat = _ := Setting.year_and_three hdigits
  rw [← YearDay.toNat_unpack_year, h.unpack_yearDay hc, hbits]
  omega

/-- **The two year bits are the last digit of the year modulo four.**  They are the low bits of the
year itself if and only if its tens digit is even, and in the year after they have advanced by one
modulo four if and only if the year does not end with 9. -/
theorem yearBits_eq_mod_four_iff (b : Bank) {v : VirtualClock} {now : Instant} {hundredths : UInt8}
    (hinner : (Civil.ofSeconds (v.now (.plain now hundredths)).toInt).Inner) :
    let year := (Civil.ofSeconds (v.now (.plain now hundredths)).toInt).date.year
    let bits := ((b.latch v (.plain now hundredths)).read 5).toNat / 64
    bits = year % 10 % 4
      ∧ (bits = year % 4 ↔ year / 10 % 2 = 0)
      ∧ ∀ (b' : Bank) (v' : VirtualClock) (now' : Instant) (hundredths' : UInt8),
        (Civil.ofSeconds (v'.now (.plain now' hundredths')).toInt).date.year = year + 1 →
        let bits' := ((b'.latch v' (.plain now' hundredths')).read 5).toNat / 64
        (bits' = (bits + 1) % 4 ↔ year % 10 ≠ 9) := by
  intro year bits
  have hbits : (bits : Int) = year % 10 % 4 :=
    (b.latch_dated (VirtualClock.shows_ofSeconds hinner.yearInCalendar)).yearBits
      (Civil.ofSeconds_proper _)
  refine ⟨hbits, by omega, ?_⟩
  intro b' v' now' hundredths' hnext bits'
  have hin : YearInCalendar (year + 1) := by
    obtain ⟨hlow, hhigh⟩ : -262000 ≤ year ∧ year ≤ 262000 := hinner
    unfold YearInCalendar firstYear lastYear
    omega
  have hbits' : (bits' : Int) = (year + 1) % 10 % 4 := by
    rw [← hnext] at hin ⊢
    exact (b'.latch_dated (VirtualClock.shows_ofSeconds hin)).yearBits (Civil.ofSeconds_proper _)
  omega

/-- The last second of 2023, before a leap year: the bits go from 3 to 0. -/
theorem yearBits_eq_mod_four_iff_leapYear :
    let clock := HostClock.plain 1704067199 0
    let v := VirtualClock.running 0
    let b := ofStored (.replicate 16 0) (List.replicate 240 0)
    (Civil.ofSeconds (v.now clock).toInt).Inner
      ∧ (Civil.ofSeconds (v.now clock).toInt).date.year = 2023
      ∧ ((b.latch v clock).read 5).toNat / 64 = 3
      ∧ ((b.latch v (.plain 1704067200 0)).read 5).toNat / 64 = 0 := by
  intro clock v b
  have hinner : (Civil.ofSeconds (v.now clock).toInt).Inner := by decide
  have hyear : (Civil.ofSeconds (v.now clock).toInt).date.year = 2023 := by decide
  obtain ⟨-, hdecade, hnext⟩ := b.yearBits_eq_mod_four_iff hinner
  rw [hyear] at hdecade hnext
  have hbits : ((b.latch v clock).read 5).toNat / 64 = 3 := by
    have hmod : ((((b.latch v clock).read 5).toNat / 64 : Nat) : Int) = 2023 % 4 :=
      hdecade.mpr (by decide)
    omega
  have hnewYear := (hnext b v 1704067200 0 (by decide)).mpr (by decide)
  rw [hbits] at hnewYear
  exact ⟨hinner, hyear, hbits, hnewYear⟩

/-- At the turn from 2009 to 2010 the bits go back from 1 to 0, and 0 is not 2010 modulo four. -/
theorem not_leapCounter_newDecade :
    let v := VirtualClock.running 0
    let b := ofStored (.replicate 16 0) (List.replicate 240 0)
    let bits := fun now : Instant => ((b.latch v (.plain now 0)).read 5).toNat / 64
    Civil.ofSeconds (v.now (.plain 1262303999 0)).toInt = ⟨⟨2009, 12, 31⟩, 23, 59, 59⟩
      ∧ Civil.ofSeconds (v.now (.plain 1262304000 0)).toInt = ⟨⟨2010, 1, 1⟩, 0, 0, 0⟩
      ∧ bits 1262303999 = 1 ∧ bits 1262304000 = 0
      ∧ bits 1262304000 ≠ 2010 % 4 ∧ bits 1262304000 ≠ (bits 1262303999 + 1) % 4 := by
  decide +kernel

end Bank

end ClockChip
