import ClockChip.Byte.Numeral
import Mathlib.Data.List.Forall2
import Mathlib.Data.Nat.Digits.Defs

/-!
# The numerals that are read

Digits are read from the left, and reading stops as soon as the number so far is too large.  What
is read in this way is said here without reading: a numeral is one or more digits, with or without
a plus sign, and it denotes the sum of its digits by their places.  Since more digits never make a
number smaller, reading stops early exactly if the whole number is too large.

## Main definitions

* `Numeral.IsDigit`: a digit of a base, in lower or upper case.
* `Numeral.Digits`, `Numeral.Unsigned`: digits with what they denote, with or without a plus sign.
* `Numeral.OfByte`: the same in decimal, or in hexadecimal behind its prefix.

## Main results

* `Numeral.scan_of_digits`: digits are read as the number they denote, up to the limit.
* `Numeral.read_of_unsigned`, `Numeral.unsigned_of_read`, `Numeral.read_eq_ok_iff`: numerals are
  read, and nothing else is.
* `Numeral.byte_eq_ok_iff`: **the words that stand for a byte are its numerals.**
-/

namespace ClockChip.Numeral

variable {base limit seen n d : Nat} {c : Char} {cs : List Char} {ds : List Nat}

/-! ### Numerals -/

/-- The digits up to fifteen in lower case. -/
def lowerDigits : List Char := "0123456789abcdef".toList

/-- The digits up to fifteen in upper case. -/
def upperDigits : List Char := "0123456789ABCDEF".toList

/-- A character is the digit of `d` in a base, of either case. -/
structure IsDigit (base : Nat) (c : Char) (d : Nat) : Prop where
  lt : d < base
  spelled : lowerDigits[d]? = some c ∨ upperDigits[d]? = some c

/-- One or more digits, the most significant first, that denote `n`. -/
structure Digits (base : Nat) (cs : List Char) (n : Nat) : Prop where
  nonempty : cs ≠ []
  denoted : ∃ ds, List.Forall₂ (IsDigit base) cs ds ∧ Nat.ofDigits base ds.reverse = n

/-- Digits with or without a plus sign that denote `n`. -/
inductive Unsigned (base : Nat) : (s : List Char) → (n : Nat) → Prop where
  /-- There is no sign. -/
  | plain {cs : List Char} {n : Nat} (h : Digits base cs n) : Unsigned base cs n
  /-- There is a plus sign. -/
  | signed {cs : List Char} {n : Nat} (h : Digits base cs n) : Unsigned base ('+' :: cs) n

/-- A numeral of a byte, were it not for the size of the number. -/
inductive OfByte : (s : List Char) → (n : Nat) → Prop where
  /-- A decimal numeral. -/
  | decimal {s : List Char} {n : Nat} (h : Unsigned 10 s n) : OfByte s n
  /-- A hexadecimal numeral behind its prefix. -/
  | hexadecimal {x : Char} (hx : x = 'x' ∨ x = 'X') {s : List Char} {n : Nat}
      (h : Unsigned 16 s n) : OfByte ('0' :: x :: s) n

/-! ### One digit -/

theorem toNat_lt_of_hexDigitValue? (h : Hex.digitValue? c = some d) : c.toNat < 128 := by
  have hle : ∀ {hi : Char}, c ≤ hi → c.toNat ≤ hi.toNat := fun h => UInt32.le_iff_toNat_le.mp h
  unfold Hex.digitValue? at h
  split at h
  case isTrue hc => exact Nat.lt_of_le_of_lt (hle hc.2) (by decide)
  case isFalse =>
    split at h
    case isTrue hc => exact Nat.lt_of_le_of_lt (hle hc.2) (by decide)
    case isFalse =>
      split at h
      case isTrue hc => exact Nat.lt_of_le_of_lt (hle hc.2) (by decide)
      case isFalse => cases h

/-- The value of a digit is its place among the digits of its case. -/
theorem hexDigitValue?_eq_some_iff :
    Hex.digitValue? c = some d ↔ lowerDigits[d]? = some c ∨ upperDigits[d]? = some c := by
  constructor
  · intro h
    have hascii : ∀ n < 128, ∀ d ∈ Hex.digitValue? (Char.ofNat n),
        lowerDigits[d]? = some (Char.ofNat n) ∨ upperDigits[d]? = some (Char.ofNat n) := by decide
    have hspelled := hascii c.toNat (toNat_lt_of_hexDigitValue? h) d
    rw [Char.ofNat_toNat] at hspelled
    exact hspelled h
  · have hlower : ∀ d < 16, lowerDigits[d]?.bind Hex.digitValue? = some d := by decide
    have hupper : ∀ d < 16, upperDigits[d]?.bind Hex.digitValue? = some d := by decide
    rintro (h | h)
    · obtain ⟨hd, -⟩ := List.getElem?_eq_some_iff.mp h
      simpa [h] using hlower d hd
    · obtain ⟨hd, -⟩ := List.getElem?_eq_some_iff.mp h
      simpa [h] using hupper d hd

theorem digitValue?_eq_some_iff : digitValue? base c = some d ↔ IsDigit base c d := by
  rw [digitValue?, Option.filter_eq_some_iff, hexDigitValue?_eq_some_iff, decide_eq_true_iff]
  exact ⟨fun h => ⟨h.2, h.1⟩, fun h => ⟨h.spelled, h.lt⟩⟩

theorem IsDigit.ne_plus (h : IsDigit base c d) : c ≠ '+' := by
  rintro rfl
  have hplus : digitValue? base '+' = none := rfl
  rw [digitValue?_eq_some_iff.mpr h] at hplus
  cases hplus

/-! ### Digits from the left -/

/-- The number that digits make behind those read before. -/
def accumulate (base seen : Nat) (ds : List Nat) : Nat :=
  ds.foldl (fun n d => n * base + d) seen

@[simp] theorem accumulate_nil (base seen : Nat) : accumulate base seen [] = seen := rfl

@[simp] theorem accumulate_cons (base seen d : Nat) (ds : List Nat) :
    accumulate base seen (d :: ds) = accumulate base (seen * base + d) ds := rfl

/-- Read from the left, digits make the number that they denote by their places. -/
theorem accumulate_zero (base : Nat) (ds : List Nat) :
    accumulate base 0 ds = Nat.ofDigits base ds.reverse := by
  have hstep : (fun n d => n * base + d) = fun n d => d + base * n := by
    funext n d
    rw [Nat.add_comm, Nat.mul_comm]
  rw [Nat.ofDigits_eq_foldr, List.foldr_reverse, accumulate, hstep]
  rfl

/-- More digits make no smaller number. -/
theorem le_accumulate (h : List.Forall₂ (IsDigit base) cs ds) (seen : Nat) :
    seen ≤ accumulate base seen ds := by
  induction h generalizing seen with
  | nil => rw [accumulate_nil]
  | cons hd _ ih =>
    have hbase : 0 < base := Nat.zero_lt_of_lt hd.lt
    exact Nat.le_trans (Nat.le_add_right_of_le (Nat.le_mul_of_pos_right seen hbase)) (ih _)

/-- Digits are read as the number that they make, unless it is above the limit.  The reading then
stops at the first digit with which it is. -/
theorem scan_of_digits (h : List.Forall₂ (IsDigit base) cs ds) (hseen : seen ≤ limit) :
    scan base limit seen cs
      = if accumulate base seen ds ≤ limit then .ok (accumulate base seen ds)
        else .error .tooLarge := by
  induction h generalizing seen with
  | nil => rw [scan_nil, accumulate_nil, if_pos hseen]
  | @cons c d cs ds hd hds ih =>
    rw [scan, digitValue?_eq_some_iff.mpr hd]
    dsimp only
    by_cases hnext : seen * base + d ≤ limit
    · rw [if_pos hnext, ih hnext, accumulate_cons]
    · have hlarge : ¬ accumulate base (seen * base + d) ds ≤ limit := fun hle =>
        hnext (Nat.le_trans (le_accumulate hds _) hle)
      rw [if_neg hnext, accumulate_cons, if_neg hlarge]

/-- What is read to the end are digits. -/
theorem digits_of_scan (h : scan base limit seen cs = .ok n) :
    ∃ ds, List.Forall₂ (IsDigit base) cs ds ∧ accumulate base seen ds = n := by
  induction cs generalizing seen with
  | nil =>
    cases h
    exact ⟨[], .nil, rfl⟩
  | cons c cs ih =>
    rw [scan] at h
    split at h
    case h_1 => cases h
    case h_2 d hd =>
      split at h
      case isTrue =>
        obtain ⟨ds, hds, hn⟩ := ih h
        exact ⟨d :: ds, .cons (digitValue?_eq_some_iff.mp hd) hds, hn⟩
      case isFalse => cases h

/-- Reading digits never ends for want of them. -/
theorem scan_ne_empty (base limit seen : Nat) (cs : List Char) :
    scan base limit seen cs ≠ .error .empty := by
  induction cs generalizing seen with
  | nil => simp
  | cons c cs ih =>
    rw [scan]
    split
    · simp
    · split
      · exact ih _
      · simp

/-! ### Unsigned numerals -/

theorem read_signed (hne : cs ≠ []) : read base limit ('+' :: cs) = scan base limit 0 cs := by
  obtain ⟨c, cs, rfl⟩ := List.exists_cons_of_ne_nil hne
  rfl

theorem read_plain (hc : c ≠ '+') : read base limit (c :: cs) = scan base limit 0 (c :: cs) := by
  unfold read
  split
  all_goals simp_all

theorem Digits.scan (h : Digits base cs n) :
    scan base limit 0 cs = if n ≤ limit then .ok n else .error .tooLarge := by
  obtain ⟨ds, hds, rfl⟩ := h.denoted
  rw [← accumulate_zero]
  exact scan_of_digits hds (Nat.zero_le limit)

/-- **A numeral is read as the number that it denotes**, unless that is above the limit. -/
theorem read_of_unsigned (h : Unsigned base cs n) :
    read base limit cs = if n ≤ limit then .ok n else .error .tooLarge := by
  cases h with
  | plain h =>
    obtain ⟨c, rest, rfl⟩ := List.exists_cons_of_ne_nil h.nonempty
    obtain ⟨ds, hds, -⟩ := h.denoted
    cases hds with
    | cons hd _ => rw [read_plain hd.ne_plus, h.scan]
  | signed h => rw [read_signed h.nonempty, h.scan]

/-- What does not come down to digits is nothing at all, or a sign alone. -/
theorem read_cases (base limit : Nat) (s : List Char) :
    (s = [] ∧ read base limit s = .error .empty)
      ∨ (s = ['+'] ∧ read base limit s = .error .invalidDigit)
      ∨ ∃ cs, cs ≠ [] ∧ (s = cs ∨ s = '+' :: cs) ∧ read base limit s = scan base limit 0 cs := by
  match s with
  | [] => exact .inl ⟨rfl, rfl⟩
  | c :: cs =>
    right
    by_cases hc : c = '+'
    · subst hc
      by_cases hne : cs = []
      · subst hne
        exact .inl ⟨rfl, rfl⟩
      · exact .inr ⟨cs, hne, .inr rfl, read_signed hne⟩
    · exact .inr ⟨c :: cs, List.cons_ne_nil c cs, .inl rfl, read_plain hc⟩

/-- **Nothing else is read.** -/
theorem unsigned_of_read (h : read base limit cs = .ok n) : Unsigned base cs n := by
  rcases read_cases base limit cs with ⟨-, hread⟩ | ⟨-, hread⟩ | ⟨cs', hne, hsign, hread⟩
  · rw [hread] at h
    cases h
  · rw [hread] at h
    cases h
  · obtain ⟨ds, hds, hn⟩ := digits_of_scan (hread.symm.trans h)
    have hdigits : Digits base cs' n := ⟨hne, ds, hds, (accumulate_zero base ds).symm.trans hn⟩
    rcases hsign with rfl | rfl
    · exact .plain hdigits
    · exact .signed hdigits

/-- **What is read within the limit is a numeral of it.** -/
theorem read_eq_ok_iff : read base limit cs = .ok n ↔ Unsigned base cs n ∧ n ≤ limit := by
  constructor
  · intro h
    have hunsigned := unsigned_of_read h
    rw [read_of_unsigned hunsigned] at h
    split at h
    case isTrue hle => exact ⟨hunsigned, hle⟩
    case isFalse => cases h
  · rintro ⟨h, hle⟩
    rw [read_of_unsigned h, if_pos hle]

/-- There is nothing to read only in the empty text. -/
theorem read_eq_empty_iff : read base limit cs = .error .empty ↔ cs = [] := by
  constructor
  · intro h
    rcases read_cases base limit cs with ⟨hnil, -⟩ | ⟨-, hread⟩ | ⟨cs', -, -, hread⟩
    · exact hnil
    · rw [hread] at h
      cases h
    · exact absurd (hread.symm.trans h) (scan_ne_empty base limit 0 cs')
  · rintro rfl
    rfl

/-! ### Bytes -/

section

variable {α β : Type} {f : α → β} {x : Except Failure α}

theorem map_eq_ok_iff {b : β} : f <$> x = .ok b ↔ ∃ a, x = .ok a ∧ f a = b := by
  cases x <;> simp [Functor.map, Except.map]

theorem map_eq_error_iff {e : Failure} : f <$> x = .error e ↔ x = .error e := by
  cases x <;> simp [Functor.map, Except.map]

end

/-- Two decimal digits do not look like a prefix. -/
theorem not_unsigned_prefixed {x : Char} (hx : x = 'x' ∨ x = 'X') (cs : List Char) (n : Nat) :
    ¬ Unsigned 10 ('0' :: x :: cs) n := by
  intro h
  cases h with
  | plain h =>
    obtain ⟨ds, hds, -⟩ := h.denoted
    obtain ⟨_, _, -, hrest, -⟩ := List.forall₂_cons_left_iff.mp hds
    obtain ⟨d, _, hd, -, -⟩ := List.forall₂_cons_left_iff.mp hrest
    have hnone : digitValue? 10 x = none := by rcases hx with rfl | rfl <;> rfl
    rw [digitValue?_eq_some_iff.mpr hd] at hnone
    cases hnone

/-- A byte is read as an unsigned number: behind its prefix in hexadecimal, or in decimal. -/
theorem exists_read (s : List Char) : ∃ base cs,
    byte s = UInt8.ofNat <$> read base 255 cs
      ∧ (∀ n, OfByte s n ↔ Unsigned base cs n)
      ∧ (cs = [] ↔ s = [] ∨ s = ['0', 'x'] ∨ s = ['0', 'X']) := by
  by_cases hprefix : ∃ x cs, (x = 'x' ∨ x = 'X') ∧ s = '0' :: x :: cs
  · obtain ⟨x, cs, hx, rfl⟩ := hprefix
    refine ⟨16, cs, ?_, ?_, ?_⟩
    · rcases hx with rfl | rfl <;> rfl
    · intro n
      constructor
      · intro h
        cases h with
        | decimal h => exact absurd h (not_unsigned_prefixed hx cs n)
        | hexadecimal _ h => exact h
      · exact .hexadecimal hx
    · rcases hx with rfl | rfl <;> simp
  · refine ⟨10, s, ?_, ?_, ?_⟩
    · unfold byte
      split
      case h_1 cs => exact absurd ⟨'x', cs, .inl rfl, rfl⟩ hprefix
      case h_2 cs => exact absurd ⟨'X', cs, .inr rfl, rfl⟩ hprefix
      case h_3 => rfl
    · intro n
      constructor
      · intro h
        cases h with
        | decimal h => exact h
        | hexadecimal hx h => exact absurd ⟨_, _, hx, rfl⟩ hprefix
      · exact .decimal
    · constructor
      · exact .inl
      · rintro (h | h | h)
        · exact h
        · exact absurd ⟨'x', [], .inl rfl, h⟩ hprefix
        · exact absurd ⟨'X', [], .inr rfl, h⟩ hprefix

/-- **The words that stand for a byte are its numerals**: digits in decimal, or in hexadecimal of
either case behind `0x` or `0X`, with or without a plus sign and with any number of zeros in front.
Only the empty word and a bare prefix have nothing to read, and a numeral of a number above 255 is
refused for being too large. -/
theorem byte_eq_ok_iff (s : String) :
    (∀ b : UInt8, byte s.toList = .ok b ↔ OfByte s.toList b.toNat)
      ∧ (byte s.toList = .error .empty ↔ s = "" ∨ s = "0x" ∨ s = "0X")
      ∧ ∀ n, OfByte s.toList n → 255 < n → byte s.toList = .error .tooLarge := by
  obtain ⟨base, cs, hbyte, hnumeral, hempty⟩ := exists_read s.toList
  rw [hbyte]
  refine ⟨?_, ?_, ?_⟩
  · intro b
    have hb : b.toNat ≤ 255 := Nat.le_of_lt_succ b.toNat_lt
    rw [hnumeral, map_eq_ok_iff]
    constructor
    · rintro ⟨n, hread, rfl⟩
      obtain ⟨hunsigned, hle⟩ := read_eq_ok_iff.mp hread
      rwa [UInt8.toNat_ofNat_of_lt' (Nat.lt_succ_of_le hle)]
    · intro h
      exact ⟨b.toNat, read_eq_ok_iff.mpr ⟨h, hb⟩, UInt8.ofNat_toNat⟩
  · have hwords : ∀ t : String, s = t ↔ s.toList = t.toList := fun t => String.toList_inj.symm
    rw [map_eq_error_iff, read_eq_empty_iff, hempty, hwords "", hwords "0x", hwords "0X"]
    rfl
  · intro n h hlarge
    rw [read_of_unsigned ((hnumeral n).mp h), if_neg (Nat.not_le.mpr hlarge)]
    rfl

/-- The largest byte in hexadecimal of both cases, and the number behind it in decimal, both with a
sign and zeros in front. -/
theorem byte_eq_ok_iff_largest :
    OfByte "0X+00fF".toList 255 ∧ OfByte "+000256".toList 256 ∧ 255 < 256
      ∧ byte "+000256".toList = .error .tooLarge := by
  have hread : read 10 256 "+000256".toList = .ok 256 := by rfl
  have hnumeral : OfByte "+000256".toList 256 := .decimal (unsigned_of_read hread)
  obtain ⟨hlargest, -, -⟩ := byte_eq_ok_iff "0X+00fF"
  obtain ⟨-, -, hlarge⟩ := byte_eq_ok_iff "+000256"
  exact ⟨(hlargest 255).mp (by rfl), hnumeral, by decide, hlarge 256 hnumeral (by decide)⟩

end ClockChip.Numeral
