import ClockChip.Proofs.Byte.Decoding

/-!
# Bytes that a value was read from

The binary form of a value is the only one: whatever a decoder takes from the front of some bytes
are the bytes that the value is encoded in.  There are no spare forms of a truth value, a choice has
one number, and a number of fixed width has no other digits.  What follows a value is left alone and
is not looked at.

A decoder of several values is taken apart step by step, in the order in which it reads them.
Numbers and lists of bytes have no forms that are refused: reading them fails only where the bytes
end.

## Main definitions

* `Decoder.TakesOnly`: a decoder takes nothing but encodings.
* `Decoder.FailsAtEnd`: a decoder fails only where the bytes end.

## Main results

* `littleEndian_ofLittleEndian`: the bytes of a number are those that it was read from.
* `Decoder.run_bind_eq_ok`, `Decoder.run_pure_eq_ok`: a run that succeeded, step by step.
* `Decoder.takesOnly_bool`, `Decoder.takesOnly_byte`, `Decoder.takesOnly_variant`,
  `Decoder.takesOnly_count`, `Decoder.takesOnly_int64`, `Decoder.takesOnly_bytes`,
  `Decoder.takesOnly_vector`: the basic values.
* `Decoder.FailsAtEnd.bind`: decoders one after the other fail where one of them does.
-/

namespace ClockChip

/-! ### Numbers -/

/-- The bytes of a number are those that it was read from. -/
theorem littleEndian_ofLittleEndian (bs : List UInt8) :
    littleEndian bs.length (ofLittleEndian bs) = bs := by
  induction bs with
  | nil => rfl
  | cons b bs ih =>
    have hlt : b.toNat < 256 := b.toNat_lt
    have hlow : UInt8.ofNat (b.toNat + 256 * ofLittleEndian bs) = b := by
      apply UInt8.toNat_inj.mp
      rw [UInt8.toNat_ofNat', Nat.add_mul_mod_self_left, Nat.mod_eq_of_lt hlt]
    have hhigh : (b.toNat + 256 * ofLittleEndian bs) / 256 = ofLittleEndian bs := by omega
    rw [ofLittleEndian, List.length_cons, littleEndian, hlow, hhigh, ih]

theorem ofLittleEndian_lt (bs : List UInt8) : ofLittleEndian bs < Nat.pow 256 bs.length := by
  induction bs with
  | nil => exact Nat.one_pos
  | cons b bs ih =>
    have hlt : b.toNat < 256 := b.toNat_lt
    show b.toNat + 256 * ofLittleEndian bs < Nat.pow 256 bs.length * 256
    omega

namespace Decoder

variable {α β : Type} {bs rest : List UInt8}

/-! ### Runs that succeeded -/

/-- A run of one decoder behind another succeeded: both did, the second on what the first left. -/
theorem run_bind_eq_ok {d : Decoder α} {k : α → Decoder β} {b : β} :
    (d >>= k).run bs = .ok (b, rest)
      ↔ ∃ a mid, d.run bs = .ok (a, mid) ∧ (k a).run mid = .ok (b, rest) := by
  rw [StateT.run_bind]
  rcases d.run bs with e | ⟨a, mid⟩
  · constructor
    · intro h
      cases h
    · rintro ⟨_, _, h, -⟩
      cases h
  · constructor
    · intro h
      exact ⟨a, mid, rfl, h⟩
    · rintro ⟨_, _, hd, hk⟩
      cases hd
      exact hk

theorem run_pure_eq_ok {a b : α} :
    (pure a : Decoder α).run bs = .ok (b, rest) ↔ a = b ∧ bs = rest := by
  constructor
  · intro h
    cases h
    exact ⟨rfl, rfl⟩
  · rintro ⟨rfl, rfl⟩
    rfl

theorem run_map_eq_ok {d : Decoder α} {f : α → β} {b : β} :
    (f <$> d).run bs = .ok (b, rest) ↔ ∃ a, d.run bs = .ok (a, rest) ∧ f a = b := by
  rw [map_eq_pure_bind, run_bind_eq_ok]
  constructor
  · rintro ⟨a, mid, hd, hpure⟩
    obtain ⟨hb, rfl⟩ := run_pure_eq_ok.mp hpure
    exact ⟨a, hd, hb⟩
  · rintro ⟨a, hd, hb⟩
    exact ⟨a, rest, hd, run_pure_eq_ok.mpr ⟨hb, rfl⟩⟩

/-- Whatever the decoder takes from the front are the bytes in which its value is encoded. -/
def TakesOnly (d : Decoder α) (encode : α → List UInt8) : Prop :=
  ∀ {bs a rest}, d.run bs = .ok (a, rest) → bs = encode a ++ rest

/-- A value that was read stands at the front of the bytes that it was read from. -/
theorem TakesOnly.encode_of_decode {d : Decoder α} {encode : α → List UInt8}
    (h : TakesOnly d encode) {a : α} (hdecode : d.decode bs = .ok a) : encode a <+: bs := by
  rw [decode] at hdecode
  rcases hrun : d.run bs with e | ⟨b, rest⟩
  · rw [hrun] at hdecode
    cases hdecode
  · rw [hrun] at hdecode
    cases hdecode
    exact ⟨rest, (h hrun).symm⟩

/-! ### Runs that failed -/

/-- A run of one decoder behind another failed: the first did, or the second on what it left. -/
theorem run_bind_eq_error {d : Decoder α} {k : α → Decoder β} {e : DecodeError} :
    (d >>= k).run bs = .error e
      ↔ d.run bs = .error e ∨ ∃ a mid, d.run bs = .ok (a, mid) ∧ (k a).run mid = .error e := by
  rw [StateT.run_bind]
  rcases d.run bs with e' | ⟨a, mid⟩
  · constructor
    · intro h
      cases h
      exact .inl rfl
    · rintro (h | ⟨_, _, h, -⟩)
      · cases h
        rfl
      · cases h
  · constructor
    · intro h
      exact .inr ⟨a, mid, rfl, h⟩
    · rintro (h | ⟨_, _, hd, hk⟩)
      · cases h
      · cases hd
        exact hk

/-- The only failure of the decoder is that the bytes end within its value. -/
def FailsAtEnd (d : Decoder α) : Prop :=
  ∀ bs e, d.run bs = .error e → e = .endOfData

theorem FailsAtEnd.pure (a : α) : FailsAtEnd (pure a) := by
  intro bs e h
  cases h

theorem FailsAtEnd.bind {d : Decoder α} {k : α → Decoder β} (hd : d.FailsAtEnd)
    (hk : ∀ a, (k a).FailsAtEnd) : (d >>= k).FailsAtEnd := by
  intro bs e h
  rcases run_bind_eq_error.mp h with h | ⟨a, mid, -, h⟩
  · exact hd bs e h
  · exact hk a mid e h

theorem FailsAtEnd.map {d : Decoder α} (hd : d.FailsAtEnd) (f : α → β) : (f <$> d).FailsAtEnd := by
  rw [map_eq_pure_bind]
  exact hd.bind fun a => .pure (f a)

theorem failsAtEnd_take (n : Nat) : (take n).FailsAtEnd := by
  intro bs e h
  change (if n ≤ bs.length then _ else _) = _ at h
  split at h
  case isTrue => cases h
  case isFalse =>
    cases h
    rfl

theorem failsAtEnd_count : count.FailsAtEnd := (failsAtEnd_take 8).map _

theorem failsAtEnd_int64 : int64.FailsAtEnd :=
  ((failsAtEnd_take 8).map _).bind fun _ => .pure _

theorem failsAtEnd_bytes : bytes.FailsAtEnd := failsAtEnd_count.bind failsAtEnd_take

/-! ### Bytes and numbers -/

theorem run_take_eq_ok {n : Nat} {as : List UInt8} (h : (take n).run bs = .ok (as, rest)) :
    as.length = n ∧ bs = as ++ rest := by
  change (if n ≤ bs.length then _ else _) = _ at h
  split at h
  case isTrue hle =>
    cases h
    exact ⟨List.length_take_of_le hle, (List.take_append_drop n bs).symm⟩
  case isFalse => cases h

theorem takesOnly_byte : TakesOnly byte fun b => [b] := by
  intro bs b rest h
  cases bs with
  | nil => cases h
  | cons first bs =>
    cases h
    rfl

/-- A number of fixed width is read from its own bytes, and it fits the width. -/
theorem run_number_eq_ok {width n : Nat}
    (h : (ofLittleEndian <$> take width).run bs = .ok (n, rest)) :
    bs = littleEndian width n ++ rest ∧ n < Nat.pow 256 width := by
  obtain ⟨as, htake, rfl⟩ := run_map_eq_ok.mp h
  obtain ⟨rfl, rfl⟩ := run_take_eq_ok htake
  exact ⟨by rw [littleEndian_ofLittleEndian], ofLittleEndian_lt as⟩

theorem takesOnly_count : TakesOnly count Encoding.count := fun h => (run_number_eq_ok h).1

theorem takesOnly_int64 : TakesOnly int64 Encoding.int64 := by
  intro bs x rest h
  obtain ⟨n, mid, hnumber, hpure⟩ := run_bind_eq_ok.mp h
  obtain ⟨rfl, rfl⟩ := run_pure_eq_ok.mp hpure
  obtain ⟨hbytes, hlt⟩ := run_number_eq_ok hnumber
  rw [hbytes, Encoding.int64, UInt64.toUInt64_toInt64, UInt64.toNat_ofNat_of_lt' hlt]

/-! ### Choices -/

theorem takesOnly_bool : TakesOnly bool Encoding.bool := by
  intro bs b rest h
  obtain ⟨val, mid, hbyte, h⟩ := run_bind_eq_ok.mp h
  rw [takesOnly_byte hbyte]
  -- of the bytes only zero and one are truth values
  split at h
  case isTrue hzero =>
    obtain ⟨rfl, rfl⟩ := run_pure_eq_ok.mp h
    rw [hzero]
    rfl
  case isFalse =>
    split at h
    case isTrue hone =>
      obtain ⟨rfl, rfl⟩ := run_pure_eq_ok.mp h
      rw [hone]
      rfl
    case isFalse => cases h

/-- Among distinct choices a choice has one number, and it is read from the bytes of that. -/
theorem takesOnly_variant [DecidableEq α] {choices : List α} (hdistinct : choices.Nodup) :
    TakesOnly (variant choices) fun a => Encoding.variant (choices.idxOf a) := by
  intro bs a rest h
  obtain ⟨n, mid, hnumber, h⟩ := run_bind_eq_ok.mp h
  split at h
  case h_1 b hchoice =>
    obtain ⟨rfl, rfl⟩ := run_pure_eq_ok.mp h
    obtain ⟨hlt, rfl⟩ := List.getElem?_eq_some_iff.mp hchoice
    have hbytes := (run_number_eq_ok hnumber).1
    rwa [← hdistinct.idxOf_getElem n hlt] at hbytes
  case h_2 => cases h

/-! ### Lists -/

theorem takesOnly_bytes : TakesOnly bytes Encoding.bytes := by
  intro bs as rest h
  obtain ⟨n, mid, hcount, htake⟩ := run_bind_eq_ok.mp h
  obtain ⟨rfl, rfl⟩ := run_take_eq_ok htake
  rw [takesOnly_count hcount, Encoding.bytes, List.append_assoc]

/-- A list that was read is no longer than can be counted. -/
theorem length_lt_of_run_bytes {as : List UInt8} (h : bytes.run bs = .ok (as, rest)) :
    as.length < countBound := by
  obtain ⟨n, mid, hcount, htake⟩ := run_bind_eq_ok.mp h
  obtain ⟨rfl, -⟩ := run_take_eq_ok htake
  exact (run_number_eq_ok hcount).2

theorem takesOnly_vector (n : Nat) : TakesOnly (vector n) Encoding.vector := by
  intro bs v rest h
  change (if h : n ≤ bs.length then _ else _) = _ at h
  split at h
  case isTrue =>
    cases h
    exact (List.take_append_drop n bs).symm
  case isFalse => cases h

end Decoder

end ClockChip
