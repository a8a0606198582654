import ClockChip.Byte.Encoding

/-!
# Values read back from their bytes

A decoder reads a value from its bytes if it does so in front of anything else.  Stated in this
way the property passes from the parts of a value to the whole, in the order in which they are laid
out.

## Main definitions

* `Decoder.Reads`: a decoder takes exactly some bytes from the front and makes a value of them.
* `countBound`: what a count must be less than to be read back.

## Main results

* `Decoder.Reads.bind`: decoders one after the other read encodings one after the other.
* `Decoder.reads_number`, `Decoder.reads_bool`, `Decoder.reads_variant`, `Decoder.reads_count`,
  `Decoder.reads_int64`, `Decoder.reads_bytes`, `Decoder.reads_vector`: the basic values.
* `Decoder.Reads.decode`: bytes behind a complete value do no harm.
-/

namespace ClockChip

/-- A count that takes eight bytes is less than `2 ^ 64`. -/
def countBound : Nat := 18446744073709551616

namespace Decoder

variable {α β : Type}

/-- In front of anything else the decoder takes exactly the bytes `bs` and makes `a` of them. -/
def Reads (d : Decoder α) (bs : List UInt8) (a : α) : Prop :=
  ∀ rest, d.run (bs ++ rest) = .ok (a, rest)

theorem Reads.decode {d : Decoder α} {bs : List UInt8} {a : α} (h : Reads d bs a)
    (rest : List UInt8) : d.decode (bs ++ rest) = .ok a := by
  rw [Decoder.decode, h rest]
  rfl

theorem Reads.pure (a : α) : Reads (pure a) [] a := fun _ => rfl

/-- Decoders one after the other read encodings one after the other. -/
theorem Reads.bind {d : Decoder α} {k : α → Decoder β} {as bs : List UInt8} {a : α} {b : β}
    (ha : Reads d as a) (hb : Reads (k a) bs b) : Reads (d >>= k) (as ++ bs) b := by
  intro rest
  rw [StateT.run_bind, List.append_assoc, ha]
  exact hb rest

theorem Reads.map {d : Decoder α} {bs : List UInt8} {a : α} (h : Reads d bs a) (f : α → β) :
    Reads (f <$> d) bs (f a) := by
  intro rest
  rw [StateT.run_map, h]
  rfl

/-- The last of several values completes what is returned. -/
theorem Reads.last {d : Decoder α} {bs : List UInt8} {a : α} (h : Reads d bs a) (f : α → β) :
    Reads (d >>= fun a => Pure.pure (f a)) bs (f a) := by
  rw [← List.append_nil bs]
  exact h.bind (.pure (f a))

/-! ### Bytes and numbers -/

theorem reads_take (bs : List UInt8) : Reads (take bs.length) bs bs := by
  intro rest
  show (if bs.length ≤ (bs ++ rest).length then _ else _) = _
  rw [if_pos (by simp), List.take_left, List.drop_left]

theorem reads_byte (b : UInt8) : Reads byte [b] b := fun _ => rfl

/-- A number that fits its width is read back. -/
theorem reads_number {width n : Nat} (h : n < Nat.pow 256 width) :
    Reads (ofLittleEndian <$> take width) (littleEndian width n) n := by
  have hread := (reads_take (littleEndian width n)).map ofLittleEndian
  have hn : n % Nat.pow 256 width = n := Nat.mod_eq_of_lt h
  rwa [length_littleEndian, ofLittleEndian_littleEndian, hn] at hread

theorem reads_count {n : Nat} (h : n < countBound) : Reads count (Encoding.count n) n :=
  reads_number h

theorem reads_int64 (x : Int64) : Reads int64 (Encoding.int64 x) x := by
  have hlt : x.toUInt64.toNat < Nat.pow 256 8 := x.toUInt64.toNat_lt
  have hread := (reads_number hlt).map fun n => (UInt64.ofNat n).toInt64
  rwa [UInt64.ofNat_toNat, Int64.toInt64_toUInt64] at hread

/-! ### Choices -/

theorem reads_bool (b : Bool) : Reads bool (Encoding.bool b) b := by
  cases b <;> exact fun _ => rfl

/-- A choice is read back from its number. -/
theorem reads_variant {choices : List α} {n : Nat} {a : α} (ha : choices[n]? = some a)
    (h : n < Nat.pow 256 4) : Reads (variant choices) (Encoding.variant n) a := by
  intro rest
  rw [variant, Encoding.variant, StateT.run_bind, reads_number h]
  dsimp only [bind, Except.bind]
  rw [ha]
  rfl

/-! ### Lists -/

theorem reads_bytes {bs : List UInt8} (h : bs.length < countBound) :
    Reads bytes (Encoding.bytes bs) bs := (reads_count h).bind (reads_take bs)

theorem reads_vector {n : Nat} (v : Vector UInt8 n) : Reads (vector n) (Encoding.vector v) v := by
  intro rest
  have hlen : v.toList.length = n := v.length_toList
  have hle : n ≤ (v.toList ++ rest).length := by simp
  show (if h : n ≤ (v.toList ++ rest).length then _ else _) = _
  rw [dif_pos hle]
  refine congrArg Except.ok (Prod.ext (Vector.toList_inj.mp ?_) (List.drop_left' hlen))
  exact List.take_left' hlen

end Decoder

end ClockChip
