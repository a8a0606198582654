/-!
# The binary form of saved values

Saved values are laid out one after the other without padding.  Numbers are little endian and of
fixed width; a list of bytes is its length in eight bytes and then the bytes; a choice is its
number in four bytes.  A decoder takes what it needs from the front and leaves the rest, so that
bytes behind a complete value do no harm.

## Main definitions

* `littleEndian`, `ofLittleEndian`: numbers as bytes.
* `Encoding.*`: the bytes of the basic values.
* `DecodeError`: why bytes are not a value.
* `Decoder`, `Decoder.*`: reading the basic values from the front of a list.

## Main results

* `ofLittleEndian_littleEndian`: a number that fits its width reads back.
-/

namespace ClockChip

/-- A number in `width` bytes, the least significant first. -/
def littleEndian : (width n : Nat) → List UInt8
  | 0, _ => []
  | width + 1, n => UInt8.ofNat n :: littleEndian width (n / 256)

/-- The number that little-endian bytes stand for. -/
def ofLittleEndian : List UInt8 → Nat
  | [] => 0
  | b :: bs => b.toNat + 256 * ofLittleEndian bs

@[simp] theorem length_littleEndian (width n : Nat) : (littleEndian width n).length = width := by
  induction width generalizing n with
  | zero => rfl
  | succ width ih => simp [littleEndian, ih]

theorem ofLittleEndian_littleEndian (width n : Nat) :
    ofLittleEndian (littleEndian width n) = n % Nat.pow 256 width := by
  induction width generalizing n with
  | zero => exact (Nat.mod_one n).symm
  | succ width ih =>
    have low : (UInt8.ofNat n).toNat = n % 256 := rfl
    show (UInt8.ofNat n).toNat + 256 * ofLittleEndian (littleEndian width (n / 256))
      = n % (Nat.pow 256 width * 256)
    rw [ih, low, Nat.mul_comm (Nat.pow 256 width), Nat.mod_mul]

namespace Encoding

/-- A truth value is one byte. -/
def bool (b : Bool) : List UInt8 := [if b then 1 else 0]

/-- The number of a choice takes four bytes. -/
def variant (n : Nat) : List UInt8 := littleEndian 4 n

/-- A count takes eight bytes. -/
def count (n : Nat) : List UInt8 := littleEndian 8 n

/-- A signed 64-bit number takes eight bytes, in two's complement. -/
def int64 (x : Int64) : List UInt8 := littleEndian 8 x.toUInt64.toNat

/-- A list of bytes follows its length. -/
def bytes (bs : List UInt8) : List UInt8 := count bs.length ++ bs

/-- A fixed number of bytes needs no length. -/
def vector {n : Nat} (v : Vector UInt8 n) : List UInt8 := v.toList

end Encoding

/-- Why bytes are not a value. -/
inductive DecodeError where
  /-- The bytes end within the value. -/
  | endOfData
  /-- A byte is no truth value. -/
  | notBool (found : UInt8)
  /-- A number is none of the `count` choices. -/
  | notVariant (found count : Nat)
  deriving DecidableEq, Repr

/-- The wording of a decoding error. -/
def DecodeError.message : DecodeError → String
  | endOfData => "io error: unexpected end of file"
  | notBool found =>
    "invalid u8 while decoding bool, expected 0 or 1, found " ++ toString found.toNat
  | notVariant found count =>
    "invalid value: integer `" ++ toString found ++ "`, expected variant index 0 <= i < "
      ++ toString count

/-- A reader of values from the front of a list of bytes. -/
abbrev Decoder := StateT (List UInt8) (Except DecodeError)

namespace Decoder

/-- Takes `n` bytes. -/
def take (n : Nat) : Decoder (List UInt8) := fun bs =>
  if n ≤ bs.length then .ok (bs.take n, bs.drop n) else .error .endOfData

/-- Takes one byte. -/
def byte : Decoder UInt8
  | [] => .error .endOfData
  | b :: bs => .ok (b, bs)

/-- Fails. -/
def fail {α : Type} (e : DecodeError) : Decoder α := fun _ => .error e

/-- Reads a truth value. -/
def bool : Decoder Bool := do
  let b ← byte
  if b = 0 then return false
  else if b = 1 then return true
  else fail (.notBool b)

/-- Reads the number of one of the given choices. -/
def variant {α : Type} (choices : List α) : Decoder α := do
  let n ← ofLittleEndian <$> take 4
  match choices[n]? with
  | some a => return a
  | none => fail (.notVariant n choices.length)

/-- Reads a count. -/
def count : Decoder Nat := ofLittleEndian <$> take 8

/-- Reads a signed 64-bit number. -/
def int64 : Decoder Int64 := do
  let n ← ofLittleEndian <$> take 8
  return (UInt64.ofNat n).toInt64

/-- Reads a list of bytes behind its length. -/
def bytes : Decoder (List UInt8) := do
  let n ← count
  take n

/-- Reads a fixed number of bytes. -/
def vector (n : Nat) : Decoder (Vector UInt8 n) := fun bs =>
  if h : n ≤ bs.length then
    .ok (⟨(bs.take n).toArray, by simp [h]⟩, bs.drop n)
  else .error .endOfData

/-- Reads a value and forgets what follows it. -/
def decode {α : Type} (d : Decoder α) (bs : List UInt8) : Except DecodeError α :=
  Prod.fst <$> d.run bs

end Decoder

end ClockChip
