/-!
# Two-digit hexadecimal

Registers and memory are shown as bytes of two lower-case hexadecimal digits.

## Main definitions

* `Hex.digit`, `Hex.digitValue?`: one digit and its value.
* `Hex.byte`: a byte as exactly two digits.
* `Hex.ofBytes`, `Hex.toBytes?`: a list of bytes as digits, and back.
* `Hex.short`: a number in as few digits as it takes.
-/

namespace ClockChip.Hex

/-- The lower-case digit of a number below sixteen. -/
def digit (n : Nat) : Char := if n < 10 then Char.ofNat (48 + n) else Char.ofNat (87 + n)

/-- The value of a digit of either case. -/
def digitValue? (c : Char) : Option Nat :=
  if '0' ≤ c ∧ c ≤ '9' then some (c.toNat - 48)
  else if 'a' ≤ c ∧ c ≤ 'f' then some (c.toNat - 87)
  else if 'A' ≤ c ∧ c ≤ 'F' then some (c.toNat - 55)
  else none

/-- A byte as two digits. -/
def byte (b : UInt8) : List Char := [digit (b.toNat / 16), digit (b.toNat % 16)]

/-- The digits of a list of bytes, two for each. -/
def ofBytes (bs : List UInt8) : List Char := bs.flatMap byte

/-- The bytes of a list of digit pairs; `none` for a lone digit or another character. -/
def toBytes? : List Char → Option (List UInt8)
  | [] => some []
  | [_] => none
  | hi :: lo :: rest => do
    let h ← digitValue? hi
    let l ← digitValue? lo
    let bs ← toBytes? rest
    return UInt8.ofNat (16 * h + l) :: bs

/-- A number without leading zeros. -/
def short (n : Nat) : List Char := Nat.toDigits 16 n

@[simp] theorem ofBytes_nil : ofBytes [] = [] := rfl

@[simp] theorem ofBytes_cons (b : UInt8) (bs : List UInt8) :
    ofBytes (b :: bs) = byte b ++ ofBytes bs := rfl

end ClockChip.Hex
