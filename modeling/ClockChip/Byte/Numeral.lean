import ClockChip.Byte.Hex

/-!
# Numerals on the command line

An unsigned number is written with an optional plus sign and one or more digits, any number of
leading zeros included.  A byte may also be written in hexadecimal behind `0x` or `0X`.

Digits are read from the left and the first one that cannot be taken decides the failure: a
character that is no digit, or a digit with which the number leaves its range.

## Main definitions

* `Numeral.Failure`: why a text is no number of the wanted range.
* `Numeral.scan`: the digits of a number below a limit.
* `Numeral.read`: the same behind an optional plus sign.
* `Numeral.byte`: a byte, decimal or hexadecimal.
-/

namespace ClockChip.Numeral

/-- Why a text is not a number of the wanted range. -/
inductive Failure where
  /-- There is nothing to read. -/
  | empty
  /-- A character is no digit, or a sign stands alone. -/
  | invalidDigit
  /-- The number is larger than the largest one allowed. -/
  | tooLarge
  deriving DecidableEq, Repr

/-- The wording of a failure. -/
def Failure.message : Failure → String
  | empty => "cannot parse integer from empty string"
  | invalidDigit => "invalid digit found in string"
  | tooLarge => "number too large to fit in target type"

/-- The value of a digit in base `base`. -/
def digitValue? (base : Nat) (c : Char) : Option Nat := (Hex.digitValue? c).filter (· < base)

/-- Reads digits to the end of the text, behind `seen`, the number read so far.  No number above
`limit` is passed on. -/
def scan (base limit : Nat) : (seen : Nat) → List Char → Except Failure Nat
  | seen, [] => .ok seen
  | seen, c :: cs =>
    match digitValue? base c with
    | none => .error .invalidDigit
    | some d => if seen * base + d ≤ limit then scan base limit (seen * base + d) cs
      else .error .tooLarge

/-- Reads an unsigned number of at most `limit`, with or without a plus sign. -/
def read (base limit : Nat) : List Char → Except Failure Nat
  | [] => .error .empty
  | ['+'] => .error .invalidDigit
  | '+' :: cs => scan base limit 0 cs
  | cs => scan base limit 0 cs

/-- Reads a byte: hexadecimal behind `0x` or `0X`, decimal otherwise. -/
def byte (s : List Char) : Except Failure UInt8 :=
  match s with
  | '0' :: 'x' :: cs => UInt8.ofNat <$> read 16 255 cs
  | '0' :: 'X' :: cs => UInt8.ofNat <$> read 16 255 cs
  | cs => UInt8.ofNat <$> read 10 255 cs

@[simp] theorem scan_nil (base limit seen : Nat) : scan base limit seen [] = .ok seen := rfl

@[simp] theorem read_nil (base limit : Nat) : read base limit [] = .error .empty := rfl

end ClockChip.Numeral
