import ClockChip.Byte.Numeral

/-!
# Numbers in a settings file

No setting is a number, but a file may hold other keys, and their values have to be well formed.
Integers are decimal, hexadecimal, octal or binary and fit 64 bits; a decimal one has no leading
zero.  A fraction or an exponent makes a number a floating point one, which must be finite.  Single
underscores may stand between digits.

## Main definitions

* `Digits.scan`: the digits at the front of a word.
* `Digits.isUnsigned`, `Digits.isSigned`: a whole word that is an integer.
* `FloatText`, `FloatText.isFinite`: a decimal fraction that rounds to a finite double.
-/

namespace ClockChip

namespace Digits

/-- The state of a scan: no digit yet, a leading zero, and an underscore last. -/
structure State where
  /-- Nothing has been seen. -/
  first : Bool
  /-- The first digit was a zero. -/
  leadingZero : Bool
  /-- The last character was an underscore. -/
  underscore : Bool

/-- The digits at the front of a word and what follows them; `none` if there are none, if an
underscore does not stand between digits, or if a leading zero is not allowed. -/
def scanFrom (base : Nat) (zeros : Bool) : State → List Char → Option (List Char × List Char)
  | st, [] => if st.first || st.underscore then none else some ([], [])
  | st, c :: cs =>
    if c = '0' ∧ st.first then
      push c (scanFrom base zeros { st with leadingZero := true, first := false } cs)
    else if (Numeral.digitValue? base c).isSome then
      if !st.first && st.leadingZero && !zeros then none
      else push c (scanFrom base zeros { st with underscore := false, first := false } cs)
    else if c = '_' ∧ st.first then none
    else if c = '_' ∧ st.underscore = false then
      scanFrom base zeros { st with underscore := true, first := false } cs
    else if st.first || st.underscore then none
    else some ([], c :: cs)
where
  /-- A digit in front of those that follow. -/
  push (c : Char) (r : Option (List Char × List Char)) : Option (List Char × List Char) :=
    r.map fun x => (c :: x.1, x.2)

/-- The digits at the front of a word, without underscores, and what follows them. -/
def scan (base : Nat) (zeros : Bool) (cs : List Char) : Option (List Char × List Char) :=
  scanFrom base zeros ⟨true, false, false⟩ cs

/-- The same behind an optional sign: whether it is a minus, the digits, and what follows. -/
def scanSigned (base : Nat) (zeros : Bool) : List Char → Option (Bool × List Char × List Char)
  | '-' :: cs => (scan base zeros cs).map fun x => (true, x)
  | '+' :: cs => (scan base zeros cs).map fun x => (false, x)
  | cs => (scan base zeros cs).map fun x => (false, x)

/-- The number that digits stand for. -/
def value (base : Nat) (cs : List Char) : Nat :=
  cs.foldl (fun n c => base * n + (Hex.digitValue? c).getD 0) 0

/-- The weight of the sign of a 64-bit integer. -/
def signBit : Nat := 9223372036854775808

/-- The word is an integer of the given base without a sign, and fits 64 bits. -/
def isUnsigned (base : Nat) (cs : List Char) : Bool :=
  match scan base true cs with
  | some (digits, []) => decide (value base digits < signBit)
  | _ => false

/-- The word is a decimal integer, with or without a sign, and fits 64 bits. -/
def isSigned (cs : List Char) : Bool :=
  match scanSigned 10 false cs with
  | some (true, digits, []) => decide (value 10 digits ≤ signBit)
  | some (false, digits, []) => decide (value 10 digits < signBit)
  | _ => false

end Digits

/-- A decimal fraction with an exponent. -/
structure FloatText where
  /-- The digits in front of the point. -/
  integral : List Char
  /-- The digits behind the point. -/
  fraction : List Char
  /-- The power of ten. -/
  exponent : Int

/-- The least magnitude that rounds to infinity: halfway between the largest double and the power
of two above it. -/
def doubleLimit : Nat := Nat.pow 2 1024 - Nat.pow 2 970

/-- The number rounds to a finite double.  The size of the number decides unless it has as many
digits as the limit has. -/
def FloatText.isFinite (f : FloatText) : Bool :=
  let digits := (f.integral ++ f.fraction).dropWhile (· == '0')
  let power := f.exponent - f.fraction.length
  let size : Int := digits.length + power
  -- the limit has 309 digits
  if digits = [] ∨ size < 309 then true
  else if 309 < size then false
  else if 0 ≤ power then decide (Digits.value 10 digits * Nat.pow 10 power.toNat < doubleLimit)
  else decide (Digits.value 10 digits < doubleLimit * Nat.pow 10 (-power).toNat)

end ClockChip
