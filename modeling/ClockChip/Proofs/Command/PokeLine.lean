import ClockChip.Command.Basic

/-!
# The command line of a poke

A poke without options is one word for the command, one for the address, and one for each value.
Words that stand for bytes start with no hyphen, so all of them are operands, in their order, and
nothing else is set.

## Main definitions

* `PokeLine`: such a command line with its bytes.

## Main results

* `Command.head?_of_byte?`: a word that stands for a byte starts with no hyphen.
* `PokeLine.parse_words`: **what such a command line stands for.**
-/

namespace ClockChip

/-- The words of a poke, and the bytes that they stand for. -/
structure PokeLine where
  /-- The word of the address. -/
  addressWord : String
  /-- The words of the values. -/
  valueWords : List String
  /-- The address. -/
  address : UInt8
  /-- The values. -/
  values : List UInt8
  /-- There is a value. -/
  nonempty : valueWords ≠ []
  /-- The first word stands for the address. -/
  address_eq : Command.byte? addressWord = some address
  /-- The others stand for the values, word for word. -/
  values_eq : valueWords.mapM Command.byte? = some values

namespace Command

/-- A word that stands for a byte starts with no hyphen. -/
theorem head?_of_byte? {word : String} {b : UInt8} (h : byte? word = some b) :
    word.toList.head? ≠ some '-' := by
  intro hhead
  obtain ⟨rest, hword⟩ : ∃ rest, word.toList = '-' :: rest := by
    cases hword : word.toList with
    | nil => simp [hword] at hhead
    | cons c rest =>
      rw [hword] at hhead
      cases hhead
      exact ⟨rest, rfl⟩
  have hnone : Numeral.byte ('-' :: rest) = .error .invalidDigit := rfl
  rw [byte?, hword, hnone] at h
  cases h

/-- Behind a poke a word that starts with no hyphen is an operand. -/
theorem readWord_of_plain {word : String} (h : word.toList.head? ≠ some '-')
    (operands : List String) :
    pokeLevel.readWord word ⟨[], [], operands, none, false⟩
      = .ok ⟨[], [], operands ++ [word], none, false⟩ := by
  have hhyphens : word.toList ≠ ['-', '-'] := by
    intro hword
    rw [hword] at h
    exact h rfl
  have hstarts : Level.startsOption word.toList = false := by
    rw [Level.startsOption]
    intro c cs hword
    rw [hword] at h
    exact h rfl
  rw [Level.readWord, if_neg (by simp), if_neg hhyphens, hstarts]
  rfl

/-- Words that start with no hyphen are all taken as operands. -/
theorem read_of_plain {words : List String} (h : ∀ word ∈ words, word.toList.head? ≠ some '-')
    (operands : List String) :
    pokeLevel.read words ⟨[], [], operands, none, false⟩
      = .ok (⟨[], [], operands ++ words, none, false⟩, none) := by
  induction words generalizing operands with
  | nil => rw [Level.read, List.append_nil]
  | cons word words ih =>
    have hends : pokeLevel.endsAt word ⟨[], [], operands, none, false⟩ = false := rfl
    rw [Level.read, hends, readWord_of_plain (h word (List.mem_cons_self ..))]
    simp only [Bool.false_eq_true, if_false]
    rw [ih (fun w hw => h w (List.mem_cons_of_mem word hw)), List.append_assoc]
    rfl

/-- Each word of a list that stands for bytes stands for a byte. -/
theorem exists_of_mapM {words : List String} {vals : List UInt8}
    (h : words.mapM byte? = some vals) : ∀ word ∈ words, ∃ b, byte? word = some b := by
  induction words generalizing vals with
  | nil => simp
  | cons word words ih =>
    rw [List.mapM_cons] at h
    obtain ⟨b, hb, h⟩ := Option.bind_eq_some_iff.mp h
    obtain ⟨bs, hbs, -⟩ := Option.bind_eq_some_iff.mp h
    intro w hw
    rcases List.mem_cons.mp hw with rfl | hw
    · exact ⟨b, hb⟩
    · exact ih hbs w hw

end Command

namespace PokeLine

/-- All words of the command line. -/
def words (l : PokeLine) : List String := "poke" :: l.addressWord :: l.valueWords

theorem parse_operands (l : PokeLine) :
    Command.parse "poke" (l.addressWord :: l.valueWords) = .ok (.poke l.address l.values) := by
  have hplain : ∀ word ∈ l.addressWord :: l.valueWords, word.toList.head? ≠ some '-' := by
    intro word hword
    rcases List.mem_cons.mp hword with rfl | hword
    · exact Command.head?_of_byte? l.address_eq
    · obtain ⟨b, hb⟩ := Command.exists_of_mapM l.values_eq word hword
      exact Command.head?_of_byte? hb
  obtain ⟨value, values, hvalues⟩ := List.exists_cons_of_ne_nil l.nonempty
  have hread : Command.pokeLevel.read (l.addressWord :: l.valueWords) .nothing
      = .ok (⟨[], [], l.addressWord :: l.valueWords, none, false⟩, none) :=
    Command.read_of_plain hplain []
  rw [Command.parse, if_neg (by decide), if_neg (by decide), if_pos rfl, hread]
  have hbytes := l.values_eq
  rw [hvalues] at hbytes ⊢
  dsimp only [bind, Except.bind]
  rw [l.address_eq, hbytes]
  rfl

/-- **A poke without options** writes its values under the standard settings. -/
theorem parse_words (l : PokeLine) :
    Invocation.parse l.words
      = .ok ⟨Invocation.standardConfigFile, none, none, false, .poke l.address l.values⟩ := by
  have hread : Command.topLevel.read l.words .nothing
      = .ok (.nothing, some ("poke", l.addressWord :: l.valueWords)) := rfl
  rw [Invocation.parse, hread]
  show (Command.parse "poke" (l.addressWord :: l.valueWords) >>= _) = _
  rw [l.parse_operands]
  rfl

end PokeLine

end ClockChip
