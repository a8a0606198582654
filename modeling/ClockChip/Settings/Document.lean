import ClockChip.Settings.Number
import ClockChip.Settings.Token

/-!
# The document of a settings file

A document is a sequence of sections.  Each holds keys with values, and all but the first stand
behind a header that names a table or one more element of an array of tables.  A key may be dotted,
which puts its value into a table of its own.

Only texts and truth values are ever used; of every other value the document keeps no more than
its kind, but it has to be well formed all the same.

## Main definitions

* `Value`, `Entries`, `Section`: documents.
* `Reader`: reading from a list of characters.
* `Reader.value`, `Reader.document`: values and whole documents.
* `Headers.consistent`: no header defines a table again.
-/

namespace ClockChip

/-- The name of a key or a table. -/
abbrev Name := List Char

/-- The value of a key. -/
inductive Value where
  /-- A quoted text. -/
  | text (s : List Char)
  /-- `true` or `false`. -/
  | truth (b : Bool)
  /-- An integer or a floating point number. -/
  | number
  /-- A date, a time, or both. -/
  | moment
  /-- An array. -/
  | array
  /-- A table written in braces. -/
  | braces
  /-- A table that dotted keys have put together. -/
  | dotted (entries : List (Name × Value))

/-- Keys with their values, in the order of the file. -/
abbrev Entries := List (Name × Value)

/-- A header and the entries behind it.  The first section of a document has no header. -/
structure Section where
  /-- The names of the header. -/
  header : List Name
  /-- The header adds an element to an array of tables. -/
  element : Bool
  /-- The entries. -/
  entries : Entries

namespace Entries

/-- The value behind the remaining names of a dotted key. -/
def nest : List Name → Value → Value
  | [], v => v
  | name :: names, v => .dotted [(name, nest names v)]

/-- Adds the value of a dotted key below the first of its names.  The name may have a dotted table
already, and no other value if more names follow. -/
def insert : Name → List Name → Value → Entries → Option Entries
  | name, [], v, entries => some (entries ++ [(name, v)])
  | name, next :: names, v, entries => insertBelow name next names v entries
where
  /-- Looks for the dotted table of the first name, among entries that are walked through. -/
  insertBelow (name next : Name) (names : List Name) (v : Value) : Entries → Option Entries
    | [] => some [(name, nest (next :: names) v)]
    | (key, old) :: rest =>
      if key = name then
        match old with
        | .dotted inner => (insert next names v inner).map fun inner => (key, .dotted inner) :: rest
        | _ => none
      else (insertBelow name next names v rest).map ((key, old) :: ·)

end Entries

/-! ### Reading tokens -/

/-- A reader of the characters of a file. -/
abbrev Reader := StateT (List Char) Option

namespace Reader

/-- The characters are not what they should be. -/
def fail {α : Type} : Reader α := fun _ => none

/-- Takes the next token; `none` at the end. -/
def next : Reader (Option Token) := fun cs =>
  match Token.next cs with
  | .nothing => some (none, [])
  | .token t rest => some (some t, rest)
  | .invalid => none

/-- Looks at the next token. -/
def peek : Reader (Option Token) := fun cs => (next cs).map fun x => (x.1, cs)

/-- Takes the next token if it is the given one, and tells whether it was. -/
def eat (t : Token) : Reader Bool := do
  if (← peek) = some t then
    let _ ← next
    return true
  else return false

/-- Takes the next token, which has to be the given one. -/
def expect (t : Token) : Reader Unit := do
  if (← next) = some t then return () else fail

/-- Drops spaces and tabs. -/
def blanks : Reader Unit := fun cs => some ((), cs.dropWhile Token.isBlank)

/-- Takes the end of a line or of the file. -/
def lineEnd : Reader Unit := do
  match ← next with
  | none => return ()
  | some .newline => return ()
  | some _ => fail

/-- Takes a comment, if there is one, and then the end of a line in any case. -/
def restOfLine : Reader Unit := do
  blanks
  let _ ← eat .comment
  lineEnd

/-- Drops blanks, comments and line ends.  In a comment, a character that may not stand there is
an error. -/
def dropLines : (inComment : Bool) → List Char → Option (List Char)
  | _, [] => some []
  | true, c :: cs =>
    if c = '\n' then dropLines false cs
    else if Token.isCommentChar c then dropLines true cs
    else none
  | false, c :: cs =>
    if Token.isBlank c || c == '\n' then dropLines false cs
    else if c = '#' then dropLines true cs
    else some (c :: cs)

/-- Drops blanks, comments and line ends. -/
def lines : Reader Unit := fun cs => (dropLines false cs).map fun rest => ((), rest)

/-! ### Keys -/

/-- A name: a word, or a quoted text on one line. -/
def name : Reader Name := do
  match ← next with
  | some (.word text) => return text
  | some (.quoted text false) => return text
  | _ => fail

/-- The names of a dotted key behind the first one.  The number bounds how many there can be. -/
def moreNames : Nat → Reader (List Name)
  | 0 => return []
  | n + 1 => do
    blanks
    if ← eat .period then
      blanks
      let first ← name
      return first :: (← moreNames n)
    else return []

/-- How many characters are left. -/
def left : Reader Nat := fun cs => some (cs.length, cs)

/-- A dotted key: its first name and the others. -/
def key : Reader (Name × List Name) := do
  let first ← name
  let others ← moreNames (← left)
  return (first, others)

/-! ### Numbers and dates -/

/-- The digits behind a point, of which the word behind it is made, and what follows them. -/
def fractionDigits (suffix : List Char) :
    (fraction : Option (List Char)) → Option (List Char × List Char)
  | none => some ([], suffix)
  | some after => if suffix = [] then Digits.scan 10 true after else none

/-- The digits of an exponent behind its letter, and whether they have a minus sign.  A plus sign
ends the word, so that the digits may be in a word of their own. -/
def exponentDigits (power : List Char) : Reader (Bool × List Char) := do
  let scanned ←
    if power = [] then do
      let _ ← eat .plus
      match ← next with
      | some (.word w) => pure ((Digits.scan 10 true w).map fun x => (false, x))
      | _ => fail
    else pure (Digits.scanSigned 10 true power)
  match scanned with
  | some (negative, digits, []) => return (negative, digits)
  | _ => fail

/-- The exponent that what follows the digits of a number stands for; zero if nothing does. -/
def exponent : List Char → Reader Int
  | [] => return 0
  | c :: power => do
    if c = 'e' ∨ c = 'E' then
      let (negative, digits) ← exponentDigits power
      let size : Int := Digits.value 10 digits
      return if negative then -size else size
    else fail

/-- A number with a fraction or an exponent, of which the first word is `s`; `fraction` is the word
behind the point, if there is one. -/
def float (s : List Char) (fraction : Option (List Char)) : Reader Unit := do
  let some (_, integral, suffix) := Digits.scanSigned 10 false s | fail
  let some (digits, suffix) := fractionDigits suffix fraction | fail
  let power ← exponent suffix
  if FloatText.isFinite ⟨integral, digits, power⟩ then return () else fail

/-- A number that starts with the word `s`. -/
def number (s : List Char) : Reader Unit := do
  match s with
  | '0' :: 'x' :: digits => if Digits.isUnsigned 16 digits then return () else fail
  | '0' :: 'o' :: digits => if Digits.isUnsigned 8 digits then return () else fail
  | '0' :: 'b' :: digits => if Digits.isUnsigned 2 digits then return () else fail
  | _ =>
    if s.contains 'e' || s.contains 'E' then float s none
    else if ← eat .period then
      match ← next with
      | some (.word after) => float s (some after)
      | _ => fail
    else if s ∈ ["inf".toList, "-inf".toList, "nan".toList, "-nan".toList] then return ()
    else if Digits.isSigned s then return ()
    else fail

/-- Takes a word. -/
def word : Reader Unit := do
  match ← next with
  | some (.word _) => return ()
  | _ => fail

/-- Takes a token and a word behind it, or neither. -/
def optional (t : Token) : Reader Unit := do
  if ← eat t then word else return ()

/-- Takes a time of day that a single blank separates from its date. -/
def separatedTime : Reader Unit := fun cs =>
  match Token.next cs with
  | .token (.blank [' ']) rest =>
    match Token.next rest with
    | .token (.word _) rest => some ((), rest)
    | _ => some ((), cs)
  | _ => some ((), cs)

/-- What follows the first word of a date or time, `hour` telling whether that word and a colon
behind it have been the hour.  Days and hours need not be possible ones. -/
def moment (hour : Bool) : Reader Unit := do
  separatedTime
  let timed ← if hour then pure true else eat .colon
  if timed then
    word
    expect .colon
    word
    optional .period
    optional .plus
    optional .colon
  else return ()

/-- The word looks like a date: it has the letter in front of a time, or a hyphen that is neither a
sign nor part of an exponent. -/
def looksLikeDate (s : List Char) : Bool :=
  s.contains 'T' || s.contains 't'
    || (s.tail.contains '-' && !hasPair 'e' s && !hasPair 'E' s)
where
  /-- The letter stands in front of a hyphen somewhere. -/
  hasPair (c : Char) : List Char → Bool
    | a :: b :: rest => (a == c && b == '-') || hasPair c (b :: rest)
    | _ => false

/-- A number or a date that starts with the word `s`. -/
def numberOrMoment (s : List Char) : Reader Value := do
  if looksLikeDate s then
    moment false
    return .moment
  else if ← eat .colon then
    moment true
    return .moment
  else
    number s
    return .number

/-- A value that starts with a bare word. -/
def bare (s : List Char) : Reader Value := do
  if s = "true".toList then return .truth true
  else if s = "false".toList then return .truth false
  else if s = "inf".toList ∨ s = "nan".toList then numberOrMoment s
  else
    match s with
    | c :: _ => if c = '-' ∨ c.isDigit then numberOrMoment s else fail
    | [] => fail

/-! ### Values -/

mutual

/-- A value.  The number bounds how deep arrays and tables may nest. -/
def value : Nat → Reader Value
  | 0 => fail
  | fuel + 1 => do
    match ← next with
    | some (.quoted text _) => return .text text
    | some (.word s) => bare s
    | some .plus =>
      match ← next with
      | some (.word s) =>
        number s
        return .number
      | _ => fail
    | some .leftBracket =>
      items fuel
      return .array
    | some .leftBrace =>
      blanks
      if ← eat .rightBrace then return .braces
      else
        members fuel []
        return .braces
    | _ => fail

/-- The values of an array and its closing bracket. -/
def items : Nat → Reader Unit
  | 0 => fail
  | fuel + 1 => do
    lines
    if ← eat .rightBracket then return ()
    else
      let _ ← value fuel
      lines
      if ← eat .comma then items fuel
      else
        lines
        expect .rightBracket

/-- The entries of a table in braces, of which some have been read, and its closing brace. -/
def members : Nat → Entries → Reader Unit
  | 0, _ => fail
  | fuel + 1, entries => do
    let (first, others) ← key
    blanks
    expect .equals
    blanks
    let v ← value fuel
    let some entries := Entries.insert first others v entries | fail
    blanks
    if ← eat .rightBrace then return ()
    else
      expect .comma
      blanks
      members fuel entries

end

/-! ### Documents -/

/-- A line of a document. -/
inductive Line where
  /-- A header. -/
  | header (names : List Name) (element : Bool)
  /-- A dotted key with its value. -/
  | entry (first : Name) (others : List Name) (v : Value)

/-- The names of a header behind the first one. -/
def headerNames : Nat → Reader (List Name)
  | 0 => fail
  | fuel + 1 => do
    blanks
    if ← eat .period then
      blanks
      let first ← name
      return first :: (← headerNames fuel)
    else return []

/-- A header behind its first bracket. -/
def header : Reader Line := do
  let element ← eat .leftBracket
  blanks
  let first ← name
  let others ← headerNames ((← left) + 1)
  expect .rightBracket
  if element then expect .rightBracket
  restOfLine
  return .header (first :: others) element

/-- A key with its value. -/
def entry : Reader Line := do
  let (first, others) ← key
  blanks
  expect .equals
  blanks
  let v ← value ((← left) + 1)
  restOfLine
  return .entry first others v

/-- The lines of a document. -/
def documentLines : Nat → Reader (List Line)
  | 0 => fail
  | fuel + 1 => do
    lines
    match ← peek with
    | none => return []
    | some .leftBracket =>
      let _ ← next
      let line ← header
      return line :: (← documentLines fuel)
    | some _ =>
      let line ← entry
      return line :: (← documentLines fuel)

/-- The sections of a list of lines, behind the one that has been begun. -/
def sections : Section → List Line → Option (List Section)
  | current, [] => some [current]
  | current, .header names element :: rest =>
    (sections ⟨names, element, []⟩ rest).map (current :: ·)
  | current, .entry first others v :: rest =>
    match Entries.insert first others v current.entries with
    | some entries => sections { current with entries := entries } rest
    | none => none

/-- The sections of a document, of which the first has no header. -/
def document (cs : List Char) : Option (List Section) := do
  let cs := Token.prepare cs
  let (found, _) ← (documentLines (cs.length + 1)).run cs
  sections ⟨[], false, []⟩ found

end Reader

/-! ### Headers -/

/-- What a table is known as. -/
inductive TableKind where
  /-- It has only been named on the way to a table inside it. -/
  | implied
  /-- It has a header of its own. -/
  | table
  /-- It is an array of tables. -/
  | array
  deriving DecidableEq, Repr

/-- The tables that are known so far. -/
abbrev Headers := List (List Name × TableKind)

namespace Headers

/-- Notes that a header names all tables above it. -/
def imply (known : Headers) (header : List Name) : Headers :=
  (List.range header.length).foldl
    (fun known i =>
      let above := header.take i
      if i = 0 ∨ (known.lookup above).isSome then known else (above, .implied) :: known)
    known

/-- The tables that are known behind one more header.  A table is defined once; an array of tables
gets a new element, in which nothing is defined yet. -/
def define (known : Headers) (header : List Name) (element : Bool) : Option Headers :=
  let known := imply known header
  match known.lookup header, element with
  | none, false => some ((header, .table) :: known)
  | none, true => some ((header, .array) :: known)
  | some .implied, false => some ((header, .table) :: known)
  -- what was defined in the element before does not bind the new one
  | some .array, true => some (known.filter fun e => !(header.isPrefixOf e.1) || e.1 == header)
  | _, _ => none

/-- No header of a document defines a table again. -/
def consistent (document : List Section) : Bool :=
  (document.foldl
    (fun known s =>
      match known with
      | none => none
      | some known => if s.header = [] then some known else define known s.header s.element)
    (some ([] : Headers))).isSome

end Headers

end ClockChip
