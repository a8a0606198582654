import ClockChip.Byte.Hex

/-!
# Words of a settings file

A settings file is read as a sequence of tokens: blanks, line ends, comments, punctuation, words
and quoted texts.  A text stands between single or double quotes; three quotes open a text that
may run over several lines.  Only double quotes know escapes.

Line ends may be written with a carriage return, and a byte order mark in front means nothing;
both are removed before the first token is looked for.

## Main definitions

* `Token`: the tokens.
* `Token.prepare`: the characters of a file in the form that is read.
* `Quoted.body`: what stands between quotes.
* `Token.next`: the first token of a list of characters.
-/

namespace ClockChip

/-- The tokens of a settings file. -/
inductive Token where
  /-- Spaces and tabs. -/
  | blank (text : List Char)
  /-- The end of a line. -/
  | newline
  /-- A comment up to the end of its line. -/
  | comment
  /-- An equals sign. -/
  | equals
  /-- A full stop. -/
  | period
  /-- A comma. -/
  | comma
  /-- A colon. -/
  | colon
  /-- A plus sign. -/
  | plus
  /-- An opening brace. -/
  | leftBrace
  /-- A closing brace. -/
  | rightBrace
  /-- An opening bracket. -/
  | leftBracket
  /-- A closing bracket. -/
  | rightBracket
  /-- Letters, digits, hyphens and underscores. -/
  | word (text : List Char)
  /-- A quoted text, on one line or over several. -/
  | quoted (text : List Char) (multiline : Bool)
  deriving DecidableEq, Repr

namespace Token

/-! ### Characters -/

/-- A space or a tab. -/
def isBlank (c : Char) : Bool := c == ' ' || c == '\t'

/-- A character that words are made of. -/
def isWordChar (c : Char) : Bool :=
  (decide ('A' ≤ c) && decide (c ≤ 'Z')) || (decide ('a' ≤ c) && decide (c ≤ 'z'))
    || (decide ('0' ≤ c) && decide (c ≤ '9')) || c == '-' || c == '_'

/-- A character that may stand in a comment: no control character but the tab. -/
def isCommentChar (c : Char) : Bool := c == '\t' || decide (32 ≤ c.toNat)

/-- A character that may stand between quotes: no control character but the tab. -/
def isTextChar (c : Char) : Bool := isCommentChar c && c.toNat != 127

/-- A line end written as carriage return and line feed becomes a line feed. -/
def foldLineEnds : List Char → List Char
  | '\r' :: '\n' :: cs => '\n' :: foldLineEnds cs
  | c :: cs => c :: foldLineEnds cs
  | [] => []

/-- The characters of a file in the form in which they are read. -/
def prepare (cs : List Char) : List Char :=
  let cs := foldLineEnds cs
  if cs.head? = some '\uFEFF' then cs.tail else cs

end Token

/-! ### Quoted texts -/

namespace Quoted

/-- What is being read inside a quoted text. -/
inductive Mode where
  /-- The text itself; blank characters are dropped behind an escaped line end. -/
  | text (dropping : Bool)
  /-- The character behind a backslash. -/
  | escape
  /-- The digits of a character's number: how many are still to come, and the number so far. -/
  | digits (left : Nat) (number : Nat)
  /-- Blanks between a backslash and the end of its line. -/
  | lineEnd
  deriving DecidableEq, Repr

/-- The character that an escape of one letter stands for. -/
def escaped? : Char → Option Char
  | '"' => some '"'
  | '\\' => some '\\'
  | 'b' => some '\x08'
  | 'f' => some '\x0c'
  | 'n' => some '\n'
  | 'r' => some '\r'
  | 't' => some '\t'
  | _ => none

/-- The character with a number, if there is one: the numbers of surrogates have none. -/
def charOf? (n : Nat) : Option Char :=
  if n.isValidChar then some (Char.ofNat n) else none

/-- A character in front of what is read of a text. -/
def push (c : Char) (r : Option (List Char × List Char)) : Option (List Char × List Char) :=
  r.map fun x => (c :: x.1, x.2)

/-- Reads a text behind its opening quotes: the text, and what follows the closing quotes.
`escapes` is set between double quotes.

In a text over several lines fewer than three quotes belong to the text, and so do up to two in
front of the three that close it. -/
def body (delim : Char) (escapes multiline : Bool) :
    Mode → List Char → Option (List Char × List Char)
  | _, [] => none
  | .text dropping, c :: cs =>
    if dropping && (Token.isBlank c || c == '\n') then body delim escapes multiline (.text true) cs
    else if c = delim then
      if multiline then
        -- the text is open still when it ends in one or two of its quotes
        match cs with
        | [] => none
        | d :: ds =>
          if d = delim then
            match ds with
            | [] => none
            | e :: es =>
              if e = delim then
                -- three in a row close the text; up to two more in front belong to it
                match es with
                | f :: g :: rest =>
                  if f = delim then
                    if g = delim then some ([delim, delim], rest) else some ([delim], g :: rest)
                  else some ([], f :: g :: rest)
                | [f] => if f = delim then some ([delim], []) else some ([], [f])
                | [] => some ([], [])
              else push delim (push delim (body delim escapes multiline (.text false) (e :: es)))
          else push delim (body delim escapes multiline (.text false) (d :: ds))
      else some ([], cs)
    else if c = '\n' then
      if multiline then push '\n' (body delim escapes multiline (.text false) cs) else none
    else if escapes && c == '\\' then body delim escapes multiline .escape cs
    else if Token.isTextChar c then push c (body delim escapes multiline (.text false) cs)
    else none
  | .escape, c :: cs =>
    match escaped? c with
    | some d => push d (body delim escapes multiline (.text false) cs)
    | none =>
      if c = 'u' then body delim escapes multiline (.digits 4 0) cs
      else if c = 'U' then body delim escapes multiline (.digits 8 0) cs
      else if multiline && c == '\n' then body delim escapes multiline (.text true) cs
      else if multiline && Token.isBlank c then body delim escapes multiline .lineEnd cs
      else none
  | .digits left number, c :: cs =>
    match Hex.digitValue? c with
    | none => none
    | some d =>
      if left ≤ 1 then
        match charOf? (16 * number + d) with
        | some e => push e (body delim escapes multiline (.text false) cs)
        | none => none
      else body delim escapes multiline (.digits (left - 1) (16 * number + d)) cs
  | .lineEnd, c :: cs =>
    if c = '\n' then body delim escapes multiline (.text true) cs
    else if Token.isBlank c then body delim escapes multiline .lineEnd cs
    else none

/-- Reads a quoted text behind its first quote.  A line end right behind three opening quotes does
not belong to the text. -/
def read (delim : Char) (escapes : Bool) : List Char → Option (Token × List Char)
  | c :: d :: cs =>
    if c = delim then
      if d = delim then
        (body delim escapes true (.text false) (if cs.head? = some '\n' then cs.tail else cs)).map
          fun x => (.quoted x.1 true, x.2)
      else some (.quoted [] false, d :: cs)
    else (body delim escapes false (.text false) (c :: d :: cs)).map
      fun x => (.quoted x.1 false, x.2)
  | [c] => if c = delim then some (.quoted [] false, []) else none
  | [] => none

end Quoted

/-! ### Tokens -/

/-- What the next token is. -/
inductive Upcoming where
  /-- There are no more characters. -/
  | nothing
  /-- A token, and the characters behind it. -/
  | token (t : Token) (rest : List Char)
  /-- The characters do not start with a token. -/
  | invalid
  deriving DecidableEq, Repr

namespace Token

/-- The first token of a list of characters. -/
def next : List Char → Upcoming
  | [] => .nothing
  | c :: cs =>
    match c with
    | '\n' => .token .newline cs
    | '#' => .token .comment (cs.dropWhile isCommentChar)
    | '=' => .token .equals cs
    | '.' => .token .period cs
    | ',' => .token .comma cs
    | ':' => .token .colon cs
    | '+' => .token .plus cs
    | '{' => .token .leftBrace cs
    | '}' => .token .rightBrace cs
    | '[' => .token .leftBracket cs
    | ']' => .token .rightBracket cs
    | '\x27' => match Quoted.read '\x27' false cs with
      | some (t, rest) => .token t rest
      | none => .invalid
    | '"' => match Quoted.read '"' true cs with
      | some (t, rest) => .token t rest
      | none => .invalid
    | _ =>
      if isBlank c then .token (.blank (c :: cs.takeWhile isBlank)) (cs.dropWhile isBlank)
      else if isWordChar c then
        .token (.word (c :: cs.takeWhile isWordChar)) (cs.dropWhile isWordChar)
      else .invalid

end Token

end ClockChip
