import ClockChip.Command.Similarity

/-!
# Command lines

A command line is read word by word.  Words with two hyphens in front are options, which take the
word behind them or what follows their equals sign as a value, or flags, which take none; one with
a single hyphen is a row of one-letter flags.  The name of a command ends the options of the level
above it.  Two hyphens alone make operands of all words that follow.

## Main definitions

* `UsageError`: what is wrong with a command line.
* `Level`: what may be said on one level.
* `Given`, `Level.read`: what was said.
* `Given.value?`: the value of an option.
* `Given.checkOption`, `Given.checkFlag`: whether what was said may be said.
-/

namespace ClockChip

/-- Why a command line is not carried out. -/
inductive UsageError where
  /-- Help was asked for. -/
  | helpDisplayed
  /-- The version was asked for. -/
  | versionDisplayed
  /-- No command was given. -/
  | missingCommand
  /-- A word resembles a command. -/
  | invalidCommand
  /-- Help was asked for on something that is no command. -/
  | unrecognizedCommand
  /-- A word has no place. -/
  | unknownArgument
  /-- An operand is missing. -/
  | missingRequired
  /-- An option without its value. -/
  | emptyValue
  /-- An option or flag was given twice. -/
  | multipleUsage
  /-- A value is not of the wanted form. -/
  | invalidValue
  deriving DecidableEq, Repr

/-- The name under which an error is reported. -/
def UsageError.kind : UsageError → String
  | helpDisplayed => "HelpDisplayed"
  | versionDisplayed => "VersionDisplayed"
  | missingCommand => "MissingArgumentOrSubcommand"
  | invalidCommand => "InvalidSubcommand"
  | unrecognizedCommand => "UnrecognizedSubcommand"
  | unknownArgument => "UnknownArgument"
  | missingRequired => "MissingRequiredArgument"
  | emptyValue => "EmptyValue"
  | multipleUsage => "UnexpectedMultipleUsage"
  | invalidValue => "ValueValidation"

/-- What may be said on one level of a command line. -/
structure Level where
  /-- The options, which take a value. -/
  options : List String
  /-- The flags, which take none, besides those for help and version. -/
  flags : List String
  /-- The commands below this level. -/
  commands : List String
  /-- There may be operands. -/
  operands : Bool

/-- What has been said on one level. -/
structure Given where
  /-- The options and flags, once for each time they were given. -/
  uses : List String
  /-- The values of options. -/
  values : List (String × String)
  /-- The operands. -/
  operands : List String
  /-- The option that waits for a value. -/
  pending : Option String
  /-- Two hyphens have made operands of all that follows. -/
  trailing : Bool

/-- Nothing has been said. -/
def Given.nothing : Given := ⟨[], [], [], none, false⟩

namespace Level

/-- The word that asks for help on the commands. -/
def helpCommand : String := "help"

/-- The words that end this level. -/
def commandWords (l : Level) : List String :=
  if l.commands = [] then [] else l.commands ++ [helpCommand]

/-- The word is an option, a flag or a row of flags. -/
def startsOption (word : List Char) : Bool :=
  match word with
  | '-' :: _ :: _ => true
  | _ => false

/-- Reads a word with two hyphens in front.  All hyphens in front are dropped, and so are all
equals signs in front of a value. -/
def readLong (l : Level) (word : List Char) (g : Given) : Except UsageError Given :=
  let bare := word.dropWhile (· == '-')
  let name := String.ofList (bare.takeWhile (· != '='))
  if name ∈ l.options then
    -- without an equals sign the value is the next word
    match bare.dropWhile (· != '=') with
    | [] => .ok { g with uses := g.uses ++ [name], pending := some name }
    | value =>
      let value := String.ofList (value.dropWhile (· == '='))
      .ok {
        g with uses := g.uses ++ [name], values := g.values ++ [(name, value)], pending := none }
  else if name ∈ l.flags then .ok { g with uses := g.uses ++ [name], pending := none }
  else if name = "help" then .error .helpDisplayed
  else if name = "version" then .error .versionDisplayed
  else .error .unknownArgument

/-- Reads a word with one hyphen in front.  Only help and version have a letter, and each is the
end of the matter. -/
def readShort (word : List Char) : UsageError :=
  match word.dropWhile (· == '-') with
  | 'h' :: _ => .helpDisplayed
  | 'V' :: _ => .versionDisplayed
  | _ => .unknownArgument

/-- Reads a word that is neither an option nor the value of one. -/
def readOperand (l : Level) (word : String) (g : Given) : Except UsageError Given :=
  if l.commandWords.any fun c => Similarity.areSimilar word.toList c.toList then
    .error .invalidCommand
  else if l.operands then .ok { g with operands := g.operands ++ [word] }
  else .error .unknownArgument

/-- Reads one word that is not the name of a command. -/
def readWord (l : Level) (word : String) (g : Given) : Except UsageError Given :=
  let cs := word.toList
  if g.trailing then l.readOperand word g
  else if cs = ['-', '-'] then .ok { g with trailing := true }
  else if startsOption cs then
    match cs with
    | '-' :: '-' :: _ => l.readLong cs g
    | _ => .error (readShort cs)
  else
    match g.pending with
    | some name => .ok { g with values := g.values ++ [(name, word)], pending := none }
    | none => l.readOperand word g

/-- The word ends this level. -/
def endsAt (l : Level) (word : String) (g : Given) : Bool :=
  !g.trailing && g.pending.isNone && l.commandWords.contains word

/-- Reads words up to the name of a command: what was said, the command, and the words behind
it. -/
def read (l : Level) :
    List String → Given → Except UsageError (Given × Option (String × List String))
  | [], g => .ok (g, none)
  | word :: words, g =>
    if l.endsAt word g then .ok (g, some (word, words))
    else
      match l.readWord word g with
      | .ok g => l.read words g
      | .error e => .error e

/-- The answer to a request for help on a row of commands. -/
def help (l : Level) : List String → UsageError
  | [] => .helpDisplayed
  | [word] => if l.commandWords.contains word then .helpDisplayed else .unrecognizedCommand
  | _ => .unrecognizedCommand

end Level

namespace Given

/-- The value of an option, if it has one. -/
def value? (g : Given) (name : String) : Option String := g.values.lookup name

/-- A flag was given. -/
def has (g : Given) (name : String) : Bool := g.uses.contains name

/-- Checks an option that was given: it has a value, one of the wanted form, and only one.  An
option with a default may go without a value. -/
def checkOption (g : Given) (name : String) (hasDefault : Bool) (valid : String → Bool) :
    Except UsageError Unit :=
  if !g.has name then .ok ()
  -- of several faults the first one in this order is reported
  else if (g.value? name).isNone && !hasDefault then .error .emptyValue
  else if !(g.values.all fun v => v.1 != name || valid v.2) then .error .invalidValue
  else if 1 < g.uses.count name then .error .multipleUsage
  else .ok ()

/-- Checks a flag: it is given once at most. -/
def checkFlag (g : Given) (name : String) : Except UsageError Unit :=
  if 1 < g.uses.count name then .error .multipleUsage else .ok ()

end Given

end ClockChip
