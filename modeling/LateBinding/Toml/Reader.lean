/-!
# Readers

A reader takes something off the start of a text, or refuses the text. A choice tries its
second reader on the text that the first was given, so a refusal loses nothing. Nothing here
can run for ever: a repetition runs its reader at most as often as there are characters.

The sets of characters at the end are those of TOML.
-/
namespace LateBinding.Toml

/-- Something that is read off the start of a text. -/
abbrev Reader (α : Type) := StateT (List Char) Option α

namespace Reader

variable {α β : Type}

/-- One character of a set. -/
def oneOf (isMember : Char → Bool) : Reader Char
  | [] => none
  | c :: rest => if isMember c then some (c, rest) else none

/-- One given character. -/
def character (c : Char) : Reader Char :=
  oneOf (· == c)

/-- A given text. -/
def word (expected : String) : Reader Unit :=
  expected.toList.forM fun c => do let _ ← character c

/-- As many characters of a set as there are, possibly none. -/
def run (isMember : Char → Bool) : Reader (List Char) :=
  fun text => some (text.takeWhile isMember, text.dropWhile isMember)

/-- As many characters of a set as there are, at least one. -/
def someRun (isMember : Char → Bool) : Reader (List Char) := do
  let first ← oneOf isMember
  let others ← run isMember
  pure (first :: others)

/-- A given number of characters of a set. -/
def exactly (isMember : Char → Bool) : (count : Nat) → Reader (List Char)
  | 0 => pure []
  | count + 1 => do
    let first ← oneOf isMember
    let others ← exactly isMember count
    pure (first :: others)

/-- Only the end of the text. -/
def finish : Reader Unit
  | [] => some ((), [])
  | _ => none

/-- What a reader takes if it takes anything. -/
def optional (reader : Reader α) : Reader (Option α) :=
  some <$> reader <|> pure none

/-- Read again and again, at most a number of times, until the reader refuses. -/
def manyWithin (reader : Reader α) : (times : Nat) → Reader (List α)
  | 0 => pure []
  | times + 1 =>
    (do
      let first ← reader
      let others ← manyWithin reader times
      pure (first :: others)) <|> pure []

/-- Read again and again until the reader refuses. The reader has to take something each
time. -/
def many (reader : Reader α) : Reader (List α) := do
  let text ← get
  manyWithin reader text.length

/-- At least one thing, with something else between one and the next. -/
def someSeparated (separator : Reader β) (reader : Reader α) : Reader (List α) := do
  let first ← reader
  let others ← many (separator *> reader)
  pure (first :: others)

/-- Any number of things, with something else between one and the next. -/
def separated (separator : Reader β) (reader : Reader α) : Reader (List α) :=
  someSeparated separator reader <|> pure []

/-- The value that a check finds, or a refusal. -/
def check (found : Option α) : Reader α :=
  StateT.lift found

/-- Go on only if something holds. -/
def require (holds : Bool) : Reader Unit :=
  if holds then pure () else failure

end Reader

/-- Space and tab, the only blanks within a line. -/
def isBlank (c : Char) : Bool :=
  c == ' ' || c == '\t'

/-- The characters that may stand in a comment and between quotes: tab and all that is no
control character. -/
def isPlain (c : Char) : Bool :=
  c == '\t' || (' ' ≤ c && c != '\x7f')

namespace Reader

/-- Blanks within a line. -/
def blanks : Reader Unit := do
  let _ ← run isBlank

/-- The end of a line: a line feed, which a carriage return may precede. -/
def newline : Reader Unit :=
  word "\n" <|> word "\r\n"

/-- A comment up to the end of its line. -/
def comment : Reader Unit := do
  let _ ← character '#'
  let _ ← run isPlain

/-- The rest of a line on which nothing more is said. -/
def lineEnd : Reader Unit := do
  blanks
  let _ ← optional comment
  newline <|> finish

/-- Blanks, line ends and comments in any number. -/
def gaps : Reader Unit := do
  let _ ← many ((do let _ ← someRun isBlank) <|> newline <|> comment)

end Reader

end LateBinding.Toml
