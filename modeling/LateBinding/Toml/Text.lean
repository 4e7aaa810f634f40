import LateBinding.Toml.Reader

/-!
# Text and keys in TOML

Text stands between double quotes, with escapes, or between single quotes, as it is. Tripled
quotes let it run over several lines: the line end right after the opening quotes is dropped,
a backslash at the end of a line joins the lines, and up to two of the quotes may stand
anywhere, also right before the closing ones. Every line end in text is a line feed.

A key is one part or several with dots between them; a part is a bare word or text on one
line.
-/
namespace LateBinding.Toml

/-- The value of a hexadecimal digit. -/
def hexDigit? (c : Char) : Option Nat :=
  if c.isDigit then some (c.toNat - '0'.toNat)
  else if 'a' ≤ c ∧ c ≤ 'f' then some (c.toNat - 'a'.toNat + 10)
  else if 'A' ≤ c ∧ c ≤ 'F' then some (c.toNat - 'A'.toNat + 10)
  else none

/-- The number that digits write in a base, if all of them are digits of that base. -/
def numeralValue? (base : Nat) (digits : List Char) : Option Nat :=
  digits.foldlM (fun total c => do
    let digit ← hexDigit? c
    if digit < base then some (total * base + digit) else none) 0

/-- The character at a code point, unless the point is a surrogate or out of range. -/
def characterAt? (point : Nat) : Option Char :=
  if point.isValidChar then some (Char.ofNat point) else none

namespace Reader

/-- A character given by a fixed number of hexadecimal digits. -/
def codePoint (digits : Nat) : Reader Char := do
  let written ← exactly (fun c => (hexDigit? c).isSome) digits
  let point ← check (numeralValue? 16 written)
  check (characterAt? point)

/-- What an escape stands for, from after the backslash. -/
def escaped : Reader Char := do
  match ← oneOf (fun _ => true) with
  | 'b' => pure '\x08'
  | 't' => pure '\t'
  | 'n' => pure '\n'
  | 'f' => pure '\x0c'
  | 'r' => pure '\r'
  | '"' => pure '"'
  | '\\' => pure '\\'
  | 'u' => codePoint 4
  | 'U' => codePoint 8
  | _ => failure

/-- Characters between double quotes that stand for themselves. -/
def unescapedRun : Reader (List Char) :=
  someRun fun c => isPlain c && c != '"' && c != '\\'

/-- One escape. -/
def escape : Reader (List Char) := do
  let _ ← character '\\'
  let c ← escaped
  pure [c]

/-- Text on one line between double quotes. -/
def basicText : Reader String := do
  let _ ← character '"'
  let parts ← many (unescapedRun <|> escape)
  let _ ← character '"'
  pure (String.ofList parts.flatten)

/-- Text on one line between single quotes. -/
def literalText : Reader String := do
  let _ ← character '\''
  let content ← run fun c => isPlain c && c != '\''
  let _ ← character '\''
  pure (String.ofList content)

/-- A line end in text. -/
def textNewline : Reader (List Char) := do
  newline
  pure ['\n']

/-- A backslash at the end of a line, with all blanks and line ends after it. -/
def joinedLines : Reader (List Char) := do
  let _ ← character '\\'
  blanks
  newline
  let _ ← run fun c => isBlank c || c == '\n'
  let _ ← many (newline *> run fun c => isBlank c || c == '\n')
  pure []

/-- One or two quotes that close nothing. -/
def innerQuotes (quote : Char) : Reader (List Char) := do
  let quotes ← someRun (· == quote)
  require (quotes.length ≤ 2)
  pure quotes

/-- The closing quotes of text on several lines, after up to two quotes of the text. -/
def closingQuotes (quote : Char) : Reader (List Char) := do
  let delimiter := exactly (· == quote) 3
  (do
    let inner ← exactly (· == quote) 2
    let _ ← delimiter
    pure inner) <|>
  (do
    let inner ← exactly (· == quote) 1
    let _ ← delimiter
    pure inner) <|>
  (do
    let _ ← delimiter
    pure [])

/-- Text on several lines, with the reader of what is no quote. -/
def tripleQuoted (quote : Char) (content : Reader (List Char)) : Reader String := do
  let _ ← exactly (· == quote) 3
  let _ ← optional newline
  let parts ← many (content <|> innerQuotes quote)
  let last ← closingQuotes quote
  pure (String.ofList (parts.flatten ++ last))

/-- Text on several lines between double quotes. -/
def multilineBasicText : Reader String :=
  tripleQuoted '"' (unescapedRun <|> joinedLines <|> escape <|> textNewline)

/-- Text on several lines between single quotes. -/
def multilineLiteralText : Reader String :=
  tripleQuoted '\'' (someRun (fun c => isPlain c && c != '\'') <|> textNewline)

/-- Text of any sort. -/
def text : Reader String :=
  multilineBasicText <|> basicText <|> multilineLiteralText <|> literalText

/-- One part of a key. -/
def keyPart : Reader String :=
  basicText <|> literalText <|> do
    let letters ← someRun fun c => c.isAlphanum || c == '-' || c == '_'
    pure (String.ofList letters)

/-- Keys have fewer parts than this, and values nest less deep. -/
def depthLimit : Nat := 80

/-- A key, with blanks around each of its parts. -/
def key : Reader (List String) := do
  let parts ← someSeparated (character '.') (blanks *> keyPart <* blanks)
  require (parts.length < depthLimit)
  pure parts

end Reader

end LateBinding.Toml
