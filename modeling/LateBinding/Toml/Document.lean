import LateBinding.Toml.Number
import LateBinding.Toml.Value

/-!
# Reading TOML documents

A document is a sequence of lines: pairs, headers, comments and blank lines. Values may run
over several lines only inside brackets and tripled quotes. `Toml.read` answers with the table
that the pairs and headers make, or refuses a text that is no document.
-/
namespace LateBinding.Toml

namespace Reader

/-- True or false. -/
def boolean : Reader Bool :=
  (do word "true"; pure true) <|> (do word "false"; pure false)

/-- Items in brackets, with gaps anywhere between them and a comma allowed after the last. -/
def bracketed (item : Reader Value) : Reader (List Value) := do
  word "["
  let items ← separated (word ",") (gaps *> item <* gaps)
  if items.isEmpty then gaps
  else
    let _ ← optional (word ",")
    gaps
  word "]"
  pure items

/-- A key and its value on one line. -/
def pair (item : Reader Value) : Reader Pair := do
  let key ← key
  word "="
  blanks
  let value ← item
  pure { key, value }

/-- Pairs in braces, on one line. -/
def braced (item : Reader Value) : Reader Table := do
  word "\x7b"
  let pairs ← separated (word ",") (pair item <* blanks)
  blanks
  word "\x7d"
  check (Table.addPairs .braces .empty pairs)

/-- A value without brackets and braces. -/
def scalar : Reader Value :=
  Value.text <$> text <|>
  Value.boolean <$> boolean <|>
  Value.dateTime <$> dateTime <|>
  Value.float <$> float <|>
  Value.integer <$> integer

/-- A value in which brackets and braces are nested up to a depth. -/
def value : (depth : Nat) → Reader Value
  | 0 => scalar
  | depth + 1 =>
    Value.array <$> bracketed (value depth) <|>
    Value.table .braces <$> braced (value depth) <|>
    scalar

/-- A line end, a comment or nothing. -/
def emptyLine : Reader Unit :=
  newline <|> do
    comment
    newline <|> finish

/-- Lines without pair or header, and the blanks before the next. -/
def emptyLines : Reader Unit := do
  blanks
  let _ ← many (emptyLine *> blanks)

/-- A line with a pair. -/
def pairLine : Reader Pair := do
  let pair ← pair (value (depthLimit - 1))
  lineEnd
  pure pair

/-- The pairs up to the next header, with the empty lines among them. -/
def pairLines : Reader (List Pair) := do
  emptyLines
  many (pairLine <* emptyLines)

/-- A line with a header. -/
def headerLine : Reader (List String × Bool) := do
  let header ←
    (do
      word "[["
      let path ← key
      word "]]"
      pure (path, true)) <|>
    (do
      word "["
      let path ← key
      word "]"
      pure (path, false))
  lineEnd
  pure header

/-- A header with the pairs below it. -/
def sectionLines : Reader Section := do
  let (path, isRepeated) ← headerLine
  let pairs ← pairLines
  pure { path, isRepeated, pairs }

/-- A whole document. A byte order mark may stand in front. -/
def document : Reader Table := do
  let _ ← optional (word "\ufeff")
  let pairs ← pairLines
  let sections ← many sectionLines
  finish
  check (Table.ofSections pairs sections)

end Reader

/-- The table that a text denotes, if it is a document. -/
def read (text : String) : Option Table :=
  (StateT.run Reader.document text.toList).map Prod.fst

end LateBinding.Toml
