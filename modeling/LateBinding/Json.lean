/-!
# JSON

The values of JSON that reports are made of, and their text over several lines: each item and
each field stands on a line of its own, two spaces further in than what it belongs to, and
only empty brackets and braces share a line. Fields keep the order in which they are given.
-/
namespace LateBinding

/-- A JSON value. -/
inductive Json
  | text (content : String)
  | number (n : Nat)
  | boolean (b : Bool)
  | array (items : List Json)
  | object (fields : List (String × Json))

namespace Json

instance : Inhabited Json := ⟨.array []⟩

/-- A control character by its code point, in four hexadecimal digits. -/
def controlEscape (c : Char) : List Char :=
  let digits := Nat.toDigits 16 c.toNat
  "\\u".toList ++ List.replicate (4 - digits.length) '0' ++ digits

/-- A character as it stands in a string. -/
def escape (c : Char) : List Char :=
  if c = '"' ∨ c = '\\' then ['\\', c]
  else if c = '\n' then ['\\', 'n']
  else if c = '\r' then ['\\', 'r']
  else if c = '\t' then ['\\', 't']
  else if c = '\x08' then ['\\', 'b']
  else if c = '\x0c' then ['\\', 'f']
  else if c.toNat < 0x20 then controlEscape c
  else [c]

/-- A string in quotes. -/
def quoted (content : String) : String :=
  String.ofList ('"' :: content.toList.flatMap escape ++ ['"'])

/-- The start of a line that is indented by a number of spaces. -/
def lineStart (indent : Nat) : String :=
  "\n" ++ "".pushn ' ' indent

/-- Entries on lines of their own between brackets, which share a line when there is none. -/
def enclosed (opening closing : String) (indent : Nat) (entries : List String) : String :=
  if entries.isEmpty then opening ++ closing
  else
    let start := lineStart (indent + 2)
    opening ++ start ++ ("," ++ start).intercalate entries ++ lineStart indent ++ closing

mutual

/-- The text of a value that begins on a line with the given indentation. -/
def prettyAt (indent : Nat) : Json → String
  | .text content => quoted content
  | .number n => toString n
  | .boolean b => toString b
  | .array items => enclosed "[" "]" indent (prettyItems (indent + 2) items)
  | .object fields => enclosed "\x7b" "\x7d" indent (prettyFields (indent + 2) fields)

/-- The texts of items. -/
def prettyItems (indent : Nat) : List Json → List String
  | [] => []
  | item :: rest => prettyAt indent item :: prettyItems indent rest

/-- The texts of fields. -/
def prettyFields (indent : Nat) : List (String × Json) → List String
  | [] => []
  | (name, value) :: rest =>
    (quoted name ++ ": " ++ prettyAt indent value) :: prettyFields indent rest

end

/-- The text of a value over several lines. -/
def pretty (value : Json) : String :=
  prettyAt 0 value

end Json

end LateBinding
