import LateBinding.Literal
import LateBinding.Number.Decimal

/-!
# Reading literals

How a word of a command line stands for a value:

| Word | Value |
|---|---|
| `null`, `true`, `false` | the keyword |
| `42`, `-7` | an integer of 32 bits |
| `42i64` | an integer of 64 bits |
| `1.5`, `2e3` | a floating-point number |
| `'c'` | a character |
| `"text"`, and every other word | text |

A word that opens a quote has to close it, and an integer has to fit; nothing else is
refused. A word is taken for a number only when its first character could start one.
-/
namespace LateBinding

/-- Why a word is no literal. Each cause carries the word. -/
inductive LiteralError
  | outOfRange (word : String)
  | invalidInt64 (word : String)
  | invalidCharacter (word : String)
  | unterminated (word : String)
deriving DecidableEq, Repr

/-- The text of a literal error. -/
def LiteralError.message : LiteralError → String
  | .outOfRange word =>
    "integer literal '" ++ word ++ "' does not fit in i32 (add an i64 suffix)"
  | .invalidInt64 word => "invalid i64 literal '" ++ word ++ "'"
  | .invalidCharacter word =>
    "invalid char literal " ++ word ++ ": expected exactly one character"
  | .unterminated word => "unterminated string literal " ++ word

namespace Literal

/-- Digits and no sign, at least one of them. -/
def isNatural (text : List Char) : Bool :=
  !text.isEmpty && text.all Char.isDigit

/-- The value of an optional minus and at least one digit. -/
def readInteger? : List Char → Option Int
  | '-' :: digits => if isNatural digits then some (-(digitsValue digits : Int)) else none
  | digits => if isNatural digits then some (digitsValue digits : Int) else none

/-- The text before a given ending, when it has that ending. -/
def beforeSuffix? (ending text : List Char) : Option (List Char) :=
  if ending.isSuffixOf text then some (text.take (text.length - ending.length)) else none

/-- Whether the first character could start a number. -/
def startsNumeric : List Char → Bool
  | [] => false
  | c :: _ => c.isDigit || c == '-' || c == '.'

/-- A floating-point numeral that starts like a number. -/
def readFloat? (text : List Char) : Option Binary64 :=
  if startsNumeric text then Binary64.read? text else none

/-- The body of a character literal, after the opening quote. -/
def readCharacter (word : String) (body : List Char) : Except LiteralError Literal :=
  match beforeSuffix? ['\''] body with
  | none => .error (.unterminated word)
  | some [c] => .ok (.char c)
  | some _ => .error (.invalidCharacter word)

/-- The body of a quoted text, after the opening quote. Nothing is unescaped. -/
def readQuoted (word : String) (body : List Char) : Except LiteralError Literal :=
  match beforeSuffix? ['"'] body with
  | none => .error (.unterminated word)
  | some inner => .ok (.str (String.ofList inner))

/-- A word that opens no quote and is no keyword: a number if it reads as one, else text. -/
def readBare (word : String) : Except LiteralError Literal :=
  match (beforeSuffix? "i64".toList word.toList).bind readInteger? with
  | some n => match ofInt64? n with
    | some literal => .ok literal
    | none => .error (.invalidInt64 word)
  | none => match readInteger? word.toList with
    | some n => match ofInt32? n with
      | some literal => .ok literal
      | none => .error (.outOfRange word)
    | none => match readFloat? word.toList with
      | some x => .ok (.f64 x)
      | none => .ok (.str word)

/-- Read one word. -/
def read (word : String) : Except LiteralError Literal :=
  if word = "null" then .ok .null
  else if word = "true" then .ok (.bool true)
  else if word = "false" then .ok (.bool false)
  else match word.toList with
    | '\'' :: body => readCharacter word body
    | '"' :: body => readQuoted word body
    | _ => readBare word

/-- Read every word; the first that is refused decides. -/
def readAll (words : List String) : Except LiteralError (List Literal) :=
  words.mapM read

end Literal

end LateBinding
