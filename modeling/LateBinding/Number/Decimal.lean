import LateBinding.Number.Binary64

/-!
# Decimal numerals

The numerals that stand for a floating-point number: an optional sign, digits with an optional
point among or around them, and an optional exponent. `Decimal.read?` reads exactly these;
`Binary64.read?` also knows the words for infinity and for what is not a number.
-/
namespace LateBinding

/-- The value of a decimal digit. -/
def digitValue (c : Char) : Nat := c.toNat - '0'.toNat

/-- The natural number that a string of digits denotes, its first digit the highest. -/
def digitsValue (digits : List Char) : Nat :=
  digits.foldl (fun value digit => 10 * value + digitValue digit) 0

/-- A decimal number, `coefficient * 10 ^ exponent` with a sign. -/
structure Decimal where
  negative : Bool
  coefficient : Nat
  exponent : Int
deriving DecidableEq, Repr

namespace Decimal

/-- Take an optional sign; the answer says whether it is a minus. -/
def takeSign : List Char → Bool × List Char
  | '-' :: rest => (true, rest)
  | '+' :: rest => (false, rest)
  | text => (false, text)

/-- The exponent part, which may be missing but may not be cut short. -/
def readExponent? : List Char → Option Int
  | [] => some 0
  | mark :: rest =>
    if mark = 'e' ∨ mark = 'E' then
      let (negative, digits) := takeSign rest
      if digits.isEmpty || !digits.all Char.isDigit then none
      else some (if negative then -(digitsValue digits : Int) else digitsValue digits)
    else none

/-- The numeral after its sign. -/
def readUnsigned? (negative : Bool) (text : List Char) : Option Decimal :=
  let whole := text.takeWhile Char.isDigit
  let afterWhole := text.dropWhile Char.isDigit
  let (fraction, afterFraction) := match afterWhole with
    | '.' :: rest => (rest.takeWhile Char.isDigit, rest.dropWhile Char.isDigit)
    | rest => ([], rest)
  if whole.isEmpty && fraction.isEmpty then none
  else (readExponent? afterFraction).map fun exponent =>
    ⟨negative, digitsValue (whole ++ fraction), exponent - fraction.length⟩

/-- Read a whole text as a decimal numeral. -/
def read? (text : List Char) : Option Decimal :=
  let (negative, rest) := takeSign text
  readUnsigned? negative rest

/-- The floating-point number nearest to the decimal. -/
def toBinary64 (decimal : Decimal) : Binary64 :=
  .ofDecimal decimal.negative decimal.coefficient decimal.exponent

end Decimal

namespace Binary64

/-- The words for special values, in any case of letters and with an optional sign. -/
def readWord? (text : List Char) : Option Binary64 :=
  let (negative, word) := Decimal.takeSign text
  let lowered := word.map Char.toLower
  if lowered = "inf".toList ∨ lowered = "infinity".toList then some (infinity negative)
  else if lowered = "nan".toList then some (notANumber negative)
  else none

/-- Read a decimal numeral or a word for a special value. -/
def read? (text : List Char) : Option Binary64 :=
  match Decimal.read? text with
  | some decimal => some decimal.toBinary64
  | none => readWord? text

end Binary64

end LateBinding
