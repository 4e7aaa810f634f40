import LateBinding.Number.Decimal
import LateBinding.Toml.Text

/-!
# Numbers and dates in TOML

Integers have 64 bits and may be written in base ten, or in base sixteen, eight or two
without a sign. In decimal numerals no zero stands in front, and single underscores may
separate digits. A floating-point number has a fraction, an exponent or both; one too great
to represent is refused, one too small becomes negative infinity.

A date, a time of day, or a date with a time, which may be given relative to universal time,
is checked and otherwise kept as it is written.
-/
namespace LateBinding.Toml

namespace Reader

/-! ## Digits -/

/-- Digits of a set, with single underscores between them that are left out. -/
def digitsOf (isMember : Char → Bool) : Reader (List Char) := do
  let first ← oneOf isMember
  let others ← many (oneOf isMember <|> (character '_' *> oneOf isMember))
  pure (first :: others)

/-- A sign, if there is one. -/
def sign : Reader (List Char) := do
  pure (← optional (oneOf fun c => c == '+' || c == '-')).toList

/-- Decimal digits without a zero in front. -/
def naturalDigits : Reader (List Char) := do
  match ← get with
  | '0' :: _ => pure [← character '0']
  | _ => digitsOf Char.isDigit

/-- A decimal integer as it is written, without underscores. -/
def decimalDigits : Reader (List Char) := do
  let sign ← sign
  let digits ← naturalDigits
  pure (sign ++ digits)

/-! ## Integers -/

/-- An integer of 64 bits. -/
def fitting (n : Int) : Reader Int := do
  require (Int64.minValue.toInt ≤ n && n ≤ Int64.maxValue.toInt)
  pure n

/-- An integer in another base, after the mark of that base. -/
def basedInteger (mark : String) (base : Nat) : Reader Int := do
  word mark
  let digits ← digitsOf fun c => (hexDigit? c).any (· < base)
  let n ← check (numeralValue? base digits)
  fitting n

/-- A decimal integer. -/
def decimalInteger : Reader Int := do
  let sign ← sign
  let digits ← naturalDigits
  let size : Int := digitsValue digits
  fitting (if sign = ['-'] then -size else size)

/-- An integer in any base. -/
def integer : Reader Int :=
  basedInteger "0x" 16 <|> basedInteger "0o" 8 <|> basedInteger "0b" 2 <|> decimalInteger

/-! ## Floating-point numbers -/

/-- The digits after the point. -/
def fraction : Reader (List Char) := do
  let point ← character '.'
  let digits ← digitsOf Char.isDigit
  pure (point :: digits)

/-- An exponent. -/
def exponent : Reader (List Char) := do
  let mark ← oneOf fun c => c == 'e' || c == 'E'
  let sign ← sign
  let digits ← digitsOf Char.isDigit
  pure (mark :: sign ++ digits)

/-- A number with a fraction, an exponent or both. -/
def finiteFloat : Reader Binary64 := do
  let whole ← decimalDigits
  let rest ← exponent <|> do
    let digits ← fraction
    let power ← optional exponent
    pure (digits ++ power.getD [])
  let x ← check (Binary64.read? (whole ++ rest))
  require (x != .infinity false)
  pure x

/-- Infinity or the value that is no number. -/
def specialFloat : Reader Binary64 := do
  let negative := (← sign) = ['-']
  (do word "inf"; pure (.infinity negative)) <|> (do word "nan"; pure (.notANumber negative))

/-- A floating-point number. -/
def float : Reader Binary64 :=
  finiteFloat <|> specialFloat

/-! ## Dates and times -/

/-- A number of a fixed count of digits within bounds. -/
def field (count least greatest : Nat) : Reader Nat := do
  let digits ← exactly Char.isDigit count
  let n := digitsValue digits
  require (least ≤ n && n ≤ greatest)
  pure n

/-- The days of a month. -/
def daysIn (year month : Nat) : Nat :=
  if month = 2 then
    if year % 4 = 0 ∧ (year % 100 ≠ 0 ∨ year % 400 = 0) then 29 else 28
  else if month ∈ [4, 6, 9, 11] then 30
  else 31

/-- A date that exists. -/
def date : Reader Unit := do
  let year ← field 4 0 9999
  word "-"
  let month ← field 2 1 12
  word "-"
  let _ ← field 2 1 (daysIn year month)

/-- Hours and minutes. -/
def hourAndMinute : Reader Unit := do
  let _ ← field 2 0 23
  word ":"
  let _ ← field 2 0 59

/-- A time of day; a leap second counts as the sixtieth. -/
def timeOfDay : Reader Unit := do
  hourAndMinute
  word ":"
  let _ ← field 2 0 60
  let _ ← optional (word "." *> someRun Char.isDigit)

/-- The difference to universal time. -/
def offset : Reader Unit := do
  match ← oneOf fun c => c == 'Z' || c == 'z' || c == '+' || c == '-' with
  | 'Z' | 'z' => pure ()
  | _ => hourAndMinute

/-- A date with a time, a date or a time. -/
def dateOrTime : Reader Unit :=
  (do
    date
    let _ ← optional do
      let _ ← oneOf fun c => c == 'T' || c == 't' || c == ' '
      timeOfDay
      let _ ← optional offset) <|> timeOfDay

/-- A date or time as it is written. -/
def dateTime : Reader String := do
  let before ← get
  dateOrTime
  let after ← get
  pure (String.ofList (before.take (before.length - after.length)))

end Reader

end LateBinding.Toml
