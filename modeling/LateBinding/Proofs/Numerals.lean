import LateBinding.Literal.Reader
import LateBinding.Text.Characters

/-!
# Numerals

Two sorts of numerals are told apart. An integer is written as

```text
integer := '-'? digit+
```

and a decimal as

```text
decimal  := '-'? mantissa exponent?
mantissa := digit+ ('.' digit*)? | '.' digit+
exponent := ('e' | 'E') ('+' | '-')? digit+
```

`IntegerNumeral` and `DecimalNumeral` relate a text to the number that it stands for. A reader of
floating-point numbers knows more than decimals: it takes the words for infinity and for what is not
a number as well, `SpecialWord`, and where a minus comes before the word, nothing keeps it from
being asked.
-/
namespace LateBinding

/-- Digits, at least one of them. -/
structure DigitString (text : List Char) : Prop where
  nonempty : text ≠ []
  digits : ∀ c ∈ text, c.isDigit = true

/-- An integer as it is written, and its value. -/
inductive IntegerNumeral : List Char → Int → Prop
  | plain {text : List Char} (given : DigitString text) :
      IntegerNumeral text (Nat.ofDigitChars 10 text 0)
  | negative {text : List Char} (given : DigitString text) :
      IntegerNumeral ('-' :: text) (-(Nat.ofDigitChars 10 text 0 : Int))

/-- The exponent of a decimal, which may be left out, and its value. -/
inductive ExponentNumeral : List Char → Int → Prop
  | none : ExponentNumeral [] 0
  | given {mark : Char} {text : List Char} {value : Int} (marked : mark = 'e' ∨ mark = 'E')
      (number : IntegerNumeral text value) : ExponentNumeral (mark :: text) value
  | positive {mark : Char} {text : List Char} (marked : mark = 'e' ∨ mark = 'E')
      (number : DigitString text) :
      ExponentNumeral (mark :: '+' :: text) (Nat.ofDigitChars 10 text 0)

/-- The digits of a decimal with the point among them or around them: all the digits without the
point, and how many stand behind it. -/
inductive MantissaNumeral : List Char → List Char → Nat → Prop
  | whole {text : List Char} (given : DigitString text) : MantissaNumeral text text 0
  | pointed {whole fraction : List Char} (given : DigitString (whole ++ fraction)) :
      MantissaNumeral (whole ++ '.' :: fraction) (whole ++ fraction) fraction.length

/-- A decimal without a sign, and its value as a coefficient and a power of ten. -/
inductive UnsignedNumeral : List Char → Nat → Int → Prop
  | intro {mantissa digits exponent : List Char} {places : Nat} {power : Int}
      (number : MantissaNumeral mantissa digits places) (scale : ExponentNumeral exponent power) :
      UnsignedNumeral (mantissa ++ exponent) (Nat.ofDigitChars 10 digits 0) (power - places)

/-- A decimal as it is written, and its value. -/
inductive DecimalNumeral : List Char → Decimal → Prop
  | plain {text : List Char} {coefficient : Nat} {power : Int}
      (number : UnsignedNumeral text coefficient power) :
      DecimalNumeral text ⟨false, coefficient, power⟩
  | negative {text : List Char} {coefficient : Nat} {power : Int}
      (number : UnsignedNumeral text coefficient power) :
      DecimalNumeral ('-' :: text) ⟨true, coefficient, power⟩

/-- The words for infinity and for what is not a number, in any case of letters, and what they stand
for behind a sign. -/
inductive SpecialWord (negative : Bool) : List Char → Binary64 → Prop
  | infinity {text : List Char} (spelled : text.map Char.toLower = "inf".toList ∨
      text.map Char.toLower = "infinity".toList) : SpecialWord negative text (.infinity negative)
  | notANumber {text : List Char} (spelled : text.map Char.toLower = "nan".toList) :
      SpecialWord negative text (.notANumber negative)

/-! ## Integers -/

/-- The reader's own sum of digits is the value of the numeral in base ten. -/
theorem digitsValue_eq_ofDigitChars (text : List Char) :
    digitsValue text = Nat.ofDigitChars 10 text 0 := rfl

/-- The reader's test for digits. The empty text does not pass it, so a sign alone or a point alone
is no number. -/
theorem Literal.isNatural_iff {text : List Char} : isNatural text = true ↔ DigitString text := by
  rw [isNatural]
  constructor
  · intro natural
    obtain ⟨nonempty, digits⟩ := Bool.and_eq_true_iff.mp natural
    exact ⟨by simpa using nonempty, List.all_eq_true.mp digits⟩
  · rintro ⟨nonempty, digits⟩
    simpa [nonempty] using digits

/-- What begins with another character is no string of digits. -/
theorem DigitString.not_cons {c : Char} {text : List Char} (other : c.isDigit = false) :
    ¬ DigitString (c :: text) := by
  rintro ⟨-, digits⟩
  simp [digits c List.mem_cons_self] at other

/-- No other character is found among digits. That is how words that have letters or signs in them
are told from numbers. -/
theorem DigitString.not_mem {c : Char} {text : List Char} (given : DigitString text)
    (other : c.isDigit = false) : c ∉ text := by
  intro inside
  simp [given.digits c inside] at other

/-- Without a minus an integer is a string of digits. -/
theorem Literal.readInteger?_of_unsigned {text : List Char}
    (unsigned : ∀ digits, text ≠ '-' :: digits) :
    readInteger? text = if isNatural text then some (digitsValue text : Int) else none := by
  rw [readInteger?]
  exact unsigned

/-- Integers are read at their value. -/
theorem Literal.readInteger?_eq_some_iff {text : List Char} {n : Int} :
    readInteger? text = some n ↔ IntegerNumeral text n := by
  by_cases signed : ∃ digits, text = '-' :: digits
  · obtain ⟨digits, rfl⟩ := signed
    rw [readInteger?, Option.ite_none_right_eq_some]
    constructor
    · rintro ⟨natural, value⟩
      obtain rfl := Option.some.inj value
      exact .negative (isNatural_iff.mp natural)
    · rintro (⟨given⟩ | ⟨given⟩)
      · exact absurd given (DigitString.not_cons rfl)
      · exact ⟨isNatural_iff.mpr given, rfl⟩
  · rw [readInteger?_of_unsigned (not_exists.mp signed), Option.ite_none_right_eq_some]
    constructor
    · rintro ⟨natural, value⟩
      obtain rfl := Option.some.inj value
      exact .plain (isNatural_iff.mp natural)
    · rintro (⟨given⟩ | ⟨given⟩)
      · exact ⟨isNatural_iff.mpr given, rfl⟩
      · exact absurd ⟨_, rfl⟩ signed

/-- An integer begins with a digit or with a minus. -/
theorem IntegerNumeral.startsNumeric {text : List Char} {n : Int}
    (numeral : IntegerNumeral text n) : Literal.startsNumeric text = true := by
  cases numeral with
  | plain given =>
    obtain ⟨c, rest, rfl⟩ := List.exists_cons_of_ne_nil given.nonempty
    simp [Literal.startsNumeric, given.digits c List.mem_cons_self]
  | negative given => rfl

/-- How a text begins is decided by its first character, whatever is put behind it. -/
theorem Literal.startsNumeric_append {text : List Char} (starts : startsNumeric text = true)
    (rest : List Char) : startsNumeric (text ++ rest) = true := by
  cases text with
  | nil => simp [startsNumeric] at starts
  | cons c others => exact starts

/-! ## Decimals -/

namespace ExponentNumeral

variable {text : List Char} {power : Int}

/-- An exponent begins with its mark. -/
theorem head?_mark (scale : ExponentNumeral text power) :
    ∀ c ∈ text.head?, c = 'e' ∨ c = 'E' := by
  intro c first
  cases scale with
  | none => simp at first
  | given marked => simpa [← Option.some.inj first] using marked
  | positive marked => simpa [← Option.some.inj first] using marked

/-- The mark of an exponent is no digit, so the digits before it come to an end there. -/
theorem ends_digits (scale : ExponentNumeral text power) :
    ∀ c ∈ text.head?, c.isDigit = false := by
  intro c first
  rcases scale.head?_mark c first with rfl | rfl <;> rfl

/-- Nor is it a point: what follows the first digits is either. -/
theorem unpointed (scale : ExponentNumeral text power) : ∀ behind, text ≠ '.' :: behind := by
  rintro behind rfl
  simpa using scale.head?_mark '.' rfl

end ExponentNumeral

namespace Decimal

/-- A sign is taken off, or there is none. -/
theorem takeSign_cases (text : List Char) :
    (∃ rest, text = '-' :: rest ∧ takeSign text = (true, rest)) ∨
    (∃ rest, text = '+' :: rest ∧ takeSign text = (false, rest)) ∨
    (∀ rest, text ≠ '-' :: rest ∧ text ≠ '+' :: rest) ∧ takeSign text = (false, text) := by
  cases text with
  | nil => exact Or.inr (Or.inr ⟨by simp, rfl⟩)
  | cons c rest =>
    by_cases minus : c = '-'
    · exact Or.inl ⟨rest, by rw [minus], by rw [minus, takeSign]⟩
    by_cases plus : c = '+'
    · exact Or.inr (Or.inl ⟨rest, by rw [plus], by rw [plus, takeSign]⟩)
    · exact Or.inr (Or.inr ⟨by simp [minus, plus], by simp [takeSign, minus, plus]⟩)

/-- Digits have no sign to take off. -/
theorem takeSign_of_digitString {text : List Char} (given : DigitString text) :
    takeSign text = (false, text) := by
  rcases takeSign_cases text with ⟨rest, rfl, -⟩ | ⟨rest, rfl, -⟩ | ⟨-, unsigned⟩
  · exact absurd given (DigitString.not_cons rfl)
  · exact absurd given (DigitString.not_cons rfl)
  · exact unsigned

/-- The digits of an exponent behind their sign. -/
theorem readExponent?_cons_eq_some_iff {mark : Char} (marked : mark = 'e' ∨ mark = 'E')
    {text digits : List Char} {negative : Bool} (signed : takeSign text = (negative, digits))
    {power : Int} : readExponent? (mark :: text) = some power ↔ DigitString digits ∧
      power = if negative then -(Nat.ofDigitChars 10 digits 0 : Int)
        else Nat.ofDigitChars 10 digits 0 := by
  have refused : (digits.isEmpty || !digits.all Char.isDigit) = !Literal.isNatural digits := by
    simp [Literal.isNatural]
  rw [readExponent?, if_pos marked, signed, ← Literal.isNatural_iff]
  simp only [refused, digitsValue_eq_ofDigitChars]
  cases Literal.isNatural digits with
  | true => simp [eq_comm]
  | false => simp

/-- Exponents are read at their value. Nothing may follow the digits, and a mark without digits is
refused. The sign is a minus, a plus or none. -/
theorem readExponent?_eq_some_iff {text : List Char} {power : Int} :
    readExponent? text = some power ↔ ExponentNumeral text power := by
  constructor
  · intro read
    cases text with
    | nil =>
      obtain rfl := Option.some.inj read
      exact .none
    | cons mark text =>
      by_cases marked : mark = 'e' ∨ mark = 'E'
      · rcases takeSign_cases text with ⟨rest, rfl, signed⟩ | ⟨rest, rfl, signed⟩ | ⟨-, signed⟩
        · obtain ⟨given, rfl⟩ := (readExponent?_cons_eq_some_iff marked signed).mp read
          exact .given marked (.negative given)
        · obtain ⟨given, rfl⟩ := (readExponent?_cons_eq_some_iff marked signed).mp read
          exact .positive marked given
        · obtain ⟨given, rfl⟩ := (readExponent?_cons_eq_some_iff marked signed).mp read
          exact .given marked (.plain given)
      · rw [readExponent?, if_neg marked] at read
        simp at read
  · rintro (_ | ⟨marked, ⟨given⟩ | ⟨given⟩⟩ | ⟨marked, given⟩)
    · rfl
    · have signed := takeSign_of_digitString given
      exact (readExponent?_cons_eq_some_iff marked signed).mpr ⟨given, rfl⟩
    · exact (readExponent?_cons_eq_some_iff marked rfl).mpr ⟨given, rfl⟩
    · exact (readExponent?_cons_eq_some_iff marked rfl).mpr ⟨given, rfl⟩

/-- The digits behind a point, none where no point comes next, and what follows them. -/
def takeFraction : List Char → List Char × List Char
  | '.' :: behind => (behind.takeWhile Char.isDigit, behind.dropWhile Char.isDigit)
  | rest => ([], rest)

/-- Without a point there are no digits behind one. -/
theorem takeFraction_of_unpointed {text : List Char} (unpointed : ∀ behind, text ≠ '.' :: behind) :
    takeFraction text = ([], text) := by
  rw [takeFraction]
  exact unpointed

section Unsigned

variable {negative : Bool} {whole fraction rest : List Char} {decimal : Decimal}

/-- The digits before the point and behind it are put together, unless there are none. -/
theorem compose_eq_some_iff (given : ∀ c ∈ whole ++ fraction, c.isDigit = true) :
    (if whole.isEmpty && fraction.isEmpty then none
      else (readExponent? rest).map fun power => (⟨negative, digitsValue (whole ++ fraction),
        power - fraction.length⟩ : Decimal)) = some decimal ↔
      DigitString (whole ++ fraction) ∧ ∃ power, ExponentNumeral rest power ∧
        ⟨negative, Nat.ofDigitChars 10 (whole ++ fraction) 0, power - fraction.length⟩ =
          decimal := by
  have lacking : (whole.isEmpty && fraction.isEmpty) = true ↔ whole ++ fraction = [] := by simp
  by_cases none : whole ++ fraction = []
  · rw [if_pos (lacking.mpr none)]
    simp [show ¬ DigitString (whole ++ fraction) from fun some => some.nonempty none]
  · rw [if_neg (mt lacking.mp none), Option.map_eq_some_iff]
    simp only [readExponent?_eq_some_iff, digitsValue_eq_ofDigitChars]
    exact (and_iff_right ⟨none, given⟩).symm

/-- A decimal without a sign is read from its digits, those behind the point and its exponent. -/
theorem readUnsigned?_eq (text : List Char) :
    readUnsigned? negative text =
      let whole := text.takeWhile Char.isDigit
      let split := takeFraction (text.dropWhile Char.isDigit)
      if whole.isEmpty && split.1.isEmpty then none
      else (readExponent? split.2).map fun power =>
        (⟨negative, digitsValue (whole ++ split.1), power - split.1.length⟩ : Decimal) := by
  rw [readUnsigned?]
  rfl

/-- A decimal without a sign, with no point among its digits. -/
theorem readUnsigned?_whole (given : ∀ c ∈ whole, c.isDigit = true)
    (ends : ∀ c ∈ rest.head?, c.isDigit = false) (unpointed : ∀ behind, rest ≠ '.' :: behind) :
    readUnsigned? negative (whole ++ rest) = some decimal ↔ DigitString whole ∧
      ∃ power, ExponentNumeral rest power ∧
        ⟨negative, Nat.ofDigitChars 10 whole 0, power⟩ = decimal := by
  rw [readUnsigned?_eq, Text.takeWhile_append_eq given ends, Text.dropWhile_append_eq given ends,
    takeFraction_of_unpointed unpointed]
  simp only
  rw [compose_eq_some_iff (by simpa using given)]
  simp

/-- A decimal without a sign, with a point among its digits. -/
theorem readUnsigned?_pointed (given : ∀ c ∈ whole ++ fraction, c.isDigit = true)
    (ends : ∀ c ∈ rest.head?, c.isDigit = false) :
    readUnsigned? negative (whole ++ '.' :: (fraction ++ rest)) = some decimal ↔
      DigitString (whole ++ fraction) ∧ ∃ power, ExponentNumeral rest power ∧
        ⟨negative, Nat.ofDigitChars 10 (whole ++ fraction) 0, power - fraction.length⟩ =
          decimal := by
  obtain ⟨wholeGiven, fractionGiven⟩ := List.forall_mem_append.mp given
  have point : ∀ c ∈ ('.' :: (fraction ++ rest)).head?, c.isDigit = false := by
    rintro _ ⟨⟩
    rfl
  rw [readUnsigned?_eq, Text.takeWhile_append_eq wholeGiven point,
    Text.dropWhile_append_eq wholeGiven point]
  simp only [takeFraction, Text.takeWhile_append_eq fractionGiven ends,
    Text.dropWhile_append_eq fractionGiven ends]
  exact compose_eq_some_iff given

end Unsigned

/-- Decimals without a sign are read at their value. -/
theorem readUnsigned?_eq_some_iff {negative : Bool} {text : List Char} {decimal : Decimal} :
    readUnsigned? negative text = some decimal ↔
      ∃ coefficient power, UnsignedNumeral text coefficient power ∧
        ⟨negative, coefficient, power⟩ = decimal := by
  constructor
  · intro read
    obtain ⟨split, given, stops⟩ := Text.takeWhile_dropWhile_iff.mp
      (show text.takeWhile Char.isDigit = _ ∧ text.dropWhile Char.isDigit = _ from ⟨rfl, rfl⟩)
    generalize text.takeWhile Char.isDigit = whole at split given
    generalize text.dropWhile Char.isDigit = after at split stops
    subst split
    by_cases pointed : ∃ behind, after = '.' :: behind
    · obtain ⟨behind, rfl⟩ := pointed
      obtain ⟨split, fractionGiven, ends⟩ := Text.takeWhile_dropWhile_iff.mp
        (show behind.takeWhile Char.isDigit = _ ∧ behind.dropWhile Char.isDigit = _ from ⟨rfl, rfl⟩)
      generalize behind.takeWhile Char.isDigit = fraction at split fractionGiven
      generalize behind.dropWhile Char.isDigit = rest at split ends
      subst split
      obtain ⟨digits, power, scale, rfl⟩ := (readUnsigned?_pointed
        (List.forall_mem_append.mpr ⟨given, fractionGiven⟩) ends).mp read
      have number := UnsignedNumeral.intro (.pointed digits) scale
      exact ⟨_, _, by simpa using number, rfl⟩
    · obtain ⟨digits, power, scale, rfl⟩ :=
        (readUnsigned?_whole given stops (not_exists.mp pointed)).mp read
      have number := UnsignedNumeral.intro (.whole digits) scale
      exact ⟨_, _, by simpa using number, rfl⟩
  · rintro ⟨_, _, ⟨number, scale⟩, rfl⟩
    have ends := scale.ends_digits
    cases number with
    | whole given =>
      have unpointed := scale.unpointed
      refine (readUnsigned?_whole given.digits ends unpointed).mpr ⟨given, _, scale, ?_⟩
      simp
    | pointed given =>
      rw [List.append_assoc, List.cons_append]
      exact (readUnsigned?_pointed given.digits ends).mpr ⟨given, _, scale, rfl⟩

end Decimal

/-! ## Floating-point numbers -/

/-- Characters before the capital letters are their own lower case. -/
theorem toLower_of_toNat_lt {c : Char} (before : c.toNat < 65) : c.toLower = c := by
  refine dif_neg ?_
  rintro ⟨capital, -⟩
  have bound : 65 ≤ c.toNat := UInt32.le_iff_toNat_le.mp capital
  omega

/-- A decimal without a sign begins with a digit or with the point. -/
theorem UnsignedNumeral.begins {text : List Char} {coefficient : Nat} {power : Int}
    (number : UnsignedNumeral text coefficient power) :
    ∃ c rest, text = c :: rest ∧ (c.isDigit = true ∨ c = '.') := by
  obtain ⟨mantissa, scale⟩ := number
  cases mantissa with
  | whole given =>
    obtain ⟨c, rest, rfl⟩ := List.exists_cons_of_ne_nil given.nonempty
    exact ⟨c, _, rfl, Or.inl (given.digits c List.mem_cons_self)⟩
  | @pointed whole fraction given =>
    cases whole with
    | nil => exact ⟨'.', _, rfl, Or.inr rfl⟩
    | cons c rest => exact ⟨c, _, rfl, Or.inl (given.digits c List.mem_cons_self)⟩

/-- A decimal without a sign begins like a number. -/
theorem UnsignedNumeral.startsNumeric {text : List Char} {coefficient : Nat} {power : Int}
    (number : UnsignedNumeral text coefficient power) : Literal.startsNumeric text = true := by
  obtain ⟨c, rest, rfl, digit | rfl⟩ := number.begins
  · simp [Literal.startsNumeric, digit]
  · rfl

/-- In small letters a special word is one of three. -/
theorem SpecialWord.lowered {negative : Bool} {text : List Char} {x : Binary64}
    (word : SpecialWord negative text x) :
    text.map Char.toLower ∈ ["inf".toList, "infinity".toList, "nan".toList] := by
  cases word with
  | infinity spelled => rcases spelled with spelled | spelled <;> simp [spelled]
  | notANumber spelled => simp [spelled]

/-- A special word begins with one of two letters, small or capital. -/
theorem SpecialWord.begins {negative : Bool} {text : List Char} {x : Binary64}
    (word : SpecialWord negative text x) :
    ∃ c rest, text = c :: rest ∧ (c.toLower = 'i' ∨ c.toLower = 'n') := by
  have letters : ∀ lowered ∈ ["inf".toList, "infinity".toList, "nan".toList],
      ∀ c ∈ lowered.head?, c = 'i' ∨ c = 'n' := by simp
  have listed := word.lowered
  cases text with
  | nil => simp at listed
  | cons c rest => exact ⟨c, rest, rfl, letters _ listed _ rfl⟩

/-- No special word begins like a number. -/
theorem SpecialWord.startsNumeric {negative : Bool} {text : List Char} {x : Binary64}
    (word : SpecialWord negative text x) : Literal.startsNumeric text = false := by
  obtain ⟨c, rest, rfl, letter⟩ := word.begins
  have later : 65 ≤ c.toNat := by
    refine Nat.le_of_not_lt fun before => ?_
    rw [toLower_of_toNat_lt before] at letter
    rcases letter with rfl | rfl <;> exact absurd before (by decide)
  have noDigit : c.isDigit = false := by
    refine Bool.eq_false_iff.mpr fun digit => ?_
    have bound : c.val ≤ 57 := of_decide_eq_true (Bool.and_eq_true_iff.mp digit).2
    have small : c.toNat ≤ 57 := UInt32.le_iff_toNat_le.mp bound
    omega
  have noMark : c ≠ '-' ∧ c ≠ '.' := by
    constructor <;> rintro rfl <;> exact absurd later (by decide)
  simp [Literal.startsNumeric, noDigit, noMark]

/-- A word is read as special when what is left of it without a sign is a special word; the sign
goes into the value, even into that of what is not a number. -/
theorem Binary64.readWord?_eq_some_iff {text word : List Char} {negative : Bool}
    (signed : Decimal.takeSign text = (negative, word)) {x : Binary64} :
    readWord? text = some x ↔ SpecialWord negative word x := by
  rw [readWord?, signed]
  constructor
  · intro read
    simp only at read
    by_cases infinite : word.map Char.toLower = "inf".toList ∨
        word.map Char.toLower = "infinity".toList
    · rw [if_pos infinite] at read
      obtain rfl := Option.some.inj read
      exact .infinity infinite
    · rw [if_neg infinite] at read
      obtain ⟨spelled, value⟩ := Option.ite_none_right_eq_some.mp read
      obtain rfl := Option.some.inj value
      exact .notANumber spelled
  · rintro (⟨spelled⟩ | ⟨spelled⟩)
    · simp only [if_pos spelled]
    · have other : ¬ (word.map Char.toLower = "inf".toList ∨
          word.map Char.toLower = "infinity".toList) := by
        rw [spelled]
        decide
      simp only [if_neg other, if_pos spelled]

/-- Decimals are what is read as a decimal and does not begin with a plus. -/
theorem decimalNumeral_iff {text : List Char} {decimal : Decimal} :
    DecimalNumeral text decimal ↔
      Literal.startsNumeric text = true ∧ Decimal.read? text = some decimal := by
  constructor
  · rintro (⟨number⟩ | ⟨number⟩)
    · obtain ⟨c, rest, rfl, first⟩ := number.begins
      have unsigned : Decimal.takeSign (c :: rest) = (false, c :: rest) := by
        rcases Decimal.takeSign_cases (c :: rest) with ⟨_, same, -⟩ | ⟨_, same, -⟩ | ⟨-, unsigned⟩
        · obtain ⟨rfl, -⟩ := List.cons.inj same
          simp at first
        · obtain ⟨rfl, -⟩ := List.cons.inj same
          simp at first
        · exact unsigned
      rw [Decimal.read?, unsigned]
      exact ⟨number.startsNumeric, Decimal.readUnsigned?_eq_some_iff.mpr ⟨_, _, number, rfl⟩⟩
    · exact ⟨rfl, Decimal.readUnsigned?_eq_some_iff.mpr ⟨_, _, number, rfl⟩⟩
  · rintro ⟨starts, read⟩
    rcases Decimal.takeSign_cases text with ⟨rest, rfl, -⟩ | ⟨rest, rfl, -⟩ | ⟨-, unsigned⟩
    · obtain ⟨_, _, number, rfl⟩ := Decimal.readUnsigned?_eq_some_iff.mp read
      exact .negative number
    · exact absurd starts (by simp [Literal.startsNumeric])
    · rw [Decimal.read?, unsigned] at read
      obtain ⟨_, _, number, rfl⟩ := Decimal.readUnsigned?_eq_some_iff.mp read
      exact .plain number

/-- What is taken for a floating-point number: decimals, and special words behind a minus. -/
theorem Literal.readFloat?_eq_some_iff {text : List Char} {x : Binary64} :
    readFloat? text = some x ↔ (∃ decimal, DecimalNumeral text decimal ∧ decimal.toBinary64 = x) ∨
      ∃ word, text = '-' :: word ∧ SpecialWord true word x := by
  rw [readFloat?]
  constructor
  · intro found
    obtain ⟨starts, read⟩ := Option.ite_none_right_eq_some.mp found
    rw [Binary64.read?] at read
    cases decimalRead : Decimal.read? text with
    | some decimal =>
      rw [decimalRead] at read
      exact Or.inl ⟨decimal, decimalNumeral_iff.mpr ⟨starts, decimalRead⟩, Option.some.inj read⟩
    | none =>
      rw [decimalRead] at read
      rcases Decimal.takeSign_cases text with ⟨word, rfl, signed⟩ | ⟨rest, rfl, -⟩ | ⟨-, signed⟩
      · exact Or.inr ⟨word, rfl, (Binary64.readWord?_eq_some_iff signed).mp read⟩
      · exact absurd starts (by simp [startsNumeric])
      · have word := (Binary64.readWord?_eq_some_iff signed).mp read
        simp [word.startsNumeric] at starts
  · rintro (⟨decimal, number, rfl⟩ | ⟨word, rfl, special⟩)
    · obtain ⟨starts, read⟩ := decimalNumeral_iff.mp number
      rw [if_pos starts, Binary64.read?, read]
    · have noDecimal : Decimal.read? ('-' :: word) = none := by
        rw [Option.eq_none_iff_forall_ne_some]
        intro decimal read
        obtain ⟨_, _, number, -⟩ := Decimal.readUnsigned?_eq_some_iff.mp read
        have starts : startsNumeric word = true := number.startsNumeric
        simp [special.startsNumeric] at starts
      have starts : startsNumeric ('-' :: word) = true := rfl
      rw [if_pos starts, Binary64.read?, noDecimal]
      exact (Binary64.readWord?_eq_some_iff rfl).mpr special

/-! ## Letters of other words -/

/-- An integer has no letter, so it is not mistaken for one with the suffix of 64 bits. -/
theorem IntegerNumeral.lacks_i {text : List Char} {n : Int} (numeral : IntegerNumeral text n) :
    'i' ∉ text := by
  rcases numeral with given | given
  · exact given.not_mem rfl
  · simpa using given.not_mem rfl

/-- The only letter of an exponent is its mark. -/
theorem ExponentNumeral.lacks_i {text : List Char} {power : Int}
    (scale : ExponentNumeral text power) : 'i' ∉ text := by
  cases scale with
  | none => simp
  | given marked number => rcases marked with rfl | rfl <;> simpa using number.lacks_i
  | positive marked number => rcases marked with rfl | rfl <;> simpa using number.not_mem rfl

/-- A decimal without a sign is digits, a point and an exponent, and none of them has the letter of
the suffix. -/
theorem UnsignedNumeral.lacks_i {text : List Char} {coefficient : Nat} {power : Int}
    (number : UnsignedNumeral text coefficient power) : 'i' ∉ text := by
  obtain ⟨mantissa, scale⟩ := number
  refine fun inside => (List.mem_append.mp inside).elim ?_ scale.lacks_i
  cases mantissa with
  | whole given => exact given.not_mem rfl
  | pointed given =>
    have digits := given.not_mem (c := 'i') rfl
    simpa using digits

/-- A sign does not bring the letter in either: no decimal has the suffix of 64 bits. -/
theorem DecimalNumeral.lacks_i {text : List Char} {decimal : Decimal}
    (numeral : DecimalNumeral text decimal) : 'i' ∉ text := by
  cases numeral with
  | plain number => exact number.lacks_i
  | negative number => simpa using number.lacks_i

/-- A special word has the first letter of the suffix, but no digit of it. -/
theorem SpecialWord.lacks_six {negative : Bool} {text : List Char} {x : Binary64}
    (word : SpecialWord negative text x) : '6' ∉ text := by
  have letters : ∀ lowered ∈ ["inf".toList, "infinity".toList, "nan".toList], '6' ∉ lowered := by
    decide
  intro inside
  exact letters _ word.lowered (List.mem_map.mpr ⟨'6', inside, by decide⟩)

/-- No special word is an integer behind a minus. -/
theorem SpecialWord.not_integer {negative : Bool} {text : List Char} {x : Binary64}
    (word : SpecialWord negative text x) {n : Int} : ¬ IntegerNumeral ('-' :: text) n := by
  intro numeral
  cases numeral with
  | plain given => exact DigitString.not_cons rfl given
  | negative given =>
    have starts := (IntegerNumeral.plain given).startsNumeric
    simp [word.startsNumeric] at starts

end LateBinding
