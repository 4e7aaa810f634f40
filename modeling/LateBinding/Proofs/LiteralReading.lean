import LateBinding.Proofs.Numerals
import LateBinding.Store
import Mathlib.Algebra.Group.Int.Defs

/-!
# What a word of a command line stands for

A word that opens no quote and is no keyword is asked in turn whether it is an integer with the
suffix of 64 bits, an integer, or a number with a fraction or an exponent; if not, it is text. No
word passes two of the questions, an integer apart, which is a number as well and is not taken for
one. So each sort of answer is tied to one sort of word: `NumberWord`. What is shown of an integer
is the numeral that it is read from.

The third question goes to a reader that knows words as well as numerals. Only the first character
is looked at before, and a minus passes. So `inf` and `nan` are text, and `-inf` and `-nan` are not.
-/
namespace LateBinding

namespace Literal

/-- Which words are read as numbers, and which are refused because their number does not fit. -/
inductive NumberWord (word : String) : Except LiteralError Literal → Prop
  | int32 {n : Int32} (numeral : IntegerNumeral word.toList n.toInt) :
      NumberWord word (.ok (.i32 n))
  | outOfRange {n : Int} (numeral : IntegerNumeral word.toList n)
      (beyond : ¬ (-2 ^ 31 ≤ n ∧ n < 2 ^ 31)) : NumberWord word (.error (.outOfRange word))
  | int64 {digits : List Char} {n : Int64} (suffixed : word.toList = digits ++ "i64".toList)
      (numeral : IntegerNumeral digits n.toInt) : NumberWord word (.ok (.i64 n))
  | invalidInt64 {digits : List Char} {n : Int} (suffixed : word.toList = digits ++ "i64".toList)
      (numeral : IntegerNumeral digits n) (beyond : ¬ (-2 ^ 63 ≤ n ∧ n < 2 ^ 63)) :
      NumberWord word (.error (.invalidInt64 word))
  | decimal {decimal : Decimal} (numeral : DecimalNumeral word.toList decimal)
      (noInteger : ∀ n, ¬ IntegerNumeral word.toList n) :
      NumberWord word (.ok (.f64 decimal.toBinary64))
  | special {text : List Char} {x : Binary64} (signed : word.toList = '-' :: text)
      (spelled : SpecialWord true text x) : NumberWord word (.ok (.f64 x))

/-- Whether an answer is a number, or that a number does not fit. -/
def isNumber : Except LiteralError Literal → Bool
  | .ok (.i32 _) | .ok (.i64 _) | .ok (.f64 _) => true
  | .error (.outOfRange _) | .error (.invalidInt64 _) => true
  | _ => false

/-! ## Integers that fit -/

/-- An integer fits 32 bits between the two powers, the lower one included. -/
theorem ofInt32?_eq (n : Int) :
    ofInt32? n = if -2 ^ 31 ≤ n ∧ n < 2 ^ 31 then some (.i32 (Int32.ofInt n)) else none := by
  rw [ofInt32?, Int32.toInt_minValue, Int32.toInt_maxValue]
  simp only [Int.le_sub_one_iff]

/-- The same of 64 bits. -/
theorem ofInt64?_eq (n : Int) :
    ofInt64? n = if -2 ^ 63 ≤ n ∧ n < 2 ^ 63 then some (.i64 (Int64.ofInt n)) else none := by
  rw [ofInt64?, Int64.toInt_minValue, Int64.toInt_maxValue]
  simp only [Int.le_sub_one_iff]

/-! ## The suffix of 64 bits -/

/-- What stands before a suffix is the whole text up to it. -/
theorem beforeSuffix?_eq_some_iff {ending text body : List Char} :
    beforeSuffix? ending text = some body ↔ text = body ++ ending := by
  rw [beforeSuffix?]
  constructor
  · intro found
    obtain ⟨ends, taken⟩ := Option.ite_none_right_eq_some.mp found
    obtain ⟨front, rfl⟩ := List.isSuffixOf_iff_suffix.mp ends
    obtain rfl : front = body := by simpa using taken
    rfl
  · rintro rfl
    rw [if_pos (List.isSuffixOf_iff_suffix.mpr (List.suffix_append body ending))]
    simp

/-- A word with the suffix of 64 bits is read as an integer when what stands before is one. -/
theorem readSuffixed?_eq_some_iff {text : List Char} {n : Int} :
    (beforeSuffix? "i64".toList text).bind readInteger? = some n ↔
      ∃ digits, text = digits ++ "i64".toList ∧ IntegerNumeral digits n := by
  simp only [Option.bind_eq_some_iff, beforeSuffix?_eq_some_iff, readInteger?_eq_some_iff]

/-- A text without the letters of the suffix has no suffix. -/
theorem readSuffixed?_eq_none {text : List Char} {c : Char} (ofSuffix : c ∈ "i64".toList)
    (lacks : c ∉ text) : (beforeSuffix? "i64".toList text).bind readInteger? = none := by
  rw [Option.eq_none_iff_forall_ne_some]
  intro n found
  obtain ⟨digits, rfl, -⟩ := readSuffixed?_eq_some_iff.mp found
  exact lacks (List.mem_append_right _ ofSuffix)

/-! ## Words that open no quote -/

section Words

variable {word : String} {result : Except LiteralError Literal}

/-- Each answer that is a number comes from a word of its sort. -/
theorem numberWord_of_readBare (read : readBare word = result) (number : isNumber result = true) :
    NumberWord word result := by
  rw [readBare.eq_def] at read
  cases suffixed : (beforeSuffix? "i64".toList word.toList).bind readInteger? with
  | some n =>
    obtain ⟨digits, split, numeral⟩ := readSuffixed?_eq_some_iff.mp suffixed
    rw [suffixed] at read
    simp only [ofInt64?_eq] at read
    by_cases bounds : -2 ^ 63 ≤ n ∧ n < 2 ^ 63
    · rw [if_pos bounds] at read
      rw [← Int64.toInt_ofInt_of_le bounds.1 bounds.2] at numeral
      exact read ▸ .int64 split numeral
    · rw [if_neg bounds] at read
      exact read ▸ .invalidInt64 split numeral bounds
  | none =>
    rw [suffixed] at read
    cases integer : readInteger? word.toList with
    | some n =>
      have numeral := readInteger?_eq_some_iff.mp integer
      rw [integer] at read
      simp only [ofInt32?_eq] at read
      by_cases bounds : -2 ^ 31 ≤ n ∧ n < 2 ^ 31
      · rw [if_pos bounds] at read
        rw [← Int32.toInt_ofInt_of_le bounds.1 bounds.2] at numeral
        exact read ▸ .int32 numeral
      · rw [if_neg bounds] at read
        exact read ▸ .outOfRange numeral bounds
    | none =>
      rw [integer] at read
      cases float : readFloat? word.toList with
      | some x =>
        rw [float] at read
        rcases readFloat?_eq_some_iff.mp float with
          ⟨decimal, numeral, rfl⟩ | ⟨text, signed, spelled⟩
        · refine read ▸ .decimal numeral fun n whole => ?_
          simp [readInteger?_eq_some_iff.mpr whole] at integer
        · exact read ▸ .special signed spelled
      | none =>
        rw [float] at read
        simp [← read, isNumber] at number

/-- A word of a sort has the answer of that sort. -/
theorem NumberWord.readBare_eq (sort : NumberWord word result) : readBare word = result := by
  rw [readBare.eq_def]
  cases sort with
  | @int32 n numeral =>
    rw [readSuffixed?_eq_none (by decide) numeral.lacks_i,
      readInteger?_eq_some_iff.mpr numeral]
    simp only [ofInt32?_eq, if_pos (And.intro n.le_toInt n.toInt_lt), Int32.ofInt_toInt]
  | outOfRange numeral beyond =>
    rw [readSuffixed?_eq_none (by decide) numeral.lacks_i,
      readInteger?_eq_some_iff.mpr numeral]
    simp only [ofInt32?_eq, if_neg beyond]
  | @int64 digits n suffixed numeral =>
    rw [readSuffixed?_eq_some_iff.mpr ⟨digits, suffixed, numeral⟩]
    simp only [ofInt64?_eq, if_pos (And.intro n.le_toInt n.toInt_lt), Int64.ofInt_toInt]
  | @invalidInt64 digits n suffixed numeral beyond =>
    rw [readSuffixed?_eq_some_iff.mpr ⟨digits, suffixed, numeral⟩]
    simp only [ofInt64?_eq, if_neg beyond]
  | @decimal decimal numeral noInteger =>
    have unread : readInteger? word.toList = none := by
      rw [Option.eq_none_iff_forall_ne_some]
      exact fun n read => noInteger n (readInteger?_eq_some_iff.mp read)
    rw [readSuffixed?_eq_none (by decide) numeral.lacks_i, unread,
      readFloat?_eq_some_iff.mpr (Or.inl ⟨decimal, numeral, rfl⟩)]
  | @special text x signed spelled =>
    have unread : readInteger? word.toList = none := by
      rw [Option.eq_none_iff_forall_ne_some, signed]
      exact fun n read => spelled.not_integer (readInteger?_eq_some_iff.mp read)
    have unsuffixed : '6' ∉ word.toList := by simpa [signed] using spelled.lacks_six
    rw [readSuffixed?_eq_none (by decide) unsuffixed, unread,
      readFloat?_eq_some_iff.mpr (Or.inr ⟨text, signed, spelled⟩)]

/-- Numbers begin like numbers. -/
theorem NumberWord.startsNumeric (sort : NumberWord word result) :
    Literal.startsNumeric word.toList = true := by
  cases sort with
  | int32 numeral | outOfRange numeral => exact numeral.startsNumeric
  | int64 suffixed numeral | invalidInt64 suffixed numeral =>
    exact suffixed ▸ startsNumeric_append numeral.startsNumeric _
  | decimal numeral => exact (decimalNumeral_iff.mp numeral).1
  | special signed =>
    rw [signed]
    rfl

/-! ## Every word -/

/-- A word that opens no quote and is no keyword. -/
theorem read_of_unquoted (unkeyed : ∀ keyword ∈ ["null", "true", "false"], word ≠ keyword)
    (unquoted : ∀ c ∈ word.toList.head?, c ≠ '\'' ∧ c ≠ '"') : read word = readBare word := by
  rw [read, if_neg (unkeyed _ (by simp)), if_neg (unkeyed _ (by simp)),
    if_neg (unkeyed _ (by simp))]
  cases text : word.toList with
  | nil => rfl
  | cons c rest =>
    obtain ⟨noQuote, noDoubleQuote⟩ := unquoted c (by simp [text])
    simp [noQuote, noDoubleQuote]

/-- A word that begins like a number is one. -/
theorem read_of_startsNumeric (starts : startsNumeric word.toList = true) :
    read word = readBare word := by
  have letters : ∀ keyword ∈ ["null", "true", "false"], startsNumeric keyword.toList = false := by
    decide
  refine read_of_unquoted ?_ ?_
  · rintro keyword listed rfl
    simp [letters word listed] at starts
  · intro c first
    obtain ⟨rest, split⟩ := List.head?_eq_some_iff.mp first
    constructor <;> rintro rfl <;> simp [split, startsNumeric] at starts

/-- A word that does not begin like a number is text. -/
theorem readBare_of_not_startsNumeric (plain : startsNumeric word.toList = false) :
    readBare word = .ok (.str word) := by
  have unsuffixed : (beforeSuffix? "i64".toList word.toList).bind readInteger? = none := by
    rw [Option.eq_none_iff_forall_ne_some]
    intro n found
    obtain ⟨digits, suffixed, numeral⟩ := readSuffixed?_eq_some_iff.mp found
    simp [suffixed ▸ startsNumeric_append numeral.startsNumeric _] at plain
  have unread : readInteger? word.toList = none := by
    rw [Option.eq_none_iff_forall_ne_some]
    intro n found
    simp [(readInteger?_eq_some_iff.mp found).startsNumeric] at plain
  rw [readBare.eq_def, unsuffixed, unread, readFloat?, if_neg (by simp [plain])]

/-- Keywords and quoted words are no numbers. -/
theorem readBare_of_read (accepted : read word = result) (number : isNumber result = true) :
    readBare word = result := by
  rw [read] at accepted
  split at accepted
  · simp [← accepted, isNumber] at number
  split at accepted
  · simp [← accepted, isNumber] at number
  split at accepted
  · simp [← accepted, isNumber] at number
  split at accepted
  · rw [readCharacter] at accepted
    split at accepted <;> simp [← accepted, isNumber] at number
  · rw [readQuoted] at accepted
    split at accepted <;> simp [← accepted, isNumber] at number
  · exact accepted

/-- Answers that are numbers, or that a number does not fit, go with the words of their sort. -/
theorem read_eq_iff_numberWord (number : isNumber result = true) :
    read word = result ↔ NumberWord word result := by
  constructor
  · intro accepted
    exact numberWord_of_readBare (readBare_of_read accepted number) number
  · intro sort
    exact (read_of_startsNumeric sort.startsNumeric).trans sort.readBare_eq

end Words

/-- An integer is shown as its numeral. -/
theorem integerNumeral_toString (n : Int) : IntegerNumeral (toString n).toList n := by
  have natural (m : Nat) : DigitString m.repr.toList ∧
      Nat.ofDigitChars 10 m.repr.toList 0 = m := by
    rw [Nat.toList_repr]
    exact ⟨⟨Nat.toDigits_ne_nil, fun c => Nat.isDigit_of_mem_toDigits (by decide) (by decide)⟩,
      Nat.ofDigitChars_ten_toDigits⟩
  rw [Int.toString_eq_repr]
  cases n with
  | ofNat m =>
    obtain ⟨digits, value⟩ := natural m
    have numeral := IntegerNumeral.plain digits
    rwa [value] at numeral
  | negSucc m =>
    obtain ⟨digits, value⟩ := natural (m + 1)
    have numeral := IntegerNumeral.negative digits
    have shown : (Int.negSucc m).repr.toList = '-' :: (m + 1).repr.toList := String.toList_append
    rwa [value, ← shown] at numeral

/-- A word is read as an integer exactly if it is the numeral of one that fits, with the suffix for
64 bits, and it is refused exactly if the numeral's value does not fit. Null, truth values and
integers are read back from what is shown of them. -/
theorem integers_read_exactly :
    (∀ word : String,
      (∀ n : Int32, read word = .ok (.i32 n) ↔ IntegerNumeral word.toList n.toInt) ∧
      (∀ refused, read word = .error (.outOfRange refused) ↔
        refused = word ∧ ∃ n, IntegerNumeral word.toList n ∧ ¬ (-2 ^ 31 ≤ n ∧ n < 2 ^ 31)) ∧
      (∀ n : Int64, read word = .ok (.i64 n) ↔
        ∃ digits, word.toList = digits ++ "i64".toList ∧ IntegerNumeral digits n.toInt) ∧
      ∀ refused, read word = .error (.invalidInt64 refused) ↔
        refused = word ∧ ∃ digits n, word.toList = digits ++ "i64".toList ∧
          IntegerNumeral digits n ∧ ¬ (-2 ^ 63 ≤ n ∧ n < 2 ^ 63)) ∧
    ∀ store : Store, read (store.display .null) = .ok .null ∧
      (∀ b, read (store.display (.literal (.bool b))) = .ok (.bool b)) ∧
      (∀ n, read (store.display (.literal (.i32 n))) = .ok (.i32 n)) ∧
      ∀ n, read (store.display (.literal (.i64 n))) = .ok (.i64 n) := by
  have int32 : ∀ (word : String) (n : Int32),
      read word = .ok (.i32 n) ↔ IntegerNumeral word.toList n.toInt := by
    intro word n
    rw [read_eq_iff_numberWord rfl]
    exact ⟨fun | .int32 numeral => numeral, .int32⟩
  have int64 : ∀ (word : String) (n : Int64), read word = .ok (.i64 n) ↔
      ∃ digits, word.toList = digits ++ "i64".toList ∧ IntegerNumeral digits n.toInt := by
    intro word n
    rw [read_eq_iff_numberWord rfl]
    exact ⟨fun | .int64 suffixed numeral => ⟨_, suffixed, numeral⟩,
      fun ⟨_, suffixed, numeral⟩ => .int64 suffixed numeral⟩
  refine ⟨fun word => ⟨int32 word, fun refused => ?_, int64 word, fun refused => ?_⟩,
    fun store => ⟨rfl, fun b => by cases b <;> rfl, fun n => ?_, fun n => ?_⟩⟩
  · rw [read_eq_iff_numberWord rfl]
    constructor
    · intro sort
      cases sort with
      | outOfRange numeral beyond => exact ⟨rfl, _, numeral, beyond⟩
    · rintro ⟨rfl, n, numeral, beyond⟩
      exact .outOfRange numeral beyond
  · rw [read_eq_iff_numberWord rfl]
    constructor
    · intro sort
      cases sort with
      | invalidInt64 suffixed numeral beyond => exact ⟨rfl, _, _, suffixed, numeral, beyond⟩
    · rintro ⟨rfl, digits, n, suffixed, numeral, beyond⟩
      exact .invalidInt64 suffixed numeral beyond
  · exact (int32 _ n).mpr (integerNumeral_toString n.toInt)
  · exact (int64 _ n).mpr ⟨_, String.toList_append, integerNumeral_toString n.toInt⟩

/-- A word is read as a floating-point number exactly if it is a decimal and no integer, or a minus
before a special word; the number is the nearest to the decimal, or what the special word stands
for. Without a minus, special words are text. -/
theorem floats_read_exactly (word : String) :
    (∀ x, read word = .ok (.f64 x) ↔
      ((∃ decimal, DecimalNumeral word.toList decimal ∧ decimal.toBinary64 = x) ∧
        ∀ n, ¬ IntegerNumeral word.toList n) ∨
      ∃ text, word.toList = '-' :: text ∧ SpecialWord true text x) ∧
    ∀ text x, SpecialWord false text x → word.toList = text ∨ word.toList = '+' :: text →
      read word = .ok (.str word) := by
  constructor
  · intro x
    rw [read_eq_iff_numberWord rfl]
    constructor
    · intro sort
      cases sort with
      | decimal numeral noInteger => exact Or.inl ⟨⟨_, numeral, rfl⟩, noInteger⟩
      | special signed spelled => exact Or.inr ⟨_, signed, spelled⟩
    · rintro (⟨⟨decimal, numeral, rfl⟩, noInteger⟩ | ⟨text, signed, spelled⟩)
      · exact .decimal numeral noInteger
      · exact .special signed spelled
  · intro text x spelled written
    have plain : startsNumeric word.toList = false := by
      rcases written with rfl | written
      · exact spelled.startsNumeric
      · rw [written]
        rfl
    refine (read_of_unquoted ?_ ?_).trans (readBare_of_not_startsNumeric plain)
    · have others : ∀ keyword ∈ ["null", "true", "false"], keyword.toList.map Char.toLower ∉
          ["inf".toList, "infinity".toList, "nan".toList] ∧ keyword.toList.head? ≠ some '+' := by
        decide
      rintro keyword listed rfl
      obtain ⟨otherWord, otherSign⟩ := others word listed
      rcases written with rfl | written
      · exact otherWord spelled.lowered
      · simp [written] at otherSign
    · intro c first
      rcases written with rfl | written
      · obtain ⟨_, rest, split, letter⟩ := spelled.begins
        obtain rfl : _ = c := by simpa [split] using first
        constructor <;> rintro rfl <;> revert letter <;> decide
      · obtain rfl : '+' = c := by simpa [written] using first
        decide

/-- A minus makes a number of a word that is no decimal. -/
theorem minus_infinity_read :
    read "-inf" = .ok (.f64 (.infinity true)) ∧ read "inf" = .ok (.str "inf") ∧
      read "+NaN" = .ok (.str "+NaN") ∧ ∀ decimal, ¬ DecimalNumeral "-inf".toList decimal := by
  have infinity : ∀ negative, SpecialWord negative "inf".toList (.infinity negative) :=
    fun _ => .infinity (Or.inl (by decide))
  have notANumber : SpecialWord false "NaN".toList (.notANumber false) := .notANumber (by decide)
  refine ⟨?_, ?_, ?_, fun decimal numeral => numeral.lacks_i (by decide)⟩
  · exact ((floats_read_exactly "-inf").1 _).mpr (Or.inr ⟨"inf".toList, rfl, infinity true⟩)
  · exact (floats_read_exactly "inf").2 _ _ (infinity false) (Or.inl rfl)
  · exact (floats_read_exactly "+NaN").2 _ _ notANumber (Or.inr rfl)

end Literal

end LateBinding
