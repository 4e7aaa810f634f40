/-!
# Classes of characters

A class of characters is stored as the list of its maximal runs of code points, lowest first.
Membership is read off the list; nothing else about the class is assumed. White space is the class
that every reader knows: the characters with the property White_Space, which are the spaces of ASCII
and its control characters from tab to carriage return, and the separators beyond.

Readers take the longest run of characters of one class at the start of a text, and go on with what
is left. A text splits in one way into such a run and a rest that does not lengthen it.
-/
namespace LateBinding.Text

/-- Whether a code point lies in one of the ranges, bounds included. -/
def inRanges (ranges : List (Nat × Nat)) (point : Nat) : Bool :=
  ranges.any fun range => range.1 ≤ point && point ≤ range.2

/-- The runs of white space. -/
def blankRanges : List (Nat × Nat) :=
  [(0x9, 0xd), (0x20, 0x20), (0x85, 0x85), (0xa0, 0xa0), (0x1680, 0x1680), (0x2000, 0x200a),
   (0x2028, 0x2029), (0x202f, 0x202f), (0x205f, 0x205f), (0x3000, 0x3000)]

/-- Whether a character is white space. -/
def isBlank (c : Char) : Bool :=
  inRanges blankRanges c.toNat

/-- What is left of a text after its leading white space. -/
def skipBlanks : List Char → List Char :=
  List.dropWhile isBlank

/-! ## The longest run -/

variable {belongs : Char → Bool} {text run rest : List Char}

/-- The longest run at the start is the given one, if nothing behind it could lengthen it. -/
theorem takeWhile_append_eq (characters : ∀ c ∈ run, belongs c = true)
    (ends : ∀ c ∈ rest.head?, belongs c = false) : (run ++ rest).takeWhile belongs = run := by
  rw [List.takeWhile_append_of_pos characters]
  cases rest with
  | nil => simp
  | cons c others => simp [ends c rfl]

/-- What is left behind the longest run is what followed the given one. -/
theorem dropWhile_append_eq (characters : ∀ c ∈ run, belongs c = true)
    (ends : ∀ c ∈ rest.head?, belongs c = false) : (run ++ rest).dropWhile belongs = rest := by
  rw [List.dropWhile_append_of_pos characters]
  cases rest with
  | nil => simp
  | cons c others => simp [ends c rfl]

/-- The longest run of a class and what follows it. -/
theorem takeWhile_dropWhile_iff :
    text.takeWhile belongs = run ∧ text.dropWhile belongs = rest ↔
      text = run ++ rest ∧ (∀ c ∈ run, belongs c = true) ∧ ∀ c ∈ rest.head?, belongs c = false := by
  constructor
  · rintro ⟨rfl, rfl⟩
    refine ⟨List.takeWhile_append_dropWhile.symm, fun c inside => ?_, fun c first => ?_⟩
    · exact List.all_eq_true.mp List.all_takeWhile c inside
    · have stops := List.head?_dropWhile_not belongs text
      rwa [Option.mem_def.mp first] at stops
  · rintro ⟨rfl, characters, ends⟩
    exact ⟨takeWhile_append_eq characters ends, dropWhile_append_eq characters ends⟩

end LateBinding.Text
