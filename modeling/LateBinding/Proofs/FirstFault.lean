import LateBinding.Proofs.TypeReading
import Mathlib.Data.List.DropRight

/-!
# Where a text stops being a type name

A malformed text is reported with the place of the first character that no type name has there: what
stands before the place is the start of a type name, and with that character it is not. At the end
of the text the text itself is the start of a type name, but no type name.

What may come next depends on little. A `Position` counts the lists of arguments that are open, and
says whether a type is wanted or stands just before. A single token leads from one position to the
next, so that runs of positions recognize the grammar from left to right, and a place is hopeless
when no token that begins there fits the position. Names are arbitrary here: whether a definition
has the name, and how many arguments it takes, is no matter of the grammar.
-/
namespace LateBinding

namespace TypeName

/-! ## Positions -/

/-- Where one stands between two tokens of a type name: in so many open lists of arguments, before a
type or just past one. Past a bare name its arguments may follow. -/
inductive Position
  | wanting (depth : Nat)
  | past (depth : Nat) (bare : Bool)
deriving DecidableEq, Repr

namespace Position

variable {position next : Position} {token : Token} {tokens : List Token} {depth : Nat}
  {bare : Bool}

/-- Where a token leads, if it fits. -/
def next? : Position → Token → Option Position
  | .wanting depth, .name _ => some (.past depth true)
  | .past depth bare, .opening => if bare then some (.wanting (depth + 1)) else none
  | .past (depth + 1) _, .comma => some (.wanting (depth + 1))
  | .past (depth + 1) _, .closing => some (.past depth false)
  | _, _ => none

/-- Where tokens lead, if all of them fit. -/
def after? (position : Position) (tokens : List Token) : Option Position :=
  tokens.foldlM next? position

/-- Whether tokens lead to the end of a type name. -/
def Completes (position : Position) (tokens : List Token) : Prop :=
  ∃ bare, position.after? tokens = some (.past 0 bare)

/-- Where a type is wanted, nothing but a name fits. -/
theorem next?_wanting_iff :
    (wanting depth).next? token = some next ↔
      ∃ name, token = .name name ∧ next = .past depth true := by
  cases token <;> simp [next?, eq_comm]

/-- Past a type its arguments may follow if it is a bare name, and in a list another type or the end
of the list. -/
theorem next?_past_iff :
    (past depth bare).next? token = some next ↔
      (token = .opening ∧ bare = true ∧ next = .wanting (depth + 1)) ∨
      (token = .comma ∧ 0 < depth ∧ next = .wanting depth) ∨
      (token = .closing ∧ 0 < depth ∧ next = .past (depth - 1) false) := by
  cases token <;> cases bare <;> cases depth <;> simp [next?, eq_comm]

/-- A token is taken first, and the others from where it leads. -/
theorem after?_cons_iff {last : Position} :
    position.after? (token :: tokens) = some last ↔
      ∃ next, position.next? token = some next ∧ next.after? tokens = some last := by
  rw [after?, List.foldlM_cons, Option.bind_eq_bind, Option.bind_eq_some_iff]
  rfl

/-- Tokens lead on from where those before them have led. -/
theorem after?_append_iff {later : List Token} {last : Position} :
    position.after? (tokens ++ later) = some last ↔
      ∃ between, position.after? tokens = some between ∧ between.after? later = some last := by
  rw [after?, List.foldlM_append, Option.bind_eq_bind, Option.bind_eq_some_iff]
  rfl

/-- Nothing more is needed exactly when a type has been read and no list is open. -/
theorem completes_nil_iff : position.Completes [] ↔ ∃ bare, position = .past 0 bare := by
  simp [Completes, after?]

/-- What completes a position leads to one that the rest completes. -/
theorem completes_cons_iff :
    position.Completes (token :: tokens) ↔
      ∃ next, position.next? token = some next ∧ next.Completes tokens := by
  simp only [Completes, after?_cons_iff]
  grind

/-- A front of what completes a position leads somewhere, and the rest completes it there. -/
theorem completes_append_iff {later : List Token} :
    position.Completes (tokens ++ later) ↔
      ∃ between, position.after? tokens = some between ∧ between.Completes later := by
  simp only [Completes, after?_append_iff]
  grind

end Position

/-! ## Positions in the grammar -/

open Position

mutual

/-- The tokens of an expression lead from before a type to past it, in any depth. -/
theorem Derives.leads {tokens : List Token} {expression : Expression} :
    Derives tokens expression → ∀ depth, ∃ bare,
      (wanting depth).after? tokens = some (past depth bare)
  | .plain _, depth => ⟨true, rfl⟩
  | .applied name inside, depth => by
    obtain ⟨bare, leads⟩ := inside.leads depth
    refine ⟨false, after?_cons_iff.mpr ⟨past depth true, rfl, ?_⟩⟩
    refine after?_cons_iff.mpr ⟨wanting (depth + 1), rfl, ?_⟩
    exact after?_append_iff.mpr ⟨past (depth + 1) bare, leads, rfl⟩

/-- The tokens of expressions between commas lead from before the first to past the last. -/
theorem DerivesAll.leads {tokens : List Token} {expressions : List Expression} :
    DerivesAll tokens expressions → ∀ depth, ∃ bare,
      (wanting (depth + 1)).after? tokens = some (past (depth + 1) bare)
  | .one first, depth => first.leads (depth + 1)
  | .more first later, depth => by
    obtain ⟨bare, leads⟩ := first.leads (depth + 1)
    obtain ⟨laterBare, laterLeads⟩ := later.leads depth
    refine ⟨laterBare, after?_append_iff.mpr ⟨past (depth + 1) bare, leads, ?_⟩⟩
    exact after?_cons_iff.mpr ⟨wanting (depth + 1), rfl, laterLeads⟩

end

/-- Whether tokens begin with those of an expression, with all of its arguments, and complete a type
name from there. -/
def BeginsWithType (depth : Nat) (tokens : List Token) : Prop :=
  ∃ first expression bare rest, tokens = first ++ rest ∧ Derives first expression ∧
    (past depth bare).Completes rest ∧ rest.head? ≠ some .opening

/-- Whether tokens begin with those of expressions between commas and the end of their list, and
complete a type name from there. -/
def BeginsWithList (depth : Nat) (tokens : List Token) : Prop :=
  ∃ inside expressions rest, tokens = inside ++ .closing :: rest ∧
    DerivesAll inside expressions ∧ (past depth false).Completes rest

section Completing

variable {depth : Nat} {tokens : List Token}

/-- A type comes first where one is wanted, provided that lists come first in what is shorter. -/
theorem beginsWithType_of_lists (lists : ∀ {within depth}, within.length < tokens.length →
      (wanting (depth + 1)).Completes within → BeginsWithList depth within)
    (completes : (wanting depth).Completes tokens) : BeginsWithType depth tokens := by
  cases tokens with
  | nil => obtain ⟨_, ⟨⟩⟩ := completes_nil_iff.mp completes
  | cons token others =>
    obtain ⟨_, leads, completes⟩ := completes_cons_iff.mp completes
    obtain ⟨name, rfl, rfl⟩ := next?_wanting_iff.mp leads
    by_cases opens : ∃ within, others = .opening :: within
    · obtain ⟨within, rfl⟩ := opens
      obtain ⟨_, ⟨⟩, completes⟩ := completes_cons_iff.mp completes
      have shorter : within.length < (Token.name name :: .opening :: within).length := by
        rw [List.length_cons, List.length_cons]
        omega
      obtain ⟨inside, expressions, rest, rfl, derived, completes⟩ := lists shorter completes
      refine ⟨_, _, false, rest, by simp, .applied name derived, completes, fun opened => ?_⟩
      obtain ⟨_, rfl⟩ := List.head?_eq_some_iff.mp opened
      obtain ⟨_, leads, -⟩ := completes_cons_iff.mp completes
      simp [next?_past_iff] at leads
    · refine ⟨[.name name], _, true, others, rfl, .plain name, completes, fun opened => ?_⟩
      exact opens (List.head?_eq_some_iff.mp opened)

/-- A list goes on after its first type, provided that lists come first in what is shorter. -/
theorem beginsWithList_of_type (lists : ∀ {within depth}, within.length < tokens.length →
      (wanting (depth + 1)).Completes within → BeginsWithList depth within)
    (begins : BeginsWithType (depth + 1) tokens) : BeginsWithList depth tokens := by
  obtain ⟨first, expression, bare, rest, rfl, derived, completes, unopened⟩ := begins
  cases rest with
  | nil => obtain ⟨_, ⟨⟩⟩ := completes_nil_iff.mp completes
  | cons token others =>
    obtain ⟨_, leads, completes⟩ := completes_cons_iff.mp completes
    rcases next?_past_iff.mp leads with ⟨rfl, -⟩ | ⟨rfl, -, rfl⟩ | ⟨rfl, -, rfl⟩
    · exact absurd rfl unopened
    · have shorter : others.length < (first ++ .comma :: others).length := by
        rw [List.length_append, List.length_cons]
        omega
      obtain ⟨inside, expressions, rest, rfl, allDerived, completes⟩ := lists shorter completes
      exact ⟨_, _, rest, by simp, .more derived allDerived, completes⟩
    · exact ⟨first, _, others, rfl, .one derived, completes⟩

/-- What completes a position inside an open list begins with the types that are left of the list.
Each further list inside is found in fewer tokens, so the two descents, into a type and into a list,
end. -/
theorem beginsWithList_of_completes {depth : Nat} {tokens : List Token}
    (completes : (wanting (depth + 1)).Completes tokens) : BeginsWithList depth tokens :=
  have lists {within : List Token} {depth : Nat} (_shorter : within.length < tokens.length)
      (completes : (wanting (depth + 1)).Completes within) : BeginsWithList depth within :=
    beginsWithList_of_completes completes
  beginsWithList_of_type lists (beginsWithType_of_lists lists completes)
termination_by tokens.length

/-- Tokens are those of an expression exactly when they lead from before a type to the end. -/
theorem derives_iff_completes :
    (∃ expression, Derives tokens expression) ↔ (wanting 0).Completes tokens := by
  constructor
  · rintro ⟨expression, derived⟩
    exact derived.leads 0
  · intro completes
    obtain ⟨first, expression, bare, rest, rfl, derived, completes, unopened⟩ :=
      beginsWithType_of_lists (fun _ => beginsWithList_of_completes) completes
    cases rest with
    | nil => exact ⟨expression, by simpa using derived⟩
    | cons token others =>
      obtain ⟨_, leads, -⟩ := completes_cons_iff.mp completes
      rcases next?_past_iff.mp leads with ⟨rfl, -⟩ | ⟨-, deep, -⟩ | ⟨-, deep, -⟩
      · exact absurd rfl unopened
      · exact absurd deep (Nat.lt_irrefl 0)
      · exact absurd deep (Nat.lt_irrefl 0)

end Completing

/-- Every position can be completed: by a name where a type is wanted, and then by the end of each
open list. -/
theorem Position.exists_completes (position : Position) :
    ∃ text tokens, Lexes text tokens ∧ position.Completes tokens := by
  have closes : ∀ depth bare, ∃ text tokens, Lexes text tokens ∧
      (past depth bare).Completes tokens := by
    intro depth
    induction depth with
    | zero => exact fun bare => ⟨[], [], .done, completes_nil_iff.mpr ⟨bare, rfl⟩⟩
    | succ depth inductionHypothesis =>
      intro bare
      obtain ⟨text, tokens, lexes, completes⟩ := inductionHypothesis false
      refine ⟨'>' :: text, .closing :: tokens, .mark rfl lexes, completes_cons_iff.mpr ?_⟩
      exact ⟨past depth false, rfl, completes⟩
  cases position with
  | past depth bare => exact closes depth bare
  | wanting depth =>
    obtain ⟨text, tokens, lexes, completes⟩ := closes depth true
    -- a blank ends the name, whatever comes after it
    refine ⟨"x".toList ++ ' ' :: text, .name "x" :: tokens, ?_, completes_cons_iff.mpr ?_⟩
    · have characters : "x".toList.all isNameCharacter = true := by decide
      exact .name (by decide) (List.all_eq_true.mp characters) (nameEnds_cons.mpr (by decide))
        (.blank (by decide) lexes)
    · exact ⟨past depth true, rfl, completes⟩

/-- Whether a text is one of the grammar. -/
def IsTypeName (text : String) : Prop :=
  ∃ tokens expression, Lexes text.toList tokens ∧ Derives tokens expression

/-- A text is one of the grammar exactly when its tokens lead from before a type to the end. -/
theorem isTypeName_iff {text : String} :
    IsTypeName text ↔ ∃ tokens, Lexes text.toList tokens ∧ (wanting 0).Completes tokens := by
  simp only [IsTypeName, ← derives_iff_completes]
  grind

/-! ## Positions in a text -/

/-- Whether the front of a text leads from one position to another, with so much of the text left.
No name goes on from the front into what is left. -/
def Reaches (start : Position) (text : List Char) (position : Position) (rest : List Char) : Prop :=
  ∃ before tokens, text = before ++ rest ∧ Lexes before tokens ∧ Apart before rest ∧
    start.after? tokens = some position

namespace Reaches

variable {start middle position : Position} {text between rest : List Char}

/-- A front that leads to a place goes on with one that leads from there. -/
theorem trans (first : Reaches start text middle between)
    (second : Reaches middle between position rest) : Reaches start text position rest := by
  obtain ⟨before, tokens, rfl, lexes, apart, leads⟩ := first
  obtain ⟨within, others, rfl, lexesWithin, apartWithin, leadsOn⟩ := second
  refine ⟨before ++ within, tokens ++ others, by simp, ?_, ?_, ?_⟩
  · exact (lexes.append_iff (apart.of_append_right within rest)).mpr ⟨others, rfl, lexesWithin⟩
  · exact apart.append apartWithin
  · exact after?_append_iff.mpr ⟨middle, leads, leadsOn⟩

/-- Blanks lead nowhere. -/
theorem blanks (position : Position) (text : List Char) :
    Reaches position text position (Text.skipBlanks text) := by
  refine ⟨text.takeWhile Text.isBlank, [], List.takeWhile_append_dropWhile.symm, ?_, ?_, rfl⟩
  · rw [Lexes.nil_iff, Text.skipBlanks, List.dropWhile_eq_nil_iff]
    exact List.all_eq_true.mp List.all_takeWhile
  · refine Or.inl fun c last => isNameCharacter_of_isBlank ?_
    exact List.all_eq_true.mp List.all_takeWhile c (List.mem_of_getLast? last)

/-- A mark leads on as its token does, blanks before it included. -/
theorem mark (token : Token) {c : Char} (written : token.mark? = some c)
    (leads : start.next? token = some position) (begins : Text.skipBlanks text = c :: rest) :
    Reaches start text position rest := by
  refine (blanks start text).trans (begins ▸ ⟨[c], [token], rfl, .mark written .done, ?_, ?_⟩)
  · exact Or.inl fun last same => Option.some.inj same ▸ (mark_facts written).2
  · exact after?_cons_iff.mpr ⟨position, leads, rfl⟩

/-- A name leads past it where a type is wanted, whatever the depth, once it is seen to be complete:
what follows it could not lengthen it. -/
theorem name {name : String} {after : List Char} (depth : Nat)
    (begins : Text.skipBlanks text = name.toList ++ after) (nonempty : name.toList ≠ [])
    (characters : ∀ c ∈ name.toList, isNameCharacter c = true) (ends : NameEnds after) :
    Reaches (wanting depth) text (past depth true) after := by
  refine (blanks _ text).trans (begins ▸ ⟨name.toList, [.name name], rfl, ?_, Or.inr ends, rfl⟩)
  have lexes : Lexes (name.toList ++ []) [.name name] :=
    .name nonempty characters (by simp [NameEnds]) .done
  simpa using lexes

/-- Going on never lengthens what is left. This pays for the steps of the reader. -/
theorem length_le (reaches : Reaches start text position rest) : rest.length ≤ text.length := by
  obtain ⟨before, _, rfl, -⟩ := reaches
  simp

end Reaches

/-- Whether nothing that begins as what is left of a text does completes a type name. -/
def Stuck (position : Position) (rest : List Char) : Prop :=
  ∀ text tokens, text.head? = rest.head? → Lexes text tokens → ¬ position.Completes tokens

/-- A text that leads to a position is the start of a type name. -/
theorem exists_isTypeName {before : List Char} {tokens : List Token} {position : Position}
    (lexes : Lexes before tokens) (leads : (wanting 0).after? tokens = some position) :
    ∃ more, IsTypeName (String.ofList before ++ more) := by
  obtain ⟨text, added, lexesText, completes⟩ := position.exists_completes
  refine ⟨String.ofList (' ' :: text), isTypeName_iff.mpr ⟨tokens ++ added, ?_, ?_⟩⟩
  · rw [String.toList_append, String.toList_ofList, String.toList_ofList]
    -- the blank keeps names before it from going on
    have apart : Apart before (' ' :: text) := Or.inr (nameEnds_cons.mpr (by decide))
    exact (lexes.append_iff apart).mpr ⟨added, rfl, .blank (by decide) lexesText⟩
  · exact completes_append_iff.mpr ⟨position, leads, completes⟩

/-- A text that goes on as one that leads to a position where it is stuck is no type name. -/
theorem Stuck.not_isTypeName {before rest : List Char} {tokens : List Token} {position : Position}
    (stuck : Stuck position rest) (lexes : Lexes before tokens) (apart : Apart before rest)
    (leads : (wanting 0).after? tokens = some position) (more : String)
    (alike : more.toList.head? = rest.head?) : ¬ IsTypeName (String.ofList before ++ more) := by
  intro isTypeName
  obtain ⟨all, lexesAll, completes⟩ := isTypeName_iff.mp isTypeName
  rw [String.toList_append, String.toList_ofList] at lexesAll
  have apartMore : Apart before more.toList := by rwa [Apart, NameEnds, alike]
  obtain ⟨later, rfl, lexesLater⟩ := (lexes.append_iff apartMore).mp lexesAll
  obtain ⟨between, reached, completes⟩ := completes_append_iff.mp completes
  obtain rfl := Option.some.inj (leads.symm.trans reached)
  exact stuck _ later alike lexesLater completes

/-- A position is stuck before the end when no token that leads on begins with the next
character. -/
theorem stuck_of_refuses {position : Position} {rest : List Char}
    (unblank : ∀ c ∈ rest.head?, Text.isBlank c = false)
    (unfinished : rest = [] → ∀ bare, position ≠ past 0 bare)
    (refusesName : ¬ NameEnds rest → ∀ name, position.next? (.name name) = none)
    (refusesMark : ∀ token c, Token.mark? token = some c → rest.head? = some c →
      position.next? token = none) : Stuck position rest := by
  intro text tokens alike lexes completes
  have kept : Text.skipBlanks text = text := by
    cases text with
    | nil => rfl
    | cons c others => exact Text.skipBlanks_cons_of_not_blank (unblank c (by simp [← alike])) _
  rcases lexes.start with ⟨nothing, rfl⟩ | ⟨token, c, _, _, first, written, rfl, -⟩ |
    ⟨name, after, _, first, nonempty, characters, -, rfl, -⟩
  · obtain ⟨bare, final⟩ := completes_nil_iff.mp completes
    rw [kept] at nothing
    rw [nothing, List.head?_nil, eq_comm, List.head?_eq_none_iff] at alike
    exact unfinished alike bare final
  · obtain ⟨_, leads, -⟩ := completes_cons_iff.mp completes
    rw [kept] at first
    rw [refusesMark token c written (by simp [← alike, first])] at leads
    cases leads
  · obtain ⟨_, leads, -⟩ := completes_cons_iff.mp completes
    have begun : ¬ NameEnds rest := by
      rw [NameEnds, ← alike, ← kept, first]
      exact not_nameEnds_name nonempty characters after
    rw [refusesName begun name] at leads
    cases leads

/-- A wanted type is missing where no name begins behind the blanks. -/
theorem stuck_wanting {text : List Char} (nameless : NameEnds (Text.skipBlanks text))
    (depth : Nat) : Stuck (wanting depth) (Text.skipBlanks text) := by
  refine stuck_of_refuses (Text.isBlank_of_head?_skipBlanks text) ?_ (absurd nameless) ?_
  · rintro - bare ⟨⟩
  · intro token c written _
    cases token with
    | name => simp [Token.mark?] at written
    | opening | comma | closing => rfl

/-- Past a type there is a fault where none of the marks that fit comes behind the blanks. -/
theorem stuck_past {text : List Char} {depth : Nat} {bare : Bool}
    (unfinished : Text.skipBlanks text = [] → depth ≠ 0)
    (unopened : bare = true → ∀ inside, Text.skipBlanks text ≠ '<' :: inside)
    (unseparated : depth ≠ 0 → ∀ more, Text.skipBlanks text ≠ ',' :: more)
    (unclosed : depth ≠ 0 → ∀ final, Text.skipBlanks text ≠ '>' :: final) :
    Stuck (past depth bare) (Text.skipBlanks text) := by
  refine stuck_of_refuses (Text.isBlank_of_head?_skipBlanks text) ?_ (fun _ _ => rfl) ?_
  · rintro ended _ ⟨⟩
    exact unfinished ended rfl
  · intro token c written first
    obtain ⟨others, begins⟩ := List.head?_eq_some_iff.mp first
    rw [Option.eq_none_iff_forall_ne_some]
    intro next leads
    rcases next?_past_iff.mp leads with ⟨rfl, isBare, -⟩ | ⟨rfl, deep, -⟩ | ⟨rfl, deep, -⟩
    all_goals obtain rfl := Option.some.inj written
    · exact unopened isBare others begins
    · exact unseparated (Nat.ne_of_gt deep) others begins
    · exact unclosed (Nat.ne_of_gt deep) others begins

/-! ## The reader's place -/

section Reading

variable {registry : Registry} {input : String} {text rest : List Char}

/-- Reading a type leads from before a type to past it. Arguments in angle brackets are not left
over. -/
theorem reading_reaches (registry : Registry) (input : String) (steps : Nat) :
    (∀ {text type rest}, readType registry input steps text = .ok (type, rest) →
      ∃ bare, (∀ depth, Reaches (wanting depth) text (past depth bare) rest) ∧
        (bare = true → ∀ inside, Text.skipBlanks rest ≠ '<' :: inside)) ∧
    (∀ {text types rest}, readList registry input steps text = .ok (types, rest) →
      ∀ depth, Reaches (wanting (depth + 1)) text (past depth false) rest) := by
  induction steps with
  | zero =>
    constructor
    · intro text type rest read
      simp [readType] at read
    · intro text types rest read
      simp [readList] at read
  | succ steps inductionHypothesis =>
    obtain ⟨typeReaches, listReaches⟩ := inductionHypothesis
    constructor
    · intro text type rest read
      obtain ⟨name, after, types, ⟨start, characters, ends⟩, nonempty, list, -⟩ :=
        readType_succ_eq_ok_iff.mp read
      have named := fun depth => Reaches.name depth start nonempty characters ends
      by_cases opens : ∃ inside, Text.skipBlanks after = '<' :: inside
      · obtain ⟨inside, opened⟩ := opens
        rw [readArguments_of_opened opened] at list
        refine ⟨false, fun depth => ?_, (absurd · Bool.false_ne_true)⟩
        have bracket : Reaches (past depth true) after (wanting (depth + 1)) inside :=
          .mark .opening rfl rfl opened
        exact ((named depth).trans bracket).trans (listReaches list depth)
      · rw [readArguments_of_unopened (not_exists.mp opens)] at list
        obtain ⟨-, rfl⟩ := Prod.mk.inj (Except.ok.inj list)
        refine ⟨true, fun depth => (named depth).trans (.blanks _ after), fun _ => ?_⟩
        rw [Text.skipBlanks, List.dropWhile_idempotent]
        exact not_exists.mp opens
    · intro text types rest read depth
      obtain ⟨first, between, firstRead, continuation⟩ := readList_succ_eq_ok_iff.mp read
      obtain ⟨bare, firstReaches, -⟩ := typeReaches firstRead
      rcases continuation with ⟨more, others, separated, listed, -⟩ | ⟨closed, -⟩
      · have comma : Reaches (past (depth + 1) bare) between (wanting (depth + 1)) more :=
          .mark .comma rfl rfl separated
        exact ((firstReaches (depth + 1)).trans comma).trans (listReaches listed depth)
      · have closing : Reaches (past (depth + 1) bare) between (past depth false) rest :=
          .mark .closing rfl rfl closed
        exact (firstReaches (depth + 1)).trans closing

/-- What a name stands for is no matter of the grammar. -/
theorem denote_ne_malformed {name : String} {types : List Ty} {named : String} {offset : Nat} :
    denote registry name types ≠ .error (.malformed named offset) := by
  rw [denote]
  grind

/-- Whether a text, where a type is wanted inside as many open lists as given or more, leads to a
hopeless place, and an error reports that place. -/
def ComesToStuck (input : String) (error : TypeNameError) (least : Nat) (text : List Char) : Prop :=
  ∃ rest, malformedAt input rest = error ∧ ∀ depth, least ≤ depth → ∃ position,
    Reaches (wanting depth) text position rest ∧ Stuck position rest

namespace ComesToStuck

variable {error : TypeNameError} {least : Nat} {within : List Char}

/-- More open lists are no way out. -/
theorem mono {more : Nat} (stuck : ComesToStuck input error least text) (fewer : least ≤ more) :
    ComesToStuck input error more text := by
  obtain ⟨rest, place, each⟩ := stuck
  exact ⟨rest, place, fun depth enough => each depth (Nat.le_trans fewer enough)⟩

/-- What leads to where a type is wanted comes to the hopeless place that is reached from there. -/
theorem of_reaches (gained : Nat) (leads : ∀ depth, least ≤ depth →
      Reaches (wanting depth) text (wanting (depth + gained)) within)
    (stuck : ComesToStuck input error (least + gained) within) :
    ComesToStuck input error least text := by
  obtain ⟨rest, place, each⟩ := stuck
  refine ⟨rest, place, fun depth enough => ?_⟩
  obtain ⟨position, reaches, isStuck⟩ := each (depth + gained) (Nat.add_le_add_right enough gained)
  exact ⟨position, (leads depth enough).trans reaches, isStuck⟩

end ComesToStuck

section Steps

variable {steps : Nat} {named : String} {offset : Nat}
  (listStuck : ∀ {text}, text.length + 1 < steps →
    readList registry input steps text = .error (.malformed named offset) →
    ComesToStuck input (.malformed named offset) 1 text)
include listStuck

/-- A malformed type has no name where one is wanted, or malformed arguments behind its name. -/
theorem readType_stuck (enough : text.length < steps + 1)
    (refused : readType registry input (steps + 1) text = .error (.malformed named offset)) :
    ComesToStuck input (.malformed named offset) 0 text := by
  rcases nameEnds_or_name (Text.skipBlanks text) with
    nameless | ⟨name, after, start, nonempty, characters, ends⟩
  · rw [readType_succ_nameless nameless] at refused
    exact ⟨_, Except.error.inj refused, fun depth _ =>
      ⟨wanting depth, .blanks _ text, stuck_wanting nameless depth⟩⟩
  · rw [readType_succ_named start nonempty characters ends] at refused
    -- looking up the name makes no malformed text, so its arguments are
    have list : readArguments registry input steps after = .error (.malformed named offset) := by
      rcases bind_eq_error.mp refused with list | ⟨_, -, later⟩
      · exact list
      · rcases bind_eq_error.mp later with denoted | ⟨_, -, ⟨⟩⟩
        exact absurd denoted denote_ne_malformed
    by_cases opens : ∃ inside, Text.skipBlanks after = '<' :: inside
    · obtain ⟨inside, opened⟩ := opens
      rw [readArguments_of_opened opened] at list
      have bracket : ∀ depth, 0 ≤ depth →
          Reaches (wanting depth) text (wanting (depth + 1)) inside := fun depth _ =>
        (Reaches.name depth start nonempty characters ends).trans (.mark .opening rfl rfl opened)
      have shorter : inside.length + 1 < steps := by
        have positive := List.length_pos_iff.mpr nonempty
        have ofText := Text.length_skipBlanks_le text
        have ofAfter := Text.length_skipBlanks_le after
        rw [start, List.length_append] at ofText
        rw [opened, List.length_cons] at ofAfter
        omega
      exact .of_reaches 1 bracket (listStuck shorter list)
    · rw [readArguments_of_unopened (not_exists.mp opens)] at list
      cases list

/-- A malformed list has a malformed type in front, or malformed types behind the first comma, or
neither a comma nor a bracket behind its first type. -/
theorem readList_stuck (typeStuck : ∀ {text}, text.length < steps →
      readType registry input steps text = .error (.malformed named offset) →
      ComesToStuck input (.malformed named offset) 0 text)
    (enough : text.length + 1 < steps + 1)
    (refused : readList registry input (steps + 1) text = .error (.malformed named offset)) :
    ComesToStuck input (.malformed named offset) 1 text := by
  rw [readList_succ] at refused
  rcases bind_eq_error.mp refused with firstRefused | ⟨⟨first, between⟩, firstRead, later⟩
  · exact (typeStuck (Nat.lt_of_succ_lt_succ enough) firstRefused).mono (Nat.zero_le 1)
  · obtain ⟨bare, firstReaches, unopened⟩ := (reading_reaches registry input steps).1 firstRead
    simp only at later
    by_cases separates : ∃ more, Text.skipBlanks between = ',' :: more
    · obtain ⟨more, separated⟩ := separates
      rw [readFurther_of_separated separated] at later
      have comma : ∀ depth, 1 ≤ depth → Reaches (wanting depth) text (wanting depth) more := by
        intro depth inside
        have leads : (past depth bare).next? .comma = some (wanting depth) :=
          next?_past_iff.mpr (Or.inr (Or.inl ⟨rfl, inside, rfl⟩))
        exact (firstReaches depth).trans (.mark .comma rfl leads separated)
      have shorter : more.length + 1 < steps := by
        have ofBetween := Text.length_skipBlanks_le between
        rw [separated, List.length_cons] at ofBetween
        have ofFirst := (firstReaches 0).length_le
        omega
      rcases bind_eq_error.mp later with othersRefused | ⟨_, -, ⟨⟩⟩
      exact .of_reaches 0 comma (listStuck shorter othersRefused)
    by_cases closes : ∃ final, Text.skipBlanks between = '>' :: final
    · obtain ⟨final, closed⟩ := closes
      rw [readFurther_of_closed closed] at later
      cases later
    · have unseparated := not_exists.mp separates
      have unclosed := not_exists.mp closes
      rw [readFurther_of_unmarked unseparated unclosed] at later
      refine ⟨_, Except.error.inj later, fun depth inside => ⟨past depth bare, ?_, ?_⟩⟩
      · exact (firstReaches depth).trans (.blanks _ between)
      · exact stuck_past (fun _ => Nat.ne_of_gt inside) unopened (fun _ => unseparated)
          (fun _ => unclosed)

end Steps

/-- A malformed text is one that reading comes to a hopeless place of. There are enough steps when
there are more than characters. The induction is on the steps; types and lists of them are read in
turn. -/
theorem malformed_stuck (registry : Registry) (input : String) {named : String} {offset : Nat}
    (steps : Nat) :
    (∀ {text}, text.length < steps →
      readType registry input steps text = .error (.malformed named offset) →
      ComesToStuck input (.malformed named offset) 0 text) ∧
    (∀ {text}, text.length + 1 < steps →
      readList registry input steps text = .error (.malformed named offset) →
      ComesToStuck input (.malformed named offset) 1 text) := by
  induction steps with
  | zero => exact ⟨fun enough => absurd enough (Nat.not_lt_zero _),
      fun enough => absurd enough (Nat.not_lt_zero _)⟩
  | succ steps inductionHypothesis =>
    obtain ⟨typeStuck, listStuck⟩ := inductionHypothesis
    exact ⟨readType_stuck listStuck, readList_stuck listStuck typeStuck⟩

/-- A malformed text has been read up to a hopeless place. -/
theorem read_malformed_stuck {named : String} {offset : Nat}
    (refused : read registry input = .error (.malformed named offset)) :
    ∃ rest position, malformedAt input rest = .malformed named offset ∧
      Reaches (wanting 0) input.toList position rest ∧ Stuck position rest := by
  rw [read] at refused
  rcases bind_eq_error.mp refused with typeRefused | ⟨⟨type, after⟩, typeRead, later⟩
  · obtain ⟨rest, place, stuck⟩ :=
      (malformed_stuck registry input _).1 (Nat.lt_succ_self _) typeRefused
    obtain ⟨position, reaches, isStuck⟩ := stuck 0 (Nat.le_refl 0)
    exact ⟨rest, position, place, reaches, isStuck⟩
  · obtain ⟨bare, reaches, unopened⟩ := (reading_reaches registry input _).1 typeRead
    have reached := (reaches 0).trans (.blanks _ after)
    have isStuck : Text.skipBlanks after ≠ [] →
        Stuck (past 0 bare) (Text.skipBlanks after) := fun unfinished =>
      stuck_past (fun ended => absurd ended unfinished) unopened (absurd rfl) (absurd rfl)
    simp only at later
    cases left : Text.skipBlanks after with
    | nil =>
      rw [left] at later
      cases later
    | cons c others =>
      rw [left] at later reached isStuck
      exact ⟨_, _, Except.error.inj later, reached, isStuck (List.cons_ne_nil c others)⟩

end Reading

/-- The reader's count of bytes is the length of the text as it is encoded, so the place of a fault
falls between two characters. -/
theorem byteSize_eq_utf8ByteSize (text : List Char) :
    byteSize text = (String.ofList text).utf8ByteSize := by
  induction text with
  | nil => rfl
  | cons c others inductionHypothesis =>
    rw [byteSize, List.foldr_cons, ← byteSize, inductionHypothesis]
    simp

/-- The place of a malformed text lies between two characters. What stands before it can be
completed to a type name, and what stands before it together with the next character cannot; at the
end of the text the text itself is no type name. -/
theorem malformed_at_first_fault {registry : Registry} {input named : String} {offset : Nat}
    (refused : read registry input = .error (.malformed named offset)) :
    named = input ∧ ∃ before after : String, input = before ++ after ∧
      before.utf8ByteSize = offset ∧ (∃ more, IsTypeName (before ++ more)) ∧
      ((after = "" ∧ ¬ IsTypeName input) ∨
        ∃ c rest, after = String.singleton c ++ rest ∧
          ∀ more, ¬ IsTypeName (before ++ String.singleton c ++ more)) := by
  obtain ⟨rest, position, place, ⟨before, tokens, split, lexes, apart, leads⟩, stuck⟩ :=
    read_malformed_stuck refused
  simp only [malformedAt, TypeNameError.malformed.injEq] at place
  obtain ⟨rfl, rfl⟩ := place
  have whole : input = String.ofList before ++ String.ofList rest := by
    rw [← String.ofList_append, ← split, String.ofList_toList]
  refine ⟨rfl, String.ofList before, String.ofList rest, whole, ?_,
    exists_isTypeName lexes leads, ?_⟩
  · rw [byteSize_eq_utf8ByteSize, byteSize_eq_utf8ByteSize, String.ofList_toList, whole,
      String.utf8ByteSize_append, Nat.add_sub_cancel]
  · cases rest with
    | nil =>
      refine Or.inl ⟨rfl, fun isTypeName => ?_⟩
      exact stuck.not_isTypeName lexes apart leads "" rfl (by simpa [← whole] using isTypeName)
    | cons c others =>
      refine Or.inr ⟨c, String.ofList others, String.ofList_cons, fun more isTypeName => ?_⟩
      rw [String.append_assoc] at isTypeName
      exact stuck.not_isTypeName lexes apart leads _ (by simp) isTypeName

/-- A generic type to write texts with. -/
def cartons : Registry := .ofDefinitions
  [{ name := "Box", kind := .classType, generics := ["T"], declarations := [] }]

/-- A closing bracket too many. The blank before it takes three bytes. -/
theorem cartons_closed_twice :
    read cartons "Box<i32>\u3000>" = .error (.malformed "Box<i32>\u3000>" 11) ∧
      ∃ before after : String, "Box<i32>\u3000>" = before ++ after ∧ before.utf8ByteSize = 11 ∧
        (∃ more, IsTypeName (before ++ more)) ∧
        ((after = "" ∧ ¬ IsTypeName "Box<i32>\u3000>") ∨
          ∃ c rest, after = String.singleton c ++ rest ∧
            ∀ more, ¬ IsTypeName (before ++ String.singleton c ++ more)) := by
  have refused : read cartons "Box<i32>\u3000>" = .error (.malformed "Box<i32>\u3000>" 11) := by
    decide +kernel
  exact ⟨refused, (malformed_at_first_fault refused).2⟩

end TypeName

end LateBinding
