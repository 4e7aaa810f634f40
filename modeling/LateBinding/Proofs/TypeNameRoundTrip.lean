import LateBinding.Proofs.TypeReading
import LateBinding.Proofs.WellFormed
import Mathlib.Data.List.Nodup

/-!
# Displayed types are read back

The display name of a type is a text of the grammar: it lexes to the tokens of an expression that
denotes the type, whatever stands behind it, as long as that does not lengthen its last name. This
takes names that can be read: they consist of name characters, none is built in, and no two
definitions share one. It leaves out delegates and parameters, whose names stand for nothing.

So `TypeName.read` gives back every such type from its display name, and types that are displayed
alike are the same.
-/
namespace LateBinding

namespace Registry

/-- Whether the names of the definitions can be told apart and read. -/
structure ReadableNames (registry : Registry) : Prop where
  distinct : (registry.definitions.map (·.name)).Nodup
  nonempty : ∀ definition ∈ registry.definitions, definition.name.toList ≠ []
  characters : ∀ definition ∈ registry.definitions,
    definition.name.toList.all TypeName.isNameCharacter = true
  own : ∀ definition ∈ registry.definitions, TypeName.builtin? definition.name = none

/-- Whether a type is built from primitives, `object` and definitions with an argument for every
parameter. -/
inductive Nameable (registry : Registry) : Ty → Prop
  | primitive (primitive : Primitive) : Nameable registry (.primitive primitive)
  | object : Nameable registry .object
  | named {id : DefinitionId} {definition : Definition} {arguments : List Ty}
      (found : registry.definition? id = some definition)
      (count : arguments.length = definition.generics.length)
      (inside : ∀ argument ∈ arguments, Nameable registry argument) :
      Nameable registry (.named id arguments)

variable {registry : Registry}

/-- Where no two definitions share a name, each is the latest of its name. -/
theorem ReadableNames.latest (readable : registry.ReadableNames) {id : DefinitionId}
    {definition : Definition} (found : registry.definition? id = some definition) :
    registry.Latest definition.name id := by
  refine ⟨⟨definition, found, rfl⟩, ?_⟩
  rintro later further ⟨other, otherFound, same⟩
  have inside := (List.getElem?_eq_some_iff.mp otherFound).1
  refine List.nodup_iff_getElem?_ne_getElem?.mp readable.distinct _ _ further
    (by simpa using inside) ?_
  rw [List.getElem?_map, List.getElem?_map, ← definition?, ← definition?, found, otherFound]
  simp [same]

end Registry

namespace TypeName

variable {registry : Registry}

/-- Whether characters are written with tokens, before any text that does not go on with a name
character. -/
def Writes (shown : List Char) (tokens : List Token) : Prop :=
  ∀ text later, NameEnds text → Lexes text later → Lexes (shown ++ text) (tokens ++ later)

/-- A name writes itself, as long as what follows does not lengthen it. -/
theorem writes_name {name : String} (nonempty : name.toList ≠ [])
    (characters : name.toList.all isNameCharacter = true) : Writes name.toList [.name name] :=
  fun _ _ ends lexes => .name nonempty (List.all_eq_true.mp characters) ends lexes

/-- The names of built-in types are such names. -/
theorem writes_builtIn {name : String} {type : Ty} (known : BuiltIn name type) :
    Writes name.toList [.name name] := by
  rcases known with primitive | _
  · refine writes_name ?_ ?_ <;> cases primitive <;> decide
  · exact writes_name (by decide) (by decide)

/-- Arguments in angle brackets are written where the name and the arguments are. -/
theorem Writes.applied {name : String} {shown : List Char} {tokens : List Token}
    (writesName : Writes name.toList [.name name]) (writes : Writes shown tokens) :
    Writes (name.toList ++ '<' :: (shown ++ ['>']))
      (.name name :: .opening :: (tokens ++ [.closing])) := by
  intro text later _ lexes
  have closed : Lexes (shown ++ '>' :: text) (tokens ++ .closing :: later) :=
    writes _ _ (nameEnds_cons.mpr (by decide)) (.mark rfl lexes)
  have opened : Lexes ('<' :: (shown ++ '>' :: text)) (.opening :: (tokens ++ .closing :: later)) :=
    .mark rfl closed
  simpa using writesName _ _ (nameEnds_cons.mpr (by decide)) opened

/-- A comma and a blank stand between two arguments. -/
theorem Writes.separated {shown others : List Char} {tokens rest : List Token}
    (first : Writes shown tokens) (later : Writes others rest) :
    Writes (shown ++ ',' :: ' ' :: others) (tokens ++ .comma :: rest) := by
  intro text further ends lexes
  have separated : Lexes (',' :: ' ' :: (others ++ text)) (.comma :: (rest ++ further)) :=
    .mark rfl (.blank (by decide) (later text further ends lexes))
  simpa using first _ _ (nameEnds_cons.mpr (by decide)) separated

/-- Whether a type is displayed by the tokens of an expression that denotes it. -/
def Displayed (registry : Registry) (type : Ty) : Prop :=
  ∃ tokens expression, Derives tokens expression ∧ Denotes registry expression type ∧
    Writes (registry.typeName type).toList tokens

/-- Displayed types are displayed together, between commas. -/
theorem displayed_all {types : List Ty} (given : types ≠ [])
    (each : ∀ type ∈ types, Displayed registry type) :
    ∃ tokens expressions, DerivesAll tokens expressions ∧ DenotesAll registry expressions types ∧
      Writes (commaSeparated (types.map registry.typeName)).toList tokens := by
  induction types with
  | nil => simp at given
  | cons type rest inductionHypothesis =>
    obtain ⟨tokens, expression, derived, denoted, writes⟩ := each type List.mem_cons_self
    cases rest with
    | nil =>
      refine ⟨tokens, [expression], .one derived, .cons denoted .nil, ?_⟩
      simpa [commaSeparated] using writes
    | cons second others =>
      obtain ⟨restTokens, expressions, allDerived, allDenoted, allWrites⟩ :=
        inductionHypothesis (by simp) fun type inside => each type (List.mem_cons_of_mem _ inside)
      refine ⟨_, _, .more derived allDerived, .cons denoted allDenoted, ?_⟩
      have separated := writes.separated allWrites
      rw [commaSeparated] at separated ⊢
      rw [List.map_cons, List.map_cons, String.intercalate_cons_cons]
      simpa using separated

/-- A definition with readable names is displayed, applied to types that are. -/
theorem displayed_named (readable : registry.ReadableNames) {id : DefinitionId}
    {definition : Definition} {arguments : List Ty}
    (found : registry.definition? id = some definition)
    (count : arguments.length = definition.generics.length)
    (each : ∀ argument ∈ arguments, Displayed registry argument) :
    Displayed registry (.named id arguments) := by
  have listed : definition ∈ registry.definitions := List.mem_of_getElem? found
  have own := builtin?_eq_none_iff.mp (readable.own definition listed)
  have latest := readable.latest found
  have writesName := writes_name (readable.nonempty definition listed)
    (readable.characters definition listed)
  have places : (registry.parameters id).length = arguments.length := by
    rw [Registry.parameters, found, Option.elim_some, Definition.length_parameters, count]
  have shown : registry.definitionName id = definition.name := by
    rw [Registry.definitionName, found, Option.elim_some]
  by_cases given : arguments = []
  · subst given
    -- an open type without parameters is the definition itself
    have closed : registry.openType id = .named id [] := by
      rw [Registry.openType, List.length_eq_zero_iff.mp places, List.map_nil]
    refine ⟨_, _, .plain definition.name, .intro .nil (closed ▸ .openType own latest), ?_⟩
    simpa [Registry.typeName, shown] using writesName
  · obtain ⟨tokens, expressions, derived, denoted, writes⟩ := displayed_all given each
    refine ⟨_, _, .applied definition.name derived,
      .intro denoted (.applied own latest given places.symm), ?_⟩
    have applied := writesName.applied writes
    simpa [Registry.typeName, shown, given, Registry.typeNames_eq] using applied

/-- A type that can be named is shown by a text of the grammar that denotes it. The induction
follows the type, and a name with arguments is closed by its bracket. -/
theorem displayed_of_nameable (readable : registry.ReadableNames) {type : Ty}
    (nameable : registry.Nameable type) : Displayed registry type := by
  induction nameable with
  | primitive primitive =>
    have known := BuiltIn.primitive primitive
    exact ⟨_, _, .plain _, .intro .nil (.builtIn known), writes_builtIn known⟩
  | object => exact ⟨_, _, .plain _, .intro .nil (.builtIn .object), writes_builtIn .object⟩
  | named found count _ inductionHypothesis =>
    exact displayed_named readable found count inductionHypothesis

/-- A type is read back from its display name. -/
theorem read_typeName (readable : registry.ReadableNames) {type : Ty}
    (nameable : registry.Nameable type) : read registry (registry.typeName type) = .ok type := by
  obtain ⟨tokens, expression, derived, denoted, writes⟩ := displayed_of_nameable readable nameable
  have lexes : Lexes (registry.typeName type).toList tokens := by
    simpa using writes [] [] (by simp [NameEnds]) .done
  exact read_of_denotes lexes derived denoted

/-- A type is read back from its display name, and so types that are displayed alike are the
same. -/
theorem typeName_roundTrip (readable : registry.ReadableNames) :
    (∀ type, registry.Nameable type → read registry (registry.typeName type) = .ok type) ∧
      ∀ type other, registry.Nameable type → registry.Nameable other →
        registry.typeName type = registry.typeName other → type = other := by
  refine ⟨fun type => read_typeName readable, fun type other nameable otherNameable same => ?_⟩
  have first := read_typeName readable nameable
  rw [same, read_typeName readable otherNameable] at first
  exact (Except.ok.inj first).symm

/-- Points, boxes of any type and pairs of any two. -/
def shapes : Registry := .ofDefinitions
  [{ name := "Point", kind := .structType },
   { name := "Box", kind := .classType, generics := ["T"] },
   { name := "Pair", kind := .classType, generics := ["A", "B"] }]

/-- A pair of a text and a box of a box of points. -/
def boxedTwice : Ty := .named ⟨2⟩ [.str, .named ⟨1⟩ [.named ⟨1⟩ [.named ⟨0⟩ []]]]

/-- A type in a type in a type is shown and read back. -/
theorem shapes_roundTrip :
    shapes.ReadableNames ∧ shapes.Nameable boxedTwice ∧
      shapes.typeName boxedTwice = "Pair<str, Box<Box<Point>>>" ∧
      read shapes "Pair<str, Box<Box<Point>>>" = .ok boxedTwice := by
  have readable : shapes.ReadableNames :=
    ⟨by decide, by decide, by decide, by decide⟩
  have point : shapes.Nameable (.named ⟨0⟩ []) := .named rfl rfl (by simp)
  have box : ∀ {content : Ty}, shapes.Nameable content → shapes.Nameable (.named ⟨1⟩ [content]) :=
    fun inside => .named rfl rfl (by simpa using inside)
  have nameable : shapes.Nameable boxedTwice :=
    .named rfl rfl (by simpa using ⟨.primitive .str, box (box point)⟩)
  have shown : shapes.typeName boxedTwice = "Pair<str, Box<Box<Point>>>" := by decide
  refine ⟨readable, nameable, shown, ?_⟩
  rw [← shown]
  exact (typeName_roundTrip readable).1 _ nameable

end TypeName

end LateBinding
