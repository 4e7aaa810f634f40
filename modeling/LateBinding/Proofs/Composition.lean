import LateBinding.Proofs.Substitution
import Mathlib.Data.List.Induction

/-!
# Composition of substitutions

A substitution acts on all parameters of a type at once, and what it puts in is not looked at
again. That it is so shows in the law of composition: one substitution after another is a single
one, which sends a parameter to its first image as the second substitution makes it. The law holds
without a proviso, also when images mention parameters that are replaced themselves.

What else a substitution does to a type depends on the parameters that are listed for the type.
`Ty.parameters` erases repetitions from all occurrences; one walk through the arguments that carries
the list along gives the same list.
-/
namespace LateBinding

namespace Substitution

/-- The substitution that does the work of two, one after the other: the images of the first as
the second makes them, and the images of the second where the first has none. -/
def andThen (first second : Substitution) : Substitution :=
  ⟨first.entries.map (fun entry => (entry.1, entry.2.substitute second)) ++
    second.entries.filter fun entry => (first.get? entry.1).isNone⟩

/-- The first substitution has the word on its parameters, and the second on what it makes of them
and on all others. -/
theorem get?_andThen (first second : Substitution) (parameter : Parameter) :
    (first.andThen second).get? parameter =
      match first.get? parameter with
      | some image => some (image.substitute second)
      | none => second.get? parameter := by
  rw [andThen, OrderedMap.get?, OrderedMap.find?_append,
    OrderedMap.find?_map (Ty.substitute second),
    OrderedMap.find?_filter fun key => (first.get? key).isNone,
    ← OrderedMap.get?, ← OrderedMap.get?]
  cases first.get? parameter <;> rfl

/-- The image under both is the first image as the second substitution makes it. -/
theorem image_andThen (first second : Substitution) (parameter : Parameter) :
    (first.andThen second).image parameter = (first.image parameter).replace second := by
  rw [image, get?_andThen, image]
  cases first.get? parameter <;> simp [image]

/-- A parameter is gone after a substitution that has a closed image for it, and only then. -/
theorem isOpen_image_eq_false_iff {images : Substitution} {parameter : Parameter} :
    (images.image parameter).isOpen = false ↔
      ∃ image, images.get? parameter = some image ∧ image.isOpen = false := by
  rw [image]
  cases images.get? parameter <;> simp [Ty.isOpen]

end Substitution

namespace Ty

/-! ## The parameters of a type -/

/-- A list with one more parameter at its end, unless it has it already. -/
def enlist (listed : List Parameter) (parameter : Parameter) : List Parameter :=
  if parameter ∈ listed then listed else listed ++ [parameter]

mutual

/-- Add to a list the parameters of a type that it does not have yet. -/
def collect (listed : List Parameter) : Ty → List Parameter
  | .parameter p => enlist listed p
  | .named _ arguments => collectAll listed arguments
  | .primitive _ | .object | .delegate => listed

/-- Add the parameters of the types, one type after the other. -/
def collectAll (listed : List Parameter) : List Ty → List Parameter
  | [] => listed
  | type :: rest => collectAll (collect listed type) rest

end

mutual

/-- The walk meets the parameters in the order in which they are written. -/
theorem collect_eq_foldl (listed : List Parameter) (type : Ty) :
    type.collect listed = type.occurrences.foldl enlist listed := by
  cases type with
  | primitive p => rfl
  | object => rfl
  | delegate => rfl
  | parameter p => rfl
  | named id arguments => exact collectAll_eq_foldl listed arguments

/-- Collecting from types in a row is enlisting their occurrences in order. -/
theorem collectAll_eq_foldl (listed : List Parameter) (types : List Ty) :
    collectAll listed types = (occurrencesAll types).foldl enlist listed := by
  cases types with
  | nil => rfl
  | cons type rest =>
    rw [collectAll, collectAll_eq_foldl _ rest, collect_eq_foldl listed type, occurrencesAll,
      List.foldl_append]

end

/-- One more occurrence at the end counts if it is the first one. -/
theorem eraseDups_concat (before : List Parameter) (last : Parameter) :
    (before ++ [last]).eraseDups = enlist before.eraseDups last := by
  rw [List.eraseDups_append, List.cons_removeAll, List.nil_removeAll, enlist]
  by_cases earlier : last ∈ before <;> simp [List.eraseDups_cons, earlier]

/-- Enlisting one parameter after the other adds each that is not listed yet, in the order of first
occurrence. -/
theorem foldl_enlist (listed added : List Parameter) :
    added.foldl enlist listed = listed ++ added.eraseDups.filter (· ∉ listed) := by
  induction added using List.reverseRecOn with
  | nil => simp
  | append_singleton before last inductionHypothesis =>
    rw [List.foldl_concat, inductionHypothesis, eraseDups_concat, enlist, enlist]
    by_cases earlier : last ∈ before.eraseDups <;> by_cases present : last ∈ listed <;>
      simp [earlier, present]

/-- Beginning with a list, the walk adds the parameters of the type that are not in it. -/
theorem collect_eq (listed : List Parameter) (type : Ty) :
    type.collect listed = listed ++ type.parameters.filter (· ∉ listed) := by
  rw [collect_eq_foldl, foldl_enlist, parameters]

/-! ## Laws of substitution -/

/-- What a call gives for each form of a type, early returns or not. -/
theorem substitute_eq (images : Substitution) (type : Ty) :
    type.substitute images =
      match type with
      | .parameter p => (images.get? p).getD (.parameter p)
      | .named id arguments => .named id (arguments.map (Ty.substitute images))
      | .primitive _ | .object | .delegate => type := by
  rw [substitute_eq_replace, substitute_fun_eq_replace]
  cases type with
  | primitive p => rfl
  | object => rfl
  | delegate => rfl
  | parameter p => rfl
  | named id arguments => exact replace_named images id arguments

/-- A substitution after another is the single one that sends each parameter to its first image as
the second substitution makes it, and a parameter without first image to its second one. Returning
early changes nothing, at any depth of a type. The result is closed just when each parameter listed
for the type has a closed image, and substitutions make the same of a type just when they put the
same in the place of each parameter listed. -/
theorem substitute_simultaneous (type : Ty) (first second : Substitution) :
    ((type.substitute first).substitute second = type.substitute (first.andThen second) ∧
        ∀ p, (first.andThen second).get? p =
          match first.get? p with
          | some image => some (image.substitute second)
          | none => second.get? p) ∧
      (type.substitute first = type.replace first ∧
        type.substitute first =
          match type with
          | .parameter p => (first.get? p).getD (.parameter p)
          | .named id arguments => .named id (arguments.map (Ty.substitute first))
          | .primitive _ | .object | .delegate => type) ∧
      (∀ listed, type.collect listed = listed ++ type.parameters.filter (· ∉ listed)) ∧
      ((type.substitute first).isOpen = false ↔
        ∀ p ∈ type.collect [], ∃ image, first.get? p = some image ∧ image.isOpen = false) ∧
      (type.substitute first = type.substitute second ↔
        ∀ p ∈ type.collect [], first.image p = second.image p) := by
  have listed : type.collect [] = type.parameters := by simp [collect_eq]
  refine ⟨⟨?_, first.get?_andThen second⟩,
    ⟨substitute_eq_replace first type, substitute_eq first type⟩,
    fun before => collect_eq before type, ?_, ?_⟩
  · simp only [substitute_eq_replace]
    exact replace_replace type fun p _ => (first.image_andThen second p).symm
  · simp only [substitute_eq_replace, isOpen_replace_eq_false_iff, listed, mem_parameters,
      Substitution.isOpen_image_eq_false_iff]
  · simp only [substitute_eq_replace, replace_eq_iff, listed, mem_parameters]

/-- Two parameters that are sent to each other change places, and do not become one. -/
example :
    let first : Parameter := ⟨.definition ⟨0⟩, 0⟩
    let second : Parameter := ⟨.definition ⟨0⟩, 1⟩
    (Ty.named ⟨0⟩ [.parameter first, .named ⟨1⟩ [.parameter second]]).substitute
        (.ofParameters [first, second] [.parameter second, .parameter first]) =
      .named ⟨0⟩ [.parameter second, .named ⟨1⟩ [.parameter first]] := by decide

end Ty

end LateBinding
