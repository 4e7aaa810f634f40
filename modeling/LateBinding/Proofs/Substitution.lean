import LateBinding.Substitution
import Mathlib.Data.List.Nodup

/-!
# Laws of substitution

What a type is under a substitution depends on the parameters that occur in it and on nothing
else. From this follow all the laws used elsewhere: a type without parameters stays as it is,
substitutions that agree on a type's parameters agree on the type, one substitution after
another is a single one, and the parameters left over are those of the images.

`Ty.substitute` returns early where there is nothing to do. It is `Ty.replace` all the same
(`Ty.substitute_eq_replace`), so the laws are stated for `replace`.
-/
namespace LateBinding

namespace OrderedMap

universe u v w
variable {κ : Type u} {ν : Type v} [DecidableEq κ]

/-- Writes to other keys leave a look-up alone, however many there are. -/
theorem get?_writes_of_not_mem (pairs : List (κ × ν)) (map : OrderedMap κ ν) {key : κ}
    (absent : key ∉ pairs.map Prod.fst) :
    (pairs.foldl (fun map pair => map.insert pair.1 pair.2) map).get? key = map.get? key := by
  induction pairs generalizing map with
  | nil => rfl
  | cons pair rest inductionHypothesis =>
    obtain ⟨apart, later⟩ : key ≠ pair.1 ∧ key ∉ rest.map Prod.fst := by simpa using absent
    rw [List.foldl_cons, inductionHypothesis _ later, get?_insert_of_ne _ (Ne.symm apart)]

/-- Of distinct keys, each reads back the value written to it. -/
theorem get?_writes_of_mem (pairs : List (κ × ν)) (map : OrderedMap κ ν)
    (distinct : (pairs.map Prod.fst).Nodup) {key : κ} {value : ν}
    (written : (key, value) ∈ pairs) :
    (pairs.foldl (fun map pair => map.insert pair.1 pair.2) map).get? key = some value := by
  induction pairs generalizing map with
  | nil => simp at written
  | cons pair rest inductionHypothesis =>
    obtain ⟨apart, restDistinct⟩ := List.nodup_cons.mp distinct
    rw [List.foldl_cons]
    rcases List.mem_cons.mp written with rfl | later
    · rw [get?_writes_of_not_mem rest _ apart, get?_insert_self]
    · exact inductionHypothesis _ restDistinct later

/-- Entries whose keys are left out are not found, and the others are. -/
theorem find?_filter (keep : κ → Bool) (key : κ) (entries : List (κ × ν)) :
    find? key (entries.filter fun entry => keep entry.1) =
      if keep key then find? key entries else none := by
  induction entries with
  | nil => simp [find?]
  | cons entry rest inductionHypothesis =>
    obtain ⟨other, value⟩ := entry
    by_cases same : other = key
    · subst same
      cases kept : keep other <;> simp_all [find?]
    · cases kept : keep other <;> simp [find?, kept, same, inductionHypothesis]

/-- Of two lists of entries the first one is searched first. -/
theorem find?_append (key : κ) (entries rest : List (κ × ν)) :
    find? key (entries ++ rest) = (find? key entries).or (find? key rest) := by
  induction entries with
  | nil => rfl
  | cons entry others inductionHypothesis =>
    obtain ⟨other, value⟩ := entry
    by_cases same : other = key <;> simp [find?, same, inductionHypothesis]

/-- A change of the values changes what is found. -/
theorem find?_map {ω : Type w} (change : ν → ω) (key : κ) (entries : List (κ × ν)) :
    find? key (entries.map fun entry => (entry.1, change entry.2)) =
      (find? key entries).map change := by
  induction entries with
  | nil => rfl
  | cons entry rest inductionHypothesis =>
    obtain ⟨other, value⟩ := entry
    by_cases same : other = key <;> simp [find?, same, inductionHypothesis]

end OrderedMap

namespace Substitution

/-- What a substitution puts in the place of a parameter: its image, or the parameter itself
where it has none. -/
def image (images : Substitution) (parameter : Parameter) : Ty :=
  (images.get? parameter).getD (.parameter parameter)

/-- The image of a parameter that has one is what is stored. -/
theorem image_of_get? {images : Substitution} {parameter : Parameter} {type : Ty}
    (found : images.get? parameter = some type) : images.image parameter = type := by
  rw [image, found, Option.getD_some]

/-- A parameter without an image stays as it is. -/
theorem image_of_get?_none {images : Substitution} {parameter : Parameter}
    (absent : images.get? parameter = none) : images.image parameter = .parameter parameter := by
  rw [image, absent, Option.getD_none]

/-- A parameter that is not among those paired with arguments stays. -/
theorem image_ofParameters_of_not_mem {parameters : List Parameter} {parameter : Parameter}
    (outside : parameter ∉ parameters) (arguments : List Ty) :
    (ofParameters parameters arguments).image parameter = .parameter parameter := by
  have absent : parameter ∉ (parameters.zip arguments).map Prod.fst := by
    intro inside
    obtain ⟨pair, member, same⟩ := List.mem_map.mp inside
    exact outside (same ▸ (List.of_mem_zip member).1)
  exact image_of_get?_none (OrderedMap.get?_writes_of_not_mem _ _ absent)

/-- Distinct parameters paired with as many arguments have these as their images, in order. -/
theorem map_image_ofParameters {parameters : List Parameter} {arguments : List Ty}
    (distinct : parameters.Nodup) (count : parameters.length = arguments.length) :
    parameters.map (ofParameters parameters arguments).image = arguments := by
  have keys : (parameters.zip arguments).map Prod.fst = parameters :=
    List.map_fst_zip (Nat.le_of_eq count)
  refine List.ext_getElem (by simp [count]) ?_
  intro place inside _
  have bounded : place < parameters.length := by simpa using inside
  have paired : (parameters[place], arguments[place]) ∈ parameters.zip arguments := by
    have stored : place < (parameters.zip arguments).length := by simpa [count] using bounded
    simpa using List.getElem_mem stored
  rw [List.getElem_map]
  exact image_of_get? (OrderedMap.get?_writes_of_mem _ _ (keys.symm ▸ distinct) paired)

/-- The image of a paired parameter is one of the arguments. -/
theorem image_ofParameters_mem {parameters : List Parameter} {arguments : List Ty}
    (distinct : parameters.Nodup) (count : parameters.length = arguments.length)
    {parameter : Parameter} (inside : parameter ∈ parameters) :
    (ofParameters parameters arguments).image parameter ∈ arguments := by
  have mapped := List.mem_map_of_mem (f := (ofParameters parameters arguments).image) inside
  rwa [map_image_ofParameters distinct count] at mapped

end Substitution

namespace Ty

/-- Replacing in a parameter is taking its image. -/
@[simp] theorem replace_parameter (images : Substitution) (parameter : Parameter) :
    replace images (.parameter parameter) = images.image parameter := rfl

/-- A parameter occurs once in itself. -/
@[simp] theorem occurrences_parameter (parameter : Parameter) :
    (Ty.parameter parameter).occurrences = [parameter] := rfl

/-- The occurrences of a named type are those of its arguments. -/
@[simp] theorem occurrences_named (id : DefinitionId) (arguments : List Ty) :
    (Ty.named id arguments).occurrences = arguments.flatMap occurrences :=
  occurrencesAll_eq arguments

/-- A named type is open when one of its arguments is. -/
@[simp] theorem isOpen_named (id : DefinitionId) (arguments : List Ty) :
    (Ty.named id arguments).isOpen = arguments.any isOpen :=
  anyOpen_eq arguments

/-- A type is closed when no parameter occurs in it. -/
theorem isOpen_eq_false_iff (type : Ty) : type.isOpen = false ↔ type.occurrences = [] := by
  induction type using Ty.induction with
  | primitive p => simp [isOpen, occurrences]
  | object => simp [isOpen, occurrences]
  | delegate => simp [isOpen, occurrences]
  | parameter p => simp [isOpen]
  | named id arguments inductionHypothesis =>
    simp only [isOpen_named, occurrences_named, List.any_eq_false, List.flatMap_eq_nil_iff,
      Bool.not_eq_true]
    exact forall₂_congr inductionHypothesis

/-- A type is open when some parameter occurs in it. -/
theorem mem_parameters (type : Ty) (parameter : Parameter) :
    parameter ∈ type.parameters ↔ parameter ∈ type.occurrences :=
  List.mem_eraseDups

/-- Substitutions agree on a type just when they agree on the parameters of the type. -/
theorem replace_eq_iff {images others : Substitution} (type : Ty) :
    type.replace images = type.replace others ↔
      ∀ p ∈ type.occurrences, images.image p = others.image p := by
  induction type using Ty.induction with
  | primitive p => simp [replace, occurrences]
  | object => simp [replace, occurrences]
  | delegate => simp [replace, occurrences]
  | parameter p => simp
  | named id arguments inductionHypothesis =>
    have perArgument := forall₂_congr inductionHypothesis
    simp only [replace_named, named.injEq, true_and, List.map_inj_left, occurrences_named,
      List.mem_flatMap, perArgument]
    constructor
    · rintro each p ⟨argument, member, inside⟩
      exact each argument member p inside
    · intro each argument member p inside
      exact each p ⟨argument, member, inside⟩

/-- Substitutions that agree on the parameters of a type agree on the type. -/
theorem replace_congr {images others : Substitution} (type : Ty)
    (agree : ∀ p ∈ type.occurrences, images.image p = others.image p) :
    type.replace images = type.replace others :=
  (replace_eq_iff type).mpr agree

/-- One substitution after another is a third, if it is on the parameters of the type. -/
theorem replace_replace {first second both : Substitution} (type : Ty)
    (compose : ∀ p ∈ type.occurrences, (first.image p).replace second = both.image p) :
    (type.replace first).replace second = type.replace both := by
  induction type using Ty.induction with
  | primitive p => rfl
  | object => rfl
  | delegate => rfl
  | parameter p => exact compose p (by simp)
  | named id arguments inductionHypothesis =>
    simp only [replace_named, List.map_map, named.injEq, true_and]
    apply List.map_congr_left
    intro argument member
    apply inductionHypothesis argument member
    intro p inside
    exact compose p (by simpa using ⟨argument, member, inside⟩)

/-- A substitution that moves no parameter of a type leaves the type alone. -/
theorem replace_eq_self {images : Substitution} (type : Ty)
    (fixed : ∀ p ∈ type.occurrences, images.image p = .parameter p) :
    type.replace images = type := by
  induction type using Ty.induction with
  | primitive p => rfl
  | object => rfl
  | delegate => rfl
  | parameter p => exact fixed p (by simp)
  | named id arguments inductionHypothesis =>
    simp only [replace_named, named.injEq, true_and]
    refine (List.map_congr_left ?_).trans (List.map_id arguments)
    intro argument member
    apply inductionHypothesis argument member
    intro p inside
    exact fixed p (by simpa using ⟨argument, member, inside⟩)

/-- A closed type is the same under every substitution. -/
theorem replace_of_closed (images : Substitution) {type : Ty} (closed : type.isOpen = false) :
    type.replace images = type := by
  apply replace_eq_self type
  rw [(isOpen_eq_false_iff type).mp closed]
  simp

/-- Returning early changes nothing: the call that skips closed types and empty substitutions
gives what the replacement gives. -/
@[simp] theorem substitute_eq_replace (images : Substitution) (type : Ty) :
    type.substitute images = type.replace images := by
  rw [substitute]
  by_cases idle : (images.isEmpty || !type.isOpen) = true
  · rw [if_pos idle]
    rcases Bool.or_eq_true_iff.mp idle with empty | closed
    · refine (replace_eq_self type ?_).symm
      intro p _
      have none : images.entries = [] := List.isEmpty_iff.mp empty
      exact Substitution.image_of_get?_none (by rw [OrderedMap.get?, none]; rfl)
    · exact (replace_of_closed images (by simpa using closed)).symm
  · rw [if_neg idle]

/-- The call as a function of types is the replacement. -/
@[simp] theorem substitute_fun_eq_replace (images : Substitution) :
    Ty.substitute images = Ty.replace images :=
  funext (substitute_eq_replace images)

/-- What occurs in a type after a substitution occurs in the images of its parameters. -/
theorem occurrences_replace (images : Substitution) (type : Ty) :
    (type.replace images).occurrences =
      type.occurrences.flatMap fun p => (images.image p).occurrences := by
  induction type using Ty.induction with
  | primitive p => rfl
  | object => rfl
  | delegate => rfl
  | parameter p => simp
  | named id arguments inductionHypothesis =>
    simp only [replace_named, occurrences_named, List.flatMap_map, List.flatMap_assoc]
    exact List.flatMap_congr inductionHypothesis

/-- A type is closed by a substitution just when each of its parameters goes to a closed type. -/
theorem isOpen_replace_eq_false_iff {images : Substitution} {type : Ty} :
    (type.replace images).isOpen = false ↔
      ∀ p ∈ type.occurrences, (images.image p).isOpen = false := by
  simp only [isOpen_eq_false_iff, occurrences_replace, List.flatMap_eq_nil_iff]

/-- Only named types are instances of a definition. -/
theorem definition?_eq_some_iff {type : Ty} {id : DefinitionId} :
    type.definition? = some id ↔ ∃ arguments, type = .named id arguments := by
  cases type <;> simp [definition?]

end Ty

end LateBinding
