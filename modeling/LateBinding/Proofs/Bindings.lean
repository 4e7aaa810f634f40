import LateBinding.Inference.Matching
import LateBinding.Proofs.Substitution

/-!
# Bindings only grow

Every step of an inference takes bindings to bindings that say more: what was bound stays bound
to the same type, what was asked for stays asked for, and what is new is one of the pairs that
the step allows. `Bindings.Grows` is this relation. Its chaining is what makes the first binding
of a parameter count for all that follows.

A parameter stands in the bindings once, and under that invariant the substitutions made from
them send a parameter to what it is bound to.
-/
namespace LateBinding

namespace OrderedMap

universe u v
variable {κ : Type u} {ν : Type v} [DecidableEq κ]

/-- The keys are those under which something is found. -/
theorem mem_keys_iff (map : OrderedMap κ ν) (key : κ) :
    key ∈ map.keys ↔ ∃ value, map.get? key = some value := by
  obtain ⟨entries⟩ := map
  simp only [keys, get?]
  induction entries with
  | nil => simp [find?]
  | cons entry rest inductionHypothesis =>
    obtain ⟨other, value⟩ := entry
    by_cases same : other = key
    · simp [find?, same]
    · simp [find?, same, Ne.symm same, inductionHypothesis]

/-- A key is missing from a table exactly when nothing is found under it. -/
theorem get?_eq_none_iff (map : OrderedMap κ ν) (key : κ) :
    map.get? key = none ↔ key ∉ map.keys := by
  rw [mem_keys_iff, ← Option.isSome_iff_exists, Option.not_isSome_iff_eq_none]

/-- What is found under a key is one of the entries. -/
theorem mem_entries_of_get? {map : OrderedMap κ ν} {key : κ} {value : ν}
    (found : map.get? key = some value) : (key, value) ∈ map.entries := by
  obtain ⟨entries⟩ := map
  simp only [get?] at found
  induction entries with
  | nil => simp [find?] at found
  | cons entry rest inductionHypothesis =>
    obtain ⟨other, old⟩ := entry
    by_cases same : other = key
    · simp_all [find?]
    · exact List.mem_cons_of_mem _ (inductionHypothesis (by simpa [find?, same] using found))

/-- Where no key stands twice, every entry is found under its key. -/
theorem get?_of_mem_entries {map : OrderedMap κ ν} (distinct : map.keys.Nodup) {key : κ}
    {value : ν} (stored : (key, value) ∈ map.entries) : map.get? key = some value := by
  obtain ⟨entries⟩ := map
  simp only [get?, keys] at distinct stored ⊢
  induction entries with
  | nil => simp at stored
  | cons entry rest inductionHypothesis =>
    obtain ⟨other, old⟩ := entry
    obtain ⟨apart, restDistinct⟩ := List.nodup_cons.mp distinct
    rcases List.mem_cons.mp stored with same | later
    · obtain ⟨rfl, rfl⟩ := Prod.mk.inj same
      simp [find?]
    · have different : other ≠ key := by
        rintro rfl
        exact apart (List.mem_map.mpr ⟨_, later, rfl⟩)
      simpa [find?, different] using inductionHypothesis restDistinct later

/-- Writing to a table keeps its keys distinct: a key that was there is not listed again. -/
theorem nodup_keys_insert {map : OrderedMap κ ν} (distinct : map.keys.Nodup) (key : κ)
    (value : ν) : (map.insert key value).keys.Nodup := by
  by_cases present : key ∈ map.keys
  · rwa [keys_insert_of_mem map present]
  · rw [keys_insert_of_not_mem map present]
    apply List.Nodup.append distinct (List.nodup_singleton key)
    simpa using present

/-- Writing to a key keeps every other key, and adds the one written to. -/
theorem mem_keys_insert (map : OrderedMap κ ν) (key asked : κ) (value : ν) :
    asked ∈ (map.insert key value).keys ↔ asked = key ∨ asked ∈ map.keys := by
  by_cases present : key ∈ map.keys
  · rw [keys_insert_of_mem map present]
    constructor
    · exact Or.inr
    · rintro (rfl | member)
      · exact present
      · exact member
  · rw [keys_insert_of_not_mem map present]
    simp [or_comm]

end OrderedMap

namespace Bindings

/-- A parameter is bound when it is there with a type; one that was only asked for is there without.
-/
theorem bound?_eq_some_iff (bindings : Bindings) (parameter : Parameter) (type : Ty) :
    bindings.bound? parameter = some type ↔ bindings.get? parameter = some (some type) := by
  rw [bound?, Option.join_eq_some_iff]

/-- Whether every parameter of a type is bound. -/
def Binds (bindings : Bindings) (type : Ty) : Prop :=
  ∀ p ∈ type.occurrences, ∃ bound, bindings.bound? p = some bound

/-- Later bindings that keep what earlier ones say. The pairs they add are allowed ones, and
they ask for no parameter that they leave unbound. -/
structure Grows (allowed : Parameter → Ty → Prop) (before after : Bindings) : Prop where
  kept : ∀ {p type}, before.bound? p = some type → after.bound? p = some type
  tracked : ∀ {p}, p ∈ before.keys → p ∈ after.keys
  fresh : ∀ {p type}, after.bound? p = some type → before.bound? p = some type ∨ allowed p type
  waiting : ∀ {p}, after.get? p = some none → before.get? p = some none
  distinct : before.keys.Nodup → after.keys.Nodup

namespace Grows

variable {allowed others : Parameter → Ty → Prop} {before between after : Bindings}

/-- Bindings that stay as they are have grown by nothing. -/
theorem refl (bindings : Bindings) : Grows allowed bindings bindings :=
  ⟨id, id, Or.inl, id, id⟩

/-- Growth adds up. -/
theorem trans (first : Grows allowed before between) (second : Grows allowed between after) :
    Grows allowed before after where
  kept bound := second.kept (first.kept bound)
  tracked member := second.tracked (first.tracked member)
  fresh bound := (second.fresh bound).elim first.fresh Or.inr
  waiting unbound := first.waiting (second.waiting unbound)
  distinct unique := second.distinct (first.distinct unique)

/-- Growth of one sort is growth of any sort that allows more. -/
theorem mono (grows : Grows allowed before after)
    (weaker : ∀ p type, allowed p type → others p type) : Grows others before after where
  kept := grows.kept
  tracked := grows.tracked
  fresh bound := (grows.fresh bound).imp_right (weaker _ _)
  waiting := grows.waiting
  distinct := grows.distinct

/-- A type whose parameters are bound keeps them bound. -/
theorem binds (grows : Grows allowed before after) {type : Ty} (bound : before.Binds type) :
    after.Binds type := by
  intro p occurs
  obtain ⟨image, found⟩ := bound p occurs
  exact ⟨image, grows.kept found⟩

end Grows

/-- Binding a parameter that is not bound adds this pair and nothing else. -/
theorem grows_bind {bindings : Bindings} {parameter : Parameter}
    (unbound : bindings.bound? parameter = none) (type : Ty) :
    Grows (fun p bound => p = parameter ∧ bound = type) bindings
      (bindings.bind parameter type) := by
  have other : ∀ {p}, p ≠ parameter →
      (bindings.bind parameter type).get? p = bindings.get? p :=
    fun different => OrderedMap.get?_insert_of_ne _ (Ne.symm different) _
  have self : (bindings.bind parameter type).get? parameter = some (some type) :=
    OrderedMap.get?_insert_self _ _ _
  refine ⟨?_, ?_, ?_, ?_, ?_⟩
  · intro p bound found
    have different : p ≠ parameter := by
      rintro rfl
      simp [unbound] at found
    rwa [bound?, other different]
  · intro p member
    exact (OrderedMap.mem_keys_insert _ _ _ _).mpr (Or.inr member)
  · intro p bound found
    by_cases same : p = parameter
    · subst same
      rw [bound?_eq_some_iff, self] at found
      exact Or.inr ⟨rfl, by simpa using found.symm⟩
    · rw [bound?, other same] at found
      exact Or.inl found
  · intro p asked
    by_cases same : p = parameter
    · subst same
      simp [self] at asked
    · rwa [other same] at asked
  · intro unique
    exact OrderedMap.nodup_keys_insert unique _ _

/-- A parameter that was given a type has it. -/
theorem bound?_bind_self (bindings : Bindings) (parameter : Parameter) (type : Ty) :
    (bindings.bind parameter type).bound? parameter = some type := by
  rw [bound?, bind, OrderedMap.get?_insert_self, Option.join_some]

/-! ## Asking for parameters -/

/-- Asking for a parameter binds nothing. -/
theorem bound?_seed (bindings : Bindings) (asked parameter : Parameter) :
    (bindings.seed asked).bound? parameter = bindings.bound? parameter := by
  rw [seed]
  by_cases absent : bindings.get? asked = none
  · rw [if_pos absent]
    by_cases same : asked = parameter
    · subst same
      rw [bound?, bound?, OrderedMap.get?_insert_self, absent]
      rfl
    · rw [bound?, bound?, OrderedMap.get?_insert_of_ne _ same]
  · rw [if_neg absent]

/-- Asking for a parameter adds it, unless it is there. -/
theorem mem_keys_seed (bindings : Bindings) (asked parameter : Parameter) :
    parameter ∈ (bindings.seed asked).keys ↔ parameter = asked ∨ parameter ∈ bindings.keys := by
  rw [seed]
  by_cases absent : bindings.get? asked = none
  · rw [if_pos absent]
    exact OrderedMap.mem_keys_insert _ _ _ _
  · have stored : asked ∈ bindings.keys :=
      not_not.mp fun missing => absent ((OrderedMap.get?_eq_none_iff _ _).mpr missing)
    rw [if_neg absent]
    constructor
    · exact Or.inr
    · rintro (rfl | member)
      · exact stored
      · exact member

/-- Asking twice for one parameter does not list it twice. -/
theorem nodup_keys_seed {bindings : Bindings} (distinct : bindings.keys.Nodup)
    (asked : Parameter) : (bindings.seed asked).keys.Nodup := by
  rw [seed]
  split
  · exact OrderedMap.nodup_keys_insert distinct _ _
  · exact distinct

/-- The bindings with which an inference starts ask for the parameters given and bind none. -/
theorem seedAll_empty (parameters : List Parameter) :
    (∀ p, (seedAll .empty parameters).bound? p = none) ∧
      (∀ p, p ∈ (seedAll .empty parameters).keys ↔ p ∈ parameters) ∧
      (seedAll .empty parameters).keys.Nodup := by
  have general : ∀ (rest : List Parameter) (start : Bindings), start.keys.Nodup →
      (∀ p, (start.seedAll rest).bound? p = start.bound? p) ∧
        (∀ p, p ∈ (start.seedAll rest).keys ↔ p ∈ rest ∨ p ∈ start.keys) ∧
        (start.seedAll rest).keys.Nodup := by
    intro rest
    induction rest with
    | nil => exact fun start distinct => ⟨fun _ => rfl, by simp [seedAll], distinct⟩
    | cons first rest inductionHypothesis =>
      intro start distinct
      obtain ⟨same, keys, unique⟩ :=
        inductionHypothesis (start.seed first) (nodup_keys_seed distinct first)
      refine ⟨fun p => (same p).trans (bound?_seed start first p), ?_, unique⟩
      intro p
      apply (keys p).trans
      rw [mem_keys_seed, List.mem_cons]
      tauto
  obtain ⟨same, keys, unique⟩ := general parameters .empty List.nodup_nil
  exact ⟨same, fun p => (keys p).trans (by simp [OrderedMap.keys, OrderedMap.empty]), unique⟩

/-! ## Reading the bindings -/

/-- No parameter is left unbound when none is asked for in vain. -/
theorem firstUnbound?_eq_none_iff {bindings : Bindings} (distinct : bindings.keys.Nodup) :
    bindings.firstUnbound? = none ↔ ∀ p, bindings.get? p ≠ some none := by
  rw [firstUnbound?, Option.map_eq_none_iff, List.find?_eq_none]
  constructor
  · intro settled p unbound
    exact settled _ (OrderedMap.mem_entries_of_get? unbound) (by simp)
  · rintro settled ⟨p, value⟩ stored unbound
    have none : value = none := by simpa using unbound
    exact settled p (none ▸ OrderedMap.get?_of_mem_entries distinct stored)

/-- Then every parameter asked for is bound. -/
theorem bound_of_firstUnbound?_eq_none {bindings : Bindings} (distinct : bindings.keys.Nodup)
    (settled : bindings.firstUnbound? = none) {parameter : Parameter}
    (asked : parameter ∈ bindings.keys) : ∃ type, bindings.bound? parameter = some type := by
  obtain ⟨value, found⟩ := (OrderedMap.mem_keys_iff _ _).mp asked
  cases value with
  | none => exact absurd found ((firstUnbound?_eq_none_iff distinct).mp settled parameter)
  | some type => exact ⟨type, (bound?_eq_some_iff _ _ _).mpr found⟩

/-- The substitution made from bindings sends a parameter that passes the test to what it is
bound to. -/
theorem get?_toSubstitution {bindings : Bindings} (distinct : bindings.keys.Nodup)
    (keep : Parameter → Bool) (parameter : Parameter) :
    (bindings.toSubstitution keep).get? parameter =
      if keep parameter then bindings.bound? parameter else none := by
  obtain ⟨entries⟩ := bindings
  simp only [toSubstitution, OrderedMap.get?, OrderedMap.keys, bound?] at distinct ⊢
  induction entries with
  | nil => simp [OrderedMap.find?]
  | cons entry rest inductionHypothesis =>
    obtain ⟨other, value⟩ := entry
    obtain ⟨apart, restDistinct⟩ := List.nodup_cons.mp distinct
    have later := inductionHypothesis restDistinct
    by_cases same : other = parameter
    · subst same
      have absent : OrderedMap.find? other rest = none :=
        (OrderedMap.get?_eq_none_iff ⟨rest⟩ other).mpr apart
      rw [absent] at later
      cases kept : keep other <;> cases value <;> simp_all [OrderedMap.find?]
    · have skipped : OrderedMap.find? parameter ((other, value) :: rest) =
          OrderedMap.find? parameter rest := by simp [OrderedMap.find?, same]
      rw [skipped, ← later]
      cases kept : keep other <;> cases value <;> simp [OrderedMap.find?, kept, same]

/-- What the bindings put in the place of a bound parameter. -/
theorem image_all {bindings : Bindings} (distinct : bindings.keys.Nodup) {parameter : Parameter}
    {type : Ty} (bound : bindings.bound? parameter = some type) :
    bindings.all.image parameter = type := by
  apply Substitution.image_of_get?
  rw [all, get?_toSubstitution distinct, if_pos rfl, bound]

/-- At the level of types the place of a method's own parameter is kept. -/
theorem image_typeLevel {bindings : Bindings} (distinct : bindings.keys.Nodup)
    {parameter : Parameter} {type : Ty} (bound : bindings.bound? parameter = some type) :
    bindings.typeLevel.image parameter = Registry.resolvedParameter parameter type := by
  rw [Substitution.image, typeLevel, get?_toSubstitution distinct, bound,
    Registry.resolvedParameter]
  cases parameter.isMethodLevel <;> rfl

/-- The types of several parameters, all of which are bound. -/
theorem resolve?_eq_some_iff (bindings : Bindings) (parameters : List Parameter)
    (types : List Ty) :
    bindings.resolve? parameters = some types ↔
      List.Forall₂ (fun p type => bindings.bound? p = some type) parameters types := by
  rw [resolve?]
  induction parameters generalizing types with
  | nil => simp [eq_comm]
  | cons first rest inductionHypothesis =>
    rw [List.mapM_cons]
    cases types with
    | nil => simp [Option.bind_eq_some_iff]
    | cons type others => simp [Option.bind_eq_some_iff, inductionHypothesis]

/-- Where each is bound, there are such types. -/
theorem exists_resolve? {bindings : Bindings} {parameters : List Parameter}
    (bound : ∀ p ∈ parameters, ∃ type, bindings.bound? p = some type) :
    ∃ types, bindings.resolve? parameters = some types := by
  refine ⟨parameters.map fun p => (bindings.bound? p).getD .object, ?_⟩
  rw [resolve?_eq_some_iff, List.forall₂_map_right_iff, List.forall₂_same]
  intro p inside
  obtain ⟨type, found⟩ := bound p inside
  rw [found, Option.getD_some]

/-- Once what a type's parameters are bound to is closed, replacing them at the level of types
leaves nothing to replace there. -/
theorem replace_typeLevel_twice {bindings : Bindings} (distinct : bindings.keys.Nodup) {type : Ty}
    (closed : ∀ p ∈ type.occurrences, ∀ image, bindings.bound? p = some image →
      image.isOpen = false) :
    (type.replace bindings.typeLevel).replace bindings.typeLevel =
      type.replace bindings.typeLevel := by
  apply Ty.replace_replace
  intro p occurs
  rw [Substitution.image]
  cases image : bindings.typeLevel.get? p with
  | none => rw [Option.getD_none, Ty.replace_parameter, Substitution.image_of_get?_none image]
  | some bound =>
    rw [typeLevel, get?_toSubstitution distinct] at image
    split at image
    · exact Ty.replace_of_closed _ (closed p occurs bound image)
    · simp at image

/-! ## A type under growing bindings -/

section Stability

variable {allowed : Parameter → Ty → Prop} {before after : Bindings} {type : Ty}

/-- A type whose parameters are bound is the same under whatever the bindings grow to. -/
theorem replace_all_of_grows (grows : Grows allowed before after)
    (distinct : before.keys.Nodup) (bound : before.Binds type) :
    type.replace after.all = type.replace before.all := by
  apply Ty.replace_congr
  intro p occurs
  obtain ⟨image, found⟩ := bound p occurs
  rw [image_all distinct found, image_all (grows.distinct distinct) (grows.kept found)]

/-- What was resolved under earlier bindings stays as it is under later ones, since every parameter
in it was bound by then. -/
theorem replace_typeLevel_of_grows (grows : Grows allowed before after)
    (distinct : before.keys.Nodup) (bound : before.Binds type) :
    type.replace after.typeLevel = type.replace before.typeLevel := by
  apply Ty.replace_congr
  intro p occurs
  obtain ⟨image, found⟩ := bound p occurs
  rw [image_typeLevel distinct found, image_typeLevel (grows.distinct distinct) (grows.kept found)]

end Stability

end Bindings

end LateBinding
