import LateBinding.Probe.Command
import LateBinding.Proofs.Enumeration

/-!
# The listing of a type is complete

A listing walks the base classes twice: once for the names that are declared on them, and once more
for each of these names. It has each constructor of the type itself and each member that the type
offers under any name, and none of them twice.

A member is told from the others by its identity. Under one name the members are entries of one
walk, and on a chain of base classes no definition comes twice; a member that came up under two
names would have both, and one that came up as a constructor and otherwise would have two kinds.
What members look like does not matter: two overloads with the same signature are two entries,
although they read alike.
-/
namespace LateBinding

/-- What is left when repetitions are erased comes once. -/
theorem nodup_eraseDups {α : Type} [BEq α] [LawfulBEq α] (entries : List α) :
    entries.eraseDups.Nodup := by
  cases entries with
  | nil => simp
  | cons entry rest =>
    rw [List.eraseDups_cons, List.nodup_cons]
    exact ⟨by simp, nodup_eraseDups (rest.filter fun other => !other == entry)⟩
termination_by entries.length
decreasing_by exact Nat.lt_succ_of_le (List.length_filter_le _ _)

namespace Registry

variable {registry : Registry}

/-- What a type declares is told apart by its places. -/
theorem declaredMembers_nodup (type : Ty) :
    ((registry.declaredMembers type).map (·.id)).Nodup := by
  have distinct : (registry.declaredMembers type).Nodup := by
    rw [List.nodup_iff_getElem?_ne_getElem?]
    intro place later before bounded same
    have stands := List.getElem?_eq_getElem bounded
    have here := index_of_getElem? (same.trans stands)
    have there := index_of_getElem? stands
    omega
  exact distinct.map_on fun left leftDeclared right rightDeclared =>
    eq_of_id_eq leftDeclared rightDeclared

/-- A walk for a name passes over members and never goes back. -/
theorem membersAlong_sublist (name : String) (flags : BindingFlags) (types : List Ty) :
    (registry.membersAlong name flags types).Sublist (types.flatMap registry.declaredMembers) := by
  cases types with
  | nil => exact .slnil
  | cons own inherited =>
    rw [membersAlong, List.flatMap_cons]
    exact List.filter_sublist.append (.flatMap_right _ fun _ _ => List.filter_sublist)

/-- The name of whatever is declared along the base classes is among the names of the type. -/
theorem name_mem_memberNames {type : Ty} {member : Member}
    (above : member.declaring ∈ registry.baseChain type)
    (declared : member ∈ registry.declaredMembers member.declaring)
    (called : member.kind ≠ .constructor) : member.name ∈ registry.memberNames type := by
  rw [memberNames, List.mem_eraseDups]
  refine List.mem_map_of_mem (List.mem_filter.mpr ⟨?_, by simpa using called⟩)
  exact List.mem_flatMap.mpr ⟨member.declaring, above, declared⟩

namespace Rooted

variable (rooted : registry.Rooted)
include rooted

/-- What is declared along the base classes of a type is told apart by class and place. -/
theorem declared_nodup (type : Ty) :
    (((registry.baseChain type).flatMap registry.declaredMembers).map (·.id)).Nodup := by
  rw [List.map_flatMap, List.nodup_flatMap]
  refine ⟨fun above _ => declaredMembers_nodup above, ?_⟩
  refine (List.pairwise_map.mp (rooted.basesWithin_distinct _ type)).imp ?_
  intro lower upper different id below above
  obtain ⟨left, leftDeclared, rfl⟩ := List.mem_map.mp below
  obtain ⟨right, rightDeclared, same⟩ := List.mem_map.mp above
  apply different
  rw [(declared_facts leftDeclared).2.2, (declared_facts rightDeclared).2.2, same]

/-- A type offers no member twice under one name. -/
theorem members_nodup (type : Ty) (name : String) (flags : BindingFlags) :
    ((registry.members type name flags).map (·.id)).Nodup :=
  (rooted.declared_nodup type).sublist ((membersAlong_sublist name flags _).map _)

end Rooted

end Registry

namespace Probe

variable {registry : Registry} (rooted : registry.Rooted)
include rooted

/-- Listed are the constructors of the type itself, and what is declared along its base classes,
private members only where they are the type's own. -/
theorem mem_listedMembers_iff {flags : BindingFlags} {type : Ty} {member : Member} :
    member ∈ Report.listedMembers registry flags type ↔
      flags.admits member.toDeclaration = true ∧
        (member.kind = .constructor ∧ member ∈ registry.declaredMembers type ∨
          member.kind ≠ .constructor ∧ ∃ above,
            Relation.ReflTransGen registry.Extends type above ∧
              member ∈ registry.declaredMembers above ∧
              (above = type ∨ member.visibility ≠ .privateAccess)) := by
  rw [Report.listedMembers, List.mem_append, List.mem_flatMap, Registry.mem_constructors_iff]
  constructor
  · rintro (⟨declared, constructs, admitted⟩ | ⟨name, -, offered⟩)
    · exact ⟨admitted, Or.inl ⟨constructs, declared⟩⟩
    · obtain ⟨above, declared, answers, seen⟩ := rooted.mem_members_iff.mp offered
      obtain ⟨-, called, admitted⟩ := Registry.answersTo_iff.mp answers
      exact ⟨admitted, Or.inr ⟨called, _, rooted.mem_baseChain_iff.mp above, declared, seen⟩⟩
  · rintro ⟨admitted, ⟨constructs, declared⟩ | ⟨called, above, path, declared, seen⟩⟩
    · exact Or.inl ⟨declared, constructs, admitted⟩
    · obtain ⟨rfl, -⟩ := Registry.declared_facts declared
      have listed := rooted.mem_baseChain_iff.mpr path
      have answers := Registry.answersTo_iff.mpr ⟨rfl, called, admitted⟩
      exact Or.inr ⟨member.name, Registry.name_mem_memberNames listed declared called,
        rooted.mem_members_iff.mpr ⟨listed, declared, answers, seen⟩⟩

/-- A listed member is declared on a base class, from which it is seen. -/
theorem listed_facts {flags : BindingFlags} {type : Ty} {member : Member}
    (listed : member ∈ Report.listedMembers registry flags type) :
    member.declaring ∈ registry.baseChain type ∧
      member ∈ registry.declaredMembers member.declaring := by
  obtain ⟨-, ⟨-, declared⟩ | ⟨-, above, path, declared, -⟩⟩ :=
    (mem_listedMembers_iff rooted).mp listed
  · obtain ⟨rfl, -⟩ := Registry.declared_facts declared
    exact ⟨rooted.mem_baseChain_iff.mpr .refl, declared⟩
  · obtain ⟨rfl, -⟩ := Registry.declared_facts declared
    exact ⟨rooted.mem_baseChain_iff.mpr path, declared⟩

/-- No member is listed twice: its kind says in which part of the listing it is, and its name under
which name it came up there. -/
theorem listedMembers_nodup (flags : BindingFlags) (type : Ty) :
    ((Report.listedMembers registry flags type).map (·.id)).Nodup := by
  have answers : ∀ {name member}, member ∈ registry.members type name flags →
      member.name = name ∧ member.kind ≠ .constructor := by
    intro name member offered
    obtain ⟨-, -, answers, -⟩ := rooted.mem_members_iff.mp offered
    obtain ⟨named, called, -⟩ := Registry.answersTo_iff.mp answers
    exact ⟨named, called⟩
  have distinct : (Report.listedMembers registry flags type).Nodup := by
    refine List.nodup_append'.mpr ⟨?_, List.nodup_flatMap.mpr ⟨?_, ?_⟩, ?_⟩
    · exact (Registry.declaredMembers_nodup type).of_map.filter _
    · exact fun name _ => (rooted.members_nodup type name flags).of_map
    · refine (nodup_eraseDups _ : (registry.memberNames type).Nodup).imp ?_
      intro name other different member under underOther
      exact different ((answers under).1.symm.trans (answers underOther).1)
    · intro member constructed offered
      obtain ⟨name, -, inside⟩ := List.mem_flatMap.mp offered
      exact (answers inside).2 (Registry.mem_constructors_iff.mp constructed).2.1
  refine distinct.map_on fun left leftListed right rightListed => ?_
  obtain ⟨leftAbove, leftDeclared⟩ := listed_facts rooted leftListed
  obtain ⟨rightAbove, rightDeclared⟩ := listed_facts rooted rightListed
  exact rooted.declared_eq_of_id_eq leftAbove rightAbove leftDeclared rightDeclared

/-- The report on the members of any type, under any configuration, has one entry for each
constructor that the type declares and the configuration admits, one for each other member that the
type or one of its base classes declares and the configuration admits, inherited private members
excepted, and no other entries. Commands answer with this report. -/
theorem members_listed_once (configuration : Configuration) (type : Ty) :
    let listed := Report.listedMembers registry configuration.binding type
    let report := Report.members (registry.typeName type)
      (listed.map (MemberReport.ofMember registry))
    (Report.ofType registry configuration.binding type = report ∧
        ∀ name, readType registry name = .ok type →
          Command.execute registry configuration (.members name) = pure report) ∧
      (listed.map (·.id)).Nodup ∧
      ∀ member, member ∈ listed ↔
        configuration.binding.admits member.toDeclaration = true ∧
          (member.kind = .constructor ∧ member ∈ registry.declaredMembers type ∨
            member.kind ≠ .constructor ∧ ∃ above,
              Relation.ReflTransGen registry.Extends type above ∧
                member ∈ registry.declaredMembers above ∧
                (above = type ∨ member.visibility ≠ .privateAccess)) := by
  intro listed report
  refine ⟨⟨rfl, fun name read => ?_⟩, listedMembers_nodup rooted configuration.binding type,
    fun member => mem_listedMembers_iff rooted⟩
  rw [Command.execute, read, Execution.ofExcept_ok_bind]
  rfl

omit rooted

/-- Two interfaces that extend each other, sensors that implement one of them, and gauges, which are
sensors of integers. A gauge has a reading of its own beside the one that it inherits, and a private
field of the name of a private method of sensors. -/
def gauges : Registry := .ofDefinitions
  [{ name := "Named", kind := .interfaceType, interfaces := [.named ⟨1⟩ []] },
   { name := "Shown", kind := .interfaceType, interfaces := [.named ⟨0⟩ []] },
   { name := "Sensor", kind := .classType, generics := ["T"], interfaces := [.named ⟨0⟩ []]
     declarations := Declaration.event "changed" ++
      [{ name := "new", kind := .constructor, body := .native .self },
       { name := "read", kind := .method, type := .parameter ⟨.definition ⟨2⟩, 0⟩
         body := .native .self },
       { name := "reset", kind := .method, visibility := .privateAccess, body := .native .self }] },
   { name := "Gauge", kind := .classType, base := some (.named ⟨2⟩ [.i32])
     declarations :=
      [{ name := "read", kind := .method, parameters := [.i32], type := .i32
         body := .native .self },
       { name := "reset", kind := .field, type := .bool, visibility := .privateAccess },
       { name := "new", kind := .constructor, parameters := [.i32], body := .native .self }] }]

/-- The constructor of gauges is listed, and neither the one of sensors nor what sensors have for
themselves: the method `reset` and the field behind the event. The reading of sensors is listed
beside the one of gauges, with integers for its result. -/
theorem gauges_listed_once :
    gauges.Rooted ∧ Relation.TransGen gauges.StandsBelow ⟨0⟩ ⟨0⟩ ∧
      (Report.ofType gauges .all (.named ⟨3⟩ [])).lines =
        ["Gauge", "  constructor  new(i32)", "  method       read(i32) -> i32",
          "  method       read() -> i32  (from Sensor<i32>)", "  field        reset: bool",
          "  event        event changed  (from Sensor<i32>)"] ∧
      ((Report.listedMembers gauges .all (.named ⟨3⟩ [])).map (·.id)).Nodup := by
  have rooted : gauges.Rooted := .of_definitions _ (by decide)
  obtain ⟨-, once, -⟩ := members_listed_once rooted .default (.named ⟨3⟩ [])
  refine ⟨rooted, ?_, by decide +kernel, once⟩
  exact .head (b := ⟨1⟩) ⟨_, rfl, _, List.mem_singleton_self _, rfl⟩
    (.single ⟨_, rfl, _, List.mem_singleton_self _, rfl⟩)

end Probe

end LateBinding
