import LateBinding.Proofs.WellFormed
import LateBinding.Registry.Hierarchy
import Mathlib.Data.Set.Finite.Lattice

/-!
# Walks that end

The walk behind `Registry.supertypes` keeps a stack of its own, and a type counts as seen only when
it is taken off. `Visits` is the traversal that it carries out, by recursion on the tree of what
stands above a type: a type, then everything above it, then the rest, each type where it is met
first. A walk that ends has listed what this traversal lists (`Walk.visits_of_done`).

Along a walk every type listed is reached and listed once, and what stands directly above it is
listed or pending (`Walk.From`). So a walk that ends has listed exactly what is reached; and it ends
when this is finite, since a step lists one more type of it or shortens the stack.

Nothing here needs a well-formed registry. Whether finitely many types stand above a type is a
question of its own, answered in `Proofs.Hierarchy`.
-/
namespace LateBinding

/-- The recursive traversal of some types in turn, when others were seen before, and what it lists:
a type that is new, everything above it, and then the types after it. -/
inductive Visits (above : Ty → List Ty) : (seen pending listed : List Ty) → Prop
  | nothing (seen : List Ty) : Visits above seen [] []
  | known {seen pending listed : List Ty} {type : Ty} (old : type ∈ seen)
      (rest : Visits above seen pending listed) : Visits above seen (type :: pending) listed
  | fresh {seen pending higher listed : List Ty} {type : Ty} (new : type ∉ seen)
      (up : Visits above (type :: seen) (above type) higher)
      (rest : Visits above (higher.reverse ++ type :: seen) pending listed) :
      Visits above seen (type :: pending) (type :: higher ++ listed)

namespace Visits

variable {above : Ty → List Ty}

/-- A traversal lists one thing only. -/
theorem unique {seen pending left right : List Ty} (first : Visits above seen pending left)
    (second : Visits above seen pending right) : left = right := by
  induction first generalizing right with
  | nothing seen =>
    cases second
    rfl
  | known old _ inductionHypothesis =>
    cases second with
    | known _ rest => exact inductionHypothesis rest
    | fresh new => exact absurd old new
  | fresh new _ _ upHypothesis restHypothesis =>
    cases second with
    | known old => exact absurd old new
    | fresh _ up rest =>
      obtain rfl := upHypothesis up
      rw [restHypothesis rest]

/-- The types before a place are traversed first, and then those after it. -/
theorem split {seen front back listed : List Ty}
    (visits : Visits above seen (front ++ back) listed) :
    ∃ earlier later, Visits above seen front earlier ∧
      Visits above (earlier.reverse ++ seen) back later ∧ listed = earlier ++ later := by
  generalize together : front ++ back = pending at visits
  induction visits generalizing front with
  | nothing seen =>
    obtain ⟨rfl, rfl⟩ := List.append_eq_nil_iff.mp together
    exact ⟨[], [], .nothing seen, .nothing _, rfl⟩
  | @known seen pending listed type old rest inductionHypothesis =>
    cases front with
    | nil =>
      obtain rfl : back = type :: pending := together
      exact ⟨[], listed, .nothing seen, .known old rest, rfl⟩
    | cons first others =>
      obtain ⟨rfl, same⟩ := List.cons.inj together
      obtain ⟨earlier, later, before, after, rfl⟩ := inductionHypothesis same
      exact ⟨earlier, later, .known old before, after, rfl⟩
  | @fresh seen pending higher listed type new up rest _ restHypothesis =>
    cases front with
    | nil =>
      obtain rfl : back = type :: pending := together
      exact ⟨[], _, .nothing seen, .fresh new up rest, rfl⟩
    | cons first others =>
      obtain ⟨rfl, same⟩ := List.cons.inj together
      obtain ⟨earlier, later, before, after, rfl⟩ := restHypothesis same
      refine ⟨_, later, .fresh new up before, ?_, by simp⟩
      simpa using after

end Visits

namespace Registry

/-- One type stands above another, or is the same. -/
def Reaches (registry : Registry) : Ty → Ty → Prop :=
  Relation.ReflTransGen fun child parent => parent ∈ registry.parentTypes child

end Registry

namespace Walk

section Runs

variable {above : Ty → List Ty}

/-- A walk with nothing left to visit stays where it is. -/
theorem advance_of_done {walk : Walk} (done : walk.pending = []) (steps : Nat) :
    walk.advance above steps = walk := by
  cases steps with
  | zero => rfl
  | succ steps => rw [advance, done, List.isEmpty_nil, if_pos rfl]

/-- Steps are taken one after the other, however they are counted. -/
theorem advance_add (first second : Nat) (walk : Walk) :
    walk.advance above (first + second) = (walk.advance above first).advance above second := by
  induction first generalizing walk with
  | zero => rw [Nat.zero_add, advance]
  | succ first inductionHypothesis =>
    rw [Nat.succ_add, advance, advance]
    by_cases done : walk.pending.isEmpty = true
    · rw [if_pos done, if_pos done]
      exact (advance_of_done (List.isEmpty_iff.mp done) second).symm
    · rw [if_neg done, if_neg done]
      exact inductionHypothesis _

/-- What every step keeps holds all along. -/
theorem advance_keeps (holds : Walk → Prop) (keeps : ∀ walk, holds walk → holds (walk.step above))
    {walk : Walk} (start : holds walk) (steps : Nat) : holds (walk.advance above steps) := by
  induction steps generalizing walk with
  | zero => exact start
  | succ steps inductionHypothesis =>
    rw [advance]
    split
    · exact start
    · exact inductionHypothesis (keeps walk start)

/-- What has been seen stays seen. -/
theorem mem_seen_advance (steps : Nat) {walk : Walk} {type : Ty} (listed : type ∈ walk.seen) :
    type ∈ (walk.advance above steps).seen :=
  advance_keeps (fun walk => type ∈ walk.seen)
    (fun walk listed => (seen_step_suffix above walk).mem listed) listed steps

/-- The loop takes a step as long as something is pending. -/
theorem Later.finish_eq {walk : Walk} (later : Later walk) :
    later.finish above = if later.1.pending.isEmpty then later else
      Later.finish above ⟨later.1.step above, later.2.trans (seen_step_suffix above later.1)⟩ := by
  unfold Later.finish
  rw [repeatM_eq_of_monadTail, repeatM.body]
  by_cases done : later.1.pending.isEmpty
  · rw [if_pos done, if_pos done]
    rfl
  · rw [if_neg done, if_neg done]
    rfl

/-- Where the steps come to an end, the loop ends there too. -/
theorem Later.finish_of_done {walk : Walk} (later : Later walk) {steps : Nat}
    (done : (later.1.advance above steps).pending = []) :
    (later.finish above).1 = later.1.advance above steps := by
  induction steps generalizing later with
  | zero =>
    rw [advance] at done ⊢
    rw [Later.finish_eq, done, List.isEmpty_nil, if_pos rfl]
  | succ steps inductionHypothesis =>
    rw [Later.finish_eq]
    rw [advance] at done ⊢
    by_cases arrived : later.1.pending.isEmpty = true
    · rw [if_pos arrived, if_pos arrived]
    · rw [if_neg arrived] at done
      rw [if_neg arrived, if_neg arrived]
      exact inductionHypothesis _ done

/-- A walk that comes to an end carries out the recursive traversal of what was pending. -/
theorem visits_of_done {walk : Walk} {steps : Nat}
    (done : (walk.advance above steps).pending = []) :
    ∃ listed, Visits above walk.seen walk.pending listed ∧
      (walk.advance above steps).seen = listed.reverse ++ walk.seen := by
  induction steps generalizing walk with
  | zero =>
    rw [advance] at done ⊢
    rw [done]
    exact ⟨[], .nothing walk.seen, rfl⟩
  | succ steps inductionHypothesis =>
    obtain ⟨_ | ⟨type, pending⟩, seen⟩ := walk
    · exact ⟨[], .nothing seen, rfl⟩
    rw [advance, List.isEmpty_cons, if_neg Bool.false_ne_true, step] at done ⊢
    by_cases old : type ∈ seen
    · rw [if_pos old] at done ⊢
      obtain ⟨listed, rest, same⟩ := inductionHypothesis done
      exact ⟨listed, .known old rest, same⟩
    · rw [if_neg old] at done ⊢
      obtain ⟨listed, visits, same⟩ := inductionHypothesis done
      obtain ⟨higher, later, up, rest, rfl⟩ := visits.split
      exact ⟨_, .fresh old up rest, by simpa using same⟩

end Runs

/-! ## What a walk has done so far -/

/-- What holds all along a walk that began at a type. -/
structure From (registry : Registry) (start : Ty) (walk : Walk) : Prop where
  distinct : walk.seen.Nodup
  reached : ∀ type ∈ walk.pending ++ walk.seen, registry.Reaches start type
  begun : start ∈ walk.pending ++ walk.seen
  closed : ∀ child ∈ walk.seen, ∀ parent ∈ registry.parentTypes child,
    parent ∈ walk.pending ++ walk.seen

variable {registry : Registry} {start : Ty}

/-- The walk begins with its type on the stack, and nothing seen. -/
theorem from_start (registry : Registry) (start : Ty) : From registry start ⟨[start], []⟩ where
  distinct := List.nodup_nil
  reached := by
    intro type only
    obtain rfl : type = start := by simpa using only
    exact .refl
  begun := by simp
  closed := by simp

/-- A step keeps all of this. A type that was seen before is dropped; a new one is listed, and its
parents come on the stack. -/
theorem From.step {walk : Walk} (going : From registry start walk) :
    From registry start (walk.step registry.parentTypes) := by
  obtain ⟨_ | ⟨type, pending⟩, seen⟩ := walk
  · exact going
  obtain ⟨distinct, reached, begun, closed⟩ := going
  rw [Walk.step]
  by_cases old : type ∈ seen
  · rw [if_pos old]
    -- the type taken off is still among those seen
    have stays : ∀ {other : Ty}, other ∈ type :: pending ++ seen → other ∈ pending ++ seen := by
      intro other place
      simp only [List.cons_append, List.mem_cons, List.mem_append] at place ⊢
      rcases place with rfl | place
      · exact Or.inr old
      · exact place
    have reachedRest : ∀ other ∈ pending ++ seen, registry.Reaches start other :=
      fun other place => reached other (List.mem_cons_of_mem _ place)
    exact ⟨distinct, reachedRest, stays begun,
      fun child listed parent up => stays (closed child listed parent up)⟩
  · rw [if_neg old]
    have stays : ∀ {other : Ty}, other ∈ type :: pending ++ seen →
        other ∈ registry.parentTypes type ++ pending ++ type :: seen := by
      intro other place
      simp only [List.cons_append, List.mem_cons, List.mem_append] at place ⊢
      tauto
    refine ⟨List.nodup_cons.mpr ⟨old, distinct⟩, ?_, stays begun, ?_⟩
    · intro other place
      rcases List.mem_append.mp place with place | listed
      · rcases List.mem_append.mp place with up | waiting
        · exact .tail (reached type List.mem_cons_self) up
        · exact reached other (List.mem_cons_of_mem _ (List.mem_append_left _ waiting))
      · rcases List.mem_cons.mp listed with rfl | earlier
        · exact reached other List.mem_cons_self
        · exact reached other (List.mem_append_right _ earlier)
    · intro child listed parent up
      rcases List.mem_cons.mp listed with rfl | earlier
      · exact List.mem_append_left _ (List.mem_append_left _ up)
      · exact stays (closed child earlier parent up)

/-- So all of this holds after any number of steps. -/
theorem from_advance (registry : Registry) (start : Ty) (steps : Nat) :
    From registry start (Walk.advance registry.parentTypes steps ⟨[start], []⟩) :=
  advance_keeps (From registry start) (fun _ => From.step) (from_start registry start) steps

/-- A walk that is over has listed what is reached. -/
theorem From.mem_seen_iff {walk : Walk} (going : From registry start walk)
    (done : walk.pending = []) {type : Ty} : type ∈ walk.seen ↔ registry.Reaches start type := by
  have all : walk.pending ++ walk.seen = walk.seen := by rw [done, List.nil_append]
  constructor
  · exact fun listed => going.reached type (List.mem_append_right _ listed)
  · intro path
    induction path with
    | refl => exact all ▸ going.begun
    | tail _ up listed => exact all ▸ going.closed _ listed _ up

/-- A walk has room for a type that is new, as long as finitely many are reached. -/
theorem From.length_seen_lt {pending seen : List Ty} {type : Ty}
    (finite : {type | registry.Reaches start type}.Finite)
    (going : From registry start ⟨type :: pending, seen⟩) (new : type ∉ seen) :
    seen.length < finite.toFinset.card := by
  have inside : (type :: seen).toFinset ⊆ finite.toFinset := by
    intro other listed
    rw [Set.Finite.mem_toFinset]
    rcases List.mem_cons.mp (List.mem_toFinset.mp listed) with rfl | earlier
    · exact going.reached other List.mem_cons_self
    · exact going.reached other (List.mem_append_right _ earlier)
  have counted := Finset.card_le_card inside
  rw [List.toFinset_card_of_nodup (List.nodup_cons.mpr ⟨new, going.distinct⟩)] at counted
  exact counted

/-- A walk ends where finitely many types are reached: a step lists one of those that are left, or
shortens the stack. -/
theorem From.exists_done (finite : {type | registry.Reaches start type}.Finite) {walk : Walk}
    (going : From registry start walk) :
    ∃ steps, (walk.advance registry.parentTypes steps).pending = [] := by
  obtain ⟨pending, seen⟩ := walk
  induction left : finite.toFinset.card - seen.length using Nat.strong_induction_on
    generalizing pending seen with
  | _ left fewer =>
    subst left
    induction pending with
    | nil => exact ⟨0, rfl⟩
    | cons type pending shorter =>
      have next := going.step
      have later : ∃ steps, ((Walk.step registry.parentTypes ⟨type :: pending, seen⟩).advance
          registry.parentTypes steps).pending = [] := by
        rw [Walk.step] at next ⊢
        by_cases old : type ∈ seen
        · rw [if_pos old] at next ⊢
          exact shorter next
        · rw [if_neg old] at next ⊢
          have room := going.length_seen_lt finite old
          exact fewer _ (by rw [List.length_cons]; omega) _ _ next rfl
      obtain ⟨steps, done⟩ := later
      exact ⟨steps + 1, done⟩

end Walk

namespace Registry

variable {registry : Registry}

/-- A walk that comes to an end lists the supertypes, in however many steps. -/
theorem supertypes_of_done {type : Ty} {steps : Nat}
    (done : (Walk.advance registry.parentTypes steps ⟨[type], []⟩).pending = []) :
    registry.supertypes type =
      (Walk.advance registry.parentTypes steps ⟨[type], []⟩).listed := by
  -- the walk is at its end after the first steps together with these, in either order
  have more : (Walk.advance registry.parentTypes registry.searchLimit ⟨[type], []⟩).advance
      registry.parentTypes steps = Walk.advance registry.parentTypes steps ⟨[type], []⟩ := by
    rw [← Walk.advance_add, Nat.add_comm, Walk.advance_add, Walk.advance_of_done done]
  rw [← more] at done ⊢
  unfold supertypes
  dsimp only
  by_cases arrived : (Walk.advance registry.parentTypes registry.searchLimit
      ⟨[type], []⟩).pending.isEmpty = true
  · rw [if_pos arrived, Walk.advance_of_done (List.isEmpty_iff.mp arrived)]
  · rw [if_neg arrived]
    exact congrArg Walk.listed (Walk.Later.finish_of_done _ done)

/-- What the first steps list is among the supertypes, whether the walk ends or not. -/
theorem mem_supertypes_of_advance {type listed : Ty}
    (seen : listed ∈ (Walk.advance registry.parentTypes registry.searchLimit ⟨[type], []⟩).seen) :
    listed ∈ registry.supertypes type := by
  unfold supertypes
  dsimp only
  split
  · exact List.mem_reverse.mpr seen
  · exact List.mem_reverse.mpr ((Walk.finish _ _).2.mem seen)

section Finite

variable {type : Ty} (finite : {above | registry.Reaches type above}.Finite)
include finite

/-- Where finitely many types are reached, the walk ends, and it has listed what the recursive
traversal lists. -/
theorem exists_done_visits : ∃ steps,
    (Walk.advance registry.parentTypes steps ⟨[type], []⟩).pending = [] ∧
      registry.supertypes type =
        (Walk.advance registry.parentTypes steps ⟨[type], []⟩).listed ∧
      Visits registry.parentTypes [] [type] (registry.supertypes type) := by
  obtain ⟨steps, done⟩ := (Walk.from_start registry type).exists_done finite
  obtain ⟨listed, visits, same⟩ := Walk.visits_of_done done
  have order : registry.supertypes type = listed := by
    rw [supertypes_of_done done, Walk.listed, same]
    simp
  exact ⟨steps, done, supertypes_of_done done, order ▸ visits⟩

/-- No type is listed twice. -/
theorem nodup_supertypes : (registry.supertypes type).Nodup := by
  obtain ⟨steps, -, listed, -⟩ := exists_done_visits finite
  rw [listed, Walk.listed, List.nodup_reverse]
  exact (Walk.from_advance registry type steps).distinct

/-- A type's supertypes are the types it reaches. -/
theorem mem_supertypes_iff_of_finite {above : Ty} :
    above ∈ registry.supertypes type ↔ registry.Reaches type above := by
  obtain ⟨steps, done, listed, -⟩ := exists_done_visits finite
  rw [listed, Walk.listed, List.mem_reverse,
    (Walk.from_advance registry type steps).mem_seen_iff done]

end Finite

end Registry

end LateBinding
