import LateBinding.Registry

/-!
# The type hierarchy

Above a type stand its base and its interfaces, written with the type's own arguments, and
whatever stands above those. `supertypes` lists them all, the type itself first, in the order
of a depth-first walk that takes the base before the interfaces and the interfaces as they
are declared, and that lists no type twice. Two questions are answered from this list: may a
value of one type be stored where another is expected (`isAssignable`), and with which
arguments does a type instantiate a definition (`instantiation?`).

`baseChain` follows base classes only.
-/
namespace LateBinding

/-- A walk up a hierarchy: a stack of the types yet to visit, and the types listed so far, the
latest first. -/
structure Walk where
  pending : List Ty
  seen : List Ty

namespace Walk

/-- The types listed so far, in order. -/
def listed (walk : Walk) : List Ty :=
  walk.seen.reverse

/-- Take one type off the stack. A type that is met for the first time is listed, and what stands
directly above it is visited before the rest of the stack. -/
def step (above : Ty → List Ty) : Walk → Walk
  | ⟨[], seen⟩ => ⟨[], seen⟩
  | ⟨type :: pending, seen⟩ =>
    if type ∈ seen then ⟨pending, seen⟩ else ⟨above type ++ pending, type :: seen⟩

/-- Go on for a number of steps, as long as something is left to visit. -/
def advance (above : Ty → List Ty) : (steps : Nat) → Walk → Walk
  | 0, walk => walk
  | steps + 1, walk =>
    if walk.pending.isEmpty then walk else advance above steps (walk.step above)

/-- A step lists at most one type, in front of those seen before. None is ever forgotten. -/
theorem seen_step_suffix (above : Ty → List Ty) (walk : Walk) :
    walk.seen <:+ (walk.step above).seen := by
  obtain ⟨_ | ⟨type, pending⟩, seen⟩ := walk
  · exact List.suffix_rfl
  · rw [step]
    split
    · exact List.suffix_rfl
    · exact List.suffix_cons type seen

/-- A walk that has gone on from another: what the other listed it lists too, and first. -/
abbrev Later (walk : Walk) :=
  {later : Walk // walk.seen <:+ later.seen}

instance (walk : Walk) : Inhabited (Later walk) :=
  ⟨walk, List.suffix_rfl⟩

/-- Go on until nothing is left to visit, which may never happen. -/
def Later.finish (above : Ty → List Ty) {walk : Walk} (later : Later walk) : Later walk :=
  repeatM (m := Id) (fun later =>
    if later.1.pending.isEmpty then .inr later
    else .inl ⟨later.1.step above, later.2.trans (seen_step_suffix above later.1)⟩) later

/-- The walk with nothing left to visit. -/
def finish (above : Ty → List Ty) (walk : Walk) : Later walk :=
  (default : Later walk).finish above

end Walk

namespace Registry

/-- The direct base of a type, for the type's arguments. -/
def baseType? (registry : Registry) (type : Ty) : Option Ty :=
  (registry.view? type).bind fun (definition, images) =>
    definition.base.map (Ty.substitute images)

/-- The types directly above a type, for the type's arguments: base, then interfaces. -/
def parentTypes (registry : Registry) (type : Ty) : List Ty :=
  (registry.view? type).elim [] fun (definition, images) =>
    definition.parents.map (Ty.substitute images)

/-- The type and everything above it. The walk takes `searchLimit` steps and, where these do not
suffice, goes on to its end. -/
def supertypes (registry : Registry) (type : Ty) : List Ty :=
  let walk := Walk.advance registry.parentTypes registry.searchLimit ⟨[type], []⟩
  if walk.pending.isEmpty then walk.listed
  else (walk.finish registry.parentTypes).1.listed

/-- Whether a value of type `actual` may be stored where `declared` is expected. Everything
goes where `object` is expected, and a named type takes whatever stands below it. -/
def isAssignable (registry : Registry) (actual declared : Ty) : Bool :=
  if actual = declared then true
  else match declared with
    | .object => true
    | .named _ _ => declared ∈ registry.supertypes actual
    | _ => false

/-- The arguments with which a type instantiates a definition, itself or through what stands
above it; the first instantiation in the order of `supertypes` counts. -/
def instantiation? (registry : Registry) (actual : Ty) (id : DefinitionId) : Option (List Ty) :=
  ((registry.supertypes actual).find? fun type => type.definition? = some id).map Ty.arguments

/-- A type followed by its base, the base of that, and so on, for a number of steps. -/
def basesWithin (registry : Registry) : (steps : Nat) → Ty → List Ty
  | 0, _ => []
  | steps + 1, type => type :: (registry.baseType? type).elim [] (registry.basesWithin steps)

/-- A type followed by its base classes, the nearest first. -/
def baseChain (registry : Registry) (type : Ty) : List Ty :=
  registry.basesWithin registry.searchLimit type

end Registry

end LateBinding
