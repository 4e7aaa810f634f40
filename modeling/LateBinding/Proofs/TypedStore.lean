import LateBinding.Proofs.Fields
import LateBinding.Proofs.Selection

/-!
# Well-typed stores

A slot of an object is found by its name alone, so several members may read and write it: fields
of the classes and interfaces above the object's type, and whatever else has a field for a body.
In a well-typed store each slot holds what one of these members may hold, and each static field
likewise. Values refer to objects that are there, under the types they have, and handlers bind
members of the registry.

Making an object and writing a field keep a store well typed. An object keeps its type, so
whatever was genuine before is so afterwards.
-/
namespace LateBinding

/-! ## Members of a registry -/

/-- The members that can be had from a registry: declared ones, and ones whose own parameters
were given arguments. -/
inductive Registry.Describes (registry : Registry) : Member → Prop
  | declared {type : Ty} {member : Member} :
    member ∈ registry.declaredMembers type → Describes registry member
  | closed {member : Member} (arguments : List Ty) :
    Describes registry member → Describes registry (member.closeMethod arguments)

namespace Registry

variable {registry : Registry}

/-- A member's body is that of a declaration, and it is seen from a named type. -/
theorem Describes.origin {member : Member} (described : registry.Describes member) :
    (∃ definition ∈ registry.definitions, ∃ declaration ∈ definition.declarations,
      member.body = declaration.body) ∧ ∃ id arguments, member.declaring = .named id arguments := by
  induction described with
  | declared listed =>
    obtain ⟨id, arguments, definition, index, declaration, rfl, found, stored, rfl⟩ :=
      mem_declaredMembers_iff.mp listed
    exact ⟨⟨definition, List.mem_of_getElem? found, declaration, List.mem_of_getElem? stored, rfl⟩,
      id, arguments, rfl⟩
  | closed arguments _ inductionHypothesis => exact inductionHypothesis

/-- A name that is declared at the same closed type everywhere has that type on every member. -/
theorem Describes.type_eq {name : String} {type : Ty} (closed : type.isOpen = false)
    (everywhere : ∀ definition ∈ registry.definitions, ∀ declaration ∈ definition.declarations,
      declaration.name = name → declaration.type = type)
    {member : Member} (described : registry.Describes member) (named : member.name = name) :
    member.type = type := by
  induction described with
  | declared listed =>
    obtain ⟨id, arguments, definition, index, declaration, rfl, found, stored, rfl⟩ :=
      mem_declaredMembers_iff.mp listed
    have written : declaration.type = type := everywhere definition (List.mem_of_getElem? found)
      declaration (List.mem_of_getElem? stored) named
    rw [seenFrom_type, written, Ty.replace_of_closed _ closed]
  | closed arguments _ inductionHypothesis =>
    rw [Member.closeMethod_type, inductionHypothesis named, Ty.replace_of_closed _ closed]

/-- What is listed along a chain of types is declared by one of them. -/
theorem describes_of_mem_membersAlong {name : String} {flags : BindingFlags} {types : List Ty}
    {member : Member} (listed : member ∈ registry.membersAlong name flags types) :
    registry.Describes member := by
  obtain ⟨_, _, declared, _⟩ := mem_membersAlong listed
  exact .declared declared

/-- Every candidate is a member of the registry, a constructor or a member that is listed. -/
theorem describes_of_mem_candidates {flags : BindingFlags} {type : Ty} {name : String}
    {kind : MemberKind} {member : Member}
    (listed : member ∈ registry.candidates flags type name kind) : registry.Describes member := by
  obtain ⟨_, _, _, _, declared⟩ := mem_candidates listed
  exact .declared declared

/-- Looking a member up again finds no other members than these. -/
theorem describes_of_findMember? {type : Ty} {kind : MemberKind} {name : String}
    {parameters : List Ty} {member : Member}
    (found : registry.findMember? type kind name parameters = some member) :
    registry.Describes member := by
  rw [findMember?] at found
  have listed := List.mem_of_find?_eq_some found
  split at listed
  · exact .declared (List.mem_filter.mp listed).1
  · exact describes_of_mem_membersAlong listed

/-- Closing a member leads to a member. -/
theorem describes_of_close {member closed : Member} {matched : Match}
    (described : registry.Describes member)
    (closing : registry.close member matched = .ok closed) : registry.Describes closed := by
  obtain ⟨between, betweenDescribed, stepped⟩ : ∃ between, registry.Describes between ∧
      (if between.hasOpenMethodParameters then
        registry.closeMethod between matched.methodArguments else pure between) = .ok closed := by
    rw [close] at closing
    split at closing
    · obtain ⟨between, reopened, stepped⟩ := bind_eq_ok.mp closing
      cases home : member.declaring.definition? with
      | none => simp [reopen, home] at reopened
      | some id =>
        obtain ⟨-, lookedUp⟩ := (reopen_eq_ok_iff home).mp reopened
        exact ⟨between, describes_of_findMember? lookedUp, stepped⟩
    · exact ⟨member, described, closing⟩
  split at stepped
  · obtain ⟨-, rfl⟩ := closeMethod_eq_ok_iff.mp stepped
    exact betweenDescribed.closed _
  · exact Except.ok.inj stepped ▸ betweenDescribed

/-- A candidate that was selected is a member of the registry. -/
theorem describes_of_resolve {flags : BindingFlags} {site : CallSite} {selected : Selected}
    (found : registry.resolve flags site = .ok selected) :
    registry.Describes selected.candidate :=
  describes_of_mem_candidates (resolve_eq_ok found).1

/-- So is the member that it was closed to, whichever way it was closed. -/
theorem describes_of_resolveMember {flags : BindingFlags} {site : CallSite}
    {resolved : Resolved} (found : registry.resolveMember flags site = .ok resolved) :
    registry.Describes resolved.member := by
  obtain ⟨selection, closing⟩ := resolveMember_eq_ok found
  exact describes_of_close (describes_of_resolve selection) closing

end Registry

/-! ## Genuine values -/

/-- What a value refers to. -/
inductive Mention
  | object (ref : ObjectRef)
  | method (member : Member)

mutual

/-- The objects and methods that a value refers to, through its handlers too. -/
def Value.mentions : Value → List Mention
  | .literal _ => []
  | .object ref => [.object ref]
  | .delegate handlers => handlersMentions handlers

/-- Those of a handler: its method and what it is bound to. -/
def Handler.mentions : Handler → List Mention
  | .mk target method => .method method :: targetMentions target

/-- Those of several handlers. -/
def handlersMentions : List Handler → List Mention
  | [] => []
  | handler :: rest => handler.mentions ++ handlersMentions rest

/-- Those of a value that may be absent. -/
def targetMentions : Option Value → List Mention
  | none => []
  | some value => value.mentions

end

/-- The type of the object at an address. -/
def Store.typeAt? (store : Store) (address : Nat) : Option Ty :=
  (store.objects[address]?).map StoredObject.type

/-- Whether an object is there under its type, and a method a member of the registry. -/
def Mention.Genuine (registry : Registry) (store : Store) : Mention → Prop
  | .object ref => store.typeAt? ref.address = some ref.type
  | .method member => registry.Describes member

/-- Whether everything that a value refers to is genuine. -/
def Value.Genuine (registry : Registry) (store : Store) (value : Value) : Prop :=
  ∀ mention ∈ value.mentions, mention.Genuine registry store

/-- The same of a handler. -/
def Handler.Genuine (registry : Registry) (store : Store) (handler : Handler) : Prop :=
  ∀ mention ∈ handler.mentions, mention.Genuine registry store

/-- The same of several values. -/
def AllGenuine (registry : Registry) (store : Store) (values : List Value) : Prop :=
  ∀ value ∈ values, value.Genuine registry store

/-- A later store, in which every object is still there with its type. -/
def Store.Extends (before after : Store) : Prop :=
  ∀ address type, before.typeAt? address = some type → after.typeAt? address = some type

namespace Store.Extends

variable {before between after : Store}

/-- A store is a later one of itself. -/
theorem refl (store : Store) : store.Extends store :=
  fun _ _ => id

/-- Later stores of later stores are later, since an object never changes its type. -/
theorem trans (first : before.Extends between) (second : between.Extends after) :
    before.Extends after :=
  fun address type stored => second address type (first address type stored)

end Store.Extends

section Genuine

variable {registry : Registry} {store after : Store}

/-- What a mention refers to is still there in a later store. -/
theorem Mention.Genuine.mono {mention : Mention} (genuine : mention.Genuine registry store)
    (extended : store.Extends after) : mention.Genuine registry after := by
  cases mention with
  | object ref => exact extended _ _ genuine
  | method member => exact genuine

/-- A genuine value stays genuine, whatever is done to the store after it was found. -/
theorem Value.Genuine.mono {value : Value} (genuine : value.Genuine registry store)
    (extended : store.Extends after) : value.Genuine registry after :=
  fun mention inside => (genuine mention inside).mono extended

/-- A handler keeps its target and its method. -/
theorem Handler.Genuine.mono {handler : Handler} (genuine : handler.Genuine registry store)
    (extended : store.Extends after) : handler.Genuine registry after :=
  fun mention inside => (genuine mention inside).mono extended

/-- Several values stay genuine together. -/
theorem AllGenuine.mono {values : List Value} (genuine : AllGenuine registry store values)
    (extended : store.Extends after) : AllGenuine registry after values :=
  fun value inside => (genuine value inside).mono extended

/-- Two lists of values are genuine together when each of them is. -/
theorem allGenuine_append {first rest : List Value} :
    AllGenuine registry store (first ++ rest) ↔
      AllGenuine registry store first ∧ AllGenuine registry store rest :=
  List.forall_mem_append

/-- A literal mentions nothing, so it is genuine with any store. -/
@[simp] theorem Value.genuine_literal (content : Literal) :
    (Value.literal content).Genuine registry store := by
  simp [Value.Genuine, Value.mentions]

/-- A reference is genuine when its object is there under the type it gives. -/
@[simp] theorem Value.genuine_object (ref : ObjectRef) :
    (Value.object ref).Genuine registry store ↔ store.typeAt? ref.address = some ref.type := by
  simp [Value.Genuine, Value.mentions, Mention.Genuine]

/-- A delegate is genuine when all its handlers are. The mentions are listed by a recursion of their
own, which is a walk through the handlers. -/
theorem Value.genuine_delegate (handlers : List Handler) :
    (Value.delegate handlers).Genuine registry store ↔
      ∀ handler ∈ handlers, handler.Genuine registry store := by
  have listed : handlersMentions handlers = handlers.flatMap Handler.mentions := by
    induction handlers with
    | nil => rfl
    | cons handler rest inductionHypothesis => simp [handlersMentions, inductionHypothesis]
  simp only [Value.Genuine, Value.mentions, listed, List.mem_flatMap, Handler.Genuine]
  constructor
  · exact fun all handler inside mention deeper => all mention ⟨handler, inside, deeper⟩
  · rintro each mention ⟨handler, inside, deeper⟩
    exact each handler inside mention deeper

/-- A handler is genuine when its method is a member of the registry and its target, if it has one,
is genuine. -/
theorem Handler.genuine_iff (handler : Handler) : handler.Genuine registry store ↔
    registry.Describes handler.method ∧ AllGenuine registry store handler.target.toList := by
  obtain ⟨target, method⟩ := handler
  cases target <;>
    simp [Handler.Genuine, Handler.mentions, targetMentions, AllGenuine, Value.Genuine,
      Mention.Genuine, Handler.method, Handler.target]

end Genuine

/-! ## Slots and the members that use them -/

namespace Registry

variable (registry : Registry)

/-- Whether a member reads or writes slots of objects of a type: a field of the type or of one
above it, or another member that has a field for a body. -/
structure SlotUser (type : Ty) (member : Member) : Prop where
  described : registry.Describes member
  isInstance : member.isStatic = false
  uses : member.kind = .field ∨ member.body = .field
  reached : registry.Reaches type member.declaring

/-- Whether a member reads or writes a static field of a type. -/
structure StaticUser (type : Ty) (member : Member) : Prop where
  described : registry.Describes member
  static : member.isStatic = true
  uses : member.body = .field
  declaring : member.declaring = type

/-- Whether a value may be found where a member reads: it fits the member's type, or is what the
member starts with. -/
def MayHold (member : Member) (value : Value) : Prop :=
  registry.Fits member.type value ∨ value = defaultValue member.type

/-- Whether every slot and every static field holds a genuine value that some user of it may
hold. -/
structure WellTyped (store : Store) : Prop where
  slots : ∀ {address : Nat} {object : StoredObject}, store.objects[address]? = some object →
    ∀ {name : String} {value : Value}, object.slots.get? name = some value →
      value.Genuine registry store ∧ ∃ user, registry.SlotUser object.type user ∧
        user.name = name ∧ registry.MayHold user value
  statics : ∀ {type : Ty} {name : String} {value : Value},
    store.statics.get? (type, name) = some value →
      value.Genuine registry store ∧ ∃ user, registry.StaticUser type user ∧
        user.name = name ∧ registry.MayHold user value

variable {registry} {store : Store}

/-- Defaults are literals, so no default can refer to an object that is not there. -/
theorem defaultValue_genuine (type : Ty) : (defaultValue type).Genuine registry store := by
  cases type <;> simp [defaultValue]

/-- The empty store is well typed: it has no object and no static field. -/
theorem wellTyped_empty : registry.WellTyped .empty := by
  constructor
  · intro address object stored
    simp [Store.empty] at stored
  · intro type name value stored
    simp [Store.empty] at stored

/-- What is found after several writes was there before or was written. -/
theorem get?_writes {κ ν : Type} [DecidableEq κ] {pairs : List (κ × ν)} {map : OrderedMap κ ν}
    {key : κ} {value : ν}
    (found : (pairs.foldl (fun map pair => map.insert pair.1 pair.2) map).get? key =
      some value) : map.get? key = some value ∨ (key, value) ∈ pairs := by
  induction pairs generalizing map with
  | nil => exact Or.inl found
  | cons pair rest inductionHypothesis =>
    rcases inductionHypothesis found with before | later
    · by_cases same : pair.1 = key
      · subst same
        rw [OrderedMap.get?_insert_self] at before
        exact Or.inr (List.mem_cons.mpr (Or.inl (by rw [← Option.some.inj before])))
      · rw [OrderedMap.get?_insert_of_ne _ same] at before
        exact Or.inl before
    · exact Or.inr (List.mem_cons_of_mem _ later)

/-- A new object holds what its fields start with. -/
theorem fieldSlots_held {type : Ty} {name : String} {value : Value}
    (found : (registry.fieldSlots type).get? name = some value) :
    ∃ user, registry.SlotUser type user ∧ user.name = name ∧ value = defaultValue user.type := by
  rcases get?_writes found with absent | written
  · simp at absent
  · obtain ⟨user, listed, same⟩ := List.mem_map.mp written
    obtain ⟨rfl, rfl⟩ := Prod.mk.inj same
    obtain ⟨declared, holds⟩ := List.mem_filter.mp listed
    obtain ⟨seen, above, here⟩ := List.mem_flatMap.mp declared
    obtain ⟨kind, isInstance⟩ : user.kind = .field ∧ user.isStatic = false := by simpa using holds
    refine ⟨user, ⟨.declared here, isInstance, Or.inl kind, ?_⟩, rfl, rfl⟩
    rw [(declared_facts here).1]
    exact reaches_of_mem_basesWithin _ (List.mem_reverse.mp above)

namespace WellTyped

variable (wellTyped : registry.WellTyped store)
include wellTyped

/-- What is read from an object is genuine, and one of the users of the slot may hold it. Which user
wrote it the store does not tell. -/
theorem getSlot {ref : ObjectRef} {name : String} {value : Value}
    (found : store.getSlot? ref name = some value) :
    value.Genuine registry store ∧ ∃ type, store.typeAt? ref.address = some type ∧
      ∃ user, registry.SlotUser type user ∧ user.name = name ∧ registry.MayHold user value := by
  rw [Store.getSlot?, Store.slots] at found
  cases stored : store.objects[ref.address]? with
  | none => simp [stored] at found
  | some object =>
    obtain ⟨genuine, held⟩ := wellTyped.slots stored (by simpa [stored] using found)
    exact ⟨genuine, object.type, by simp [Store.typeAt?, stored], held⟩

/-- Making an object adds it under its type, and everything in its slots is a default. -/
theorem allocate (type : Ty) :
    registry.WellTyped (store.allocate type (registry.fieldSlots type)).2 ∧
      store.Extends (store.allocate type (registry.fieldSlots type)).2 ∧
      (store.allocate type (registry.fieldSlots type)).2.typeAt? store.objects.length =
        some type := by
  have extended : store.Extends (store.allocate type (registry.fieldSlots type)).2 := by
    intro address other stored
    obtain ⟨object, found, rfl⟩ := Option.map_eq_some_iff.mp stored
    obtain ⟨bounded, _⟩ := List.getElem?_eq_some_iff.mp found
    simp [Store.typeAt?, Store.allocate, List.getElem?_append_left bounded, found]
  refine ⟨⟨?_, ?_⟩, extended, by simp [Store.typeAt?, Store.allocate]⟩
  · intro address object stored name value found
    simp only [Store.allocate] at stored
    by_cases old : address < store.objects.length
    · rw [List.getElem?_append_left old] at stored
      obtain ⟨genuine, user, holds⟩ := wellTyped.slots stored found
      exact ⟨genuine.mono extended, user, holds⟩
    · rw [List.getElem?_append_right (Nat.not_lt.mp old), List.getElem?_singleton] at stored
      obtain ⟨-, same⟩ := Option.ite_none_right_eq_some.mp stored
      obtain rfl := Option.some.inj same
      obtain ⟨user, uses, sameName, rfl⟩ := fieldSlots_held found
      exact ⟨defaultValue_genuine _, user, uses, sameName, Or.inr rfl⟩
  · intro other name value found
    obtain ⟨genuine, user, holds⟩ := wellTyped.statics found
    exact ⟨genuine.mono extended, user, holds⟩

/-- Writing a slot of an object that is there, as one of its users does. -/
theorem setSlot {ref : ObjectRef} (held : store.typeAt? ref.address = some ref.type)
    {user : Member} (uses : registry.SlotUser ref.type user) {value : Value}
    (genuine : value.Genuine registry store) (fits : registry.Fits user.type value) :
    registry.WellTyped (store.setSlot ref user.name value) ∧
      store.Extends (store.setSlot ref user.name value) := by
  have extended : store.Extends (store.setSlot ref user.name value) := by
    intro address other stored
    obtain ⟨object, found, rfl⟩ := Option.map_eq_some_iff.mp stored
    by_cases same : ref.address = address <;>
      simp [Store.typeAt?, Store.setSlot, found, same]
  refine ⟨⟨?_, ?_⟩, extended⟩
  · intro address object stored name found slot
    simp only [Store.setSlot, List.getElem?_modify] at stored
    obtain ⟨before, there, rfl⟩ := Option.map_eq_some_iff.mp stored
    by_cases written : ref.address = address ∧ user.name = name
    · obtain ⟨rfl, rfl⟩ := written
      obtain rfl : value = found := by simpa using slot
      have sameType : before.type = ref.type := by simpa [Store.typeAt?, there] using held
      exact ⟨genuine.mono extended, user, by simpa [sameType] using uses, rfl, Or.inl fits⟩
    · have unchanged : before.slots.get? name = some found := by
        rw [← slot]
        by_cases same : ref.address = address
        · rw [if_pos same]
          exact (OrderedMap.get?_insert_of_ne _ (fun alike => written ⟨same, alike⟩) _).symm
        · rw [if_neg same]
      obtain ⟨foundGenuine, reader, reads, rest⟩ := wellTyped.slots there unchanged
      refine ⟨foundGenuine.mono extended, reader, ?_, rest⟩
      split <;> exact reads
  · intro other name found stored
    obtain ⟨foundGenuine, reader, holds⟩ := wellTyped.statics stored
    exact ⟨foundGenuine.mono extended, reader, holds⟩

/-- Writing a static field, as one of its users does. -/
theorem setStatic {type : Ty} {user : Member} (uses : registry.StaticUser type user)
    {value : Value} (genuine : value.Genuine registry store)
    (fits : registry.Fits user.type value) :
    registry.WellTyped (store.setStatic type user.name value) ∧
      store.Extends (store.setStatic type user.name value) := by
  have extended : store.Extends (store.setStatic type user.name value) := fun _ _ => id
  refine ⟨⟨?_, ?_⟩, extended⟩
  · intro address object stored name found slot
    obtain ⟨foundGenuine, reader, holds⟩ := wellTyped.slots stored slot
    exact ⟨foundGenuine.mono extended, reader, holds⟩
  · intro other name found stored
    by_cases same : (type, user.name) = (other, name)
    · obtain ⟨rfl, rfl⟩ := Prod.mk.inj same
      obtain rfl : value = found := by simpa [Store.setStatic] using stored
      exact ⟨genuine.mono extended, user, uses, rfl, Or.inl fits⟩
    · rw [Store.setStatic, OrderedMap.get?_insert_of_ne _ same] at stored
      obtain ⟨foundGenuine, reader, holds⟩ := wellTyped.statics stored
      exact ⟨foundGenuine.mono extended, reader, holds⟩

end WellTyped

end Registry

end LateBinding
