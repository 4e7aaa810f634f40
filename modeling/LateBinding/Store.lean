import LateBinding.Value

/-!
# The store

The state that a program can change: the objects made so far, with their slots, and the static
fields that were written. An object has the type it was made with. A static field belongs to a
closed type, so each instantiation of a generic class has its own.

`Store.display` shows a value in full, objects by their slots. Objects may refer to one
another, so it follows references to a depth; the number of objects is depth enough unless
the references form a cycle.
-/
namespace LateBinding

/-- The slots of an object, in the order in which they were made. -/
abbrev Slots := OrderedMap String Value

/-- An object as it stands in the store. -/
structure StoredObject where
  type : Ty
  slots : Slots

/-- Objects by address, and written static fields by type and name. -/
structure Store where
  objects : List StoredObject := []
  statics : OrderedMap (Ty × String) Value := .empty

namespace Store

instance : Inhabited Store := ⟨{}⟩

/-- Nothing made and nothing written. -/
def empty : Store := {}

/-- Make an object of a type with the given slots. -/
def allocate (store : Store) (type : Ty) (slots : Slots) : ObjectRef × Store :=
  (⟨store.objects.length, type⟩, { store with objects := store.objects ++ [⟨type, slots⟩] })

/-- The slots of an object. -/
def slots (store : Store) (ref : ObjectRef) : Slots :=
  (store.objects[ref.address]?).elim .empty StoredObject.slots

/-- The value in a slot, if the object has it. -/
def getSlot? (store : Store) (ref : ObjectRef) (name : String) : Option Value :=
  (store.slots ref).get? name

/-- Write a slot, making it if the object does not have it. -/
def setSlot (store : Store) (ref : ObjectRef) (name : String) (value : Value) : Store :=
  { store with
    objects := store.objects.modify ref.address fun object =>
      { object with slots := object.slots.insert name value } }

/-- Write a static field. -/
def setStatic (store : Store) (type : Ty) (name : String) (value : Value) : Store :=
  { store with statics := store.statics.insert (type, name) value }

/-- A value in full, with references followed to a depth. -/
def displayWithin (store : Store) : (depth : Nat) → Value → String
  | _, .literal literal => literal.text
  | _, .delegate handlers => "delegate[" ++ toString handlers.length ++ "]"
  | 0, .object _ => "\x7b\x7d"
  | depth + 1, .object ref =>
    let entries := (store.slots ref).entries.map fun (name, value) =>
      Text.quoted name ++ ": " ++ store.displayWithin depth value
    "\x7b" ++ ", ".intercalate entries ++ "\x7d"

/-- A value in full. -/
def display (store : Store) (value : Value) : String :=
  store.displayWithin (store.objects.length + 1) value

/-- A handler in full: the name of its method and the value it is bound to. -/
def displayHandler (store : Store) (handler : Handler) : String :=
  let target := match handler.target with
    | some value => "Some(" ++ store.display value ++ ")"
    | none => "None"
  "Handler \x7b method: " ++ Text.quoted handler.method.name ++ ", target: " ++ target ++ " \x7d"

/-- A value as it joins other text: strings stand without quotes. -/
def plainText (store : Store) : Value → String
  | .literal literal => literal.plainText
  | other => store.display other

end Store

end LateBinding
