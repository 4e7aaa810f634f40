import LateBinding.Registry

/-!
# The sample registry

A small world to try the engine on:

| Type | Members |
|---|---|
| `Calculator` | `Add` on integers and on text, `Divide` |
| `Box<T>` | holds the value that it was constructed with |
| `List<T>`, `IntList : List<i32>` | count what is added |
| `Util` | static: `Identity<T>`, `Describe`, `Repeat` |
| `Counter` | counts, and has an event |
-/
namespace LateBinding.Probe.Sample

/-- A constructor. -/
def constructing (parameters : List Ty) (script : Script) : Declaration :=
  { name := Declaration.constructorName, kind := .constructor, parameters
    body := .native script }

/-- A method. -/
def method (name : String) (parameters : List Ty) (type : Ty) (script : Script) : Declaration :=
  { name, kind := .method, parameters, type, body := .native script }

/-- A static method. -/
def staticMethod (name : String) (parameters : List Ty) (type : Ty) (script : Script) :
    Declaration :=
  { method name parameters type script with isStatic := true }

/-- A field. -/
def field (name : String) (type : Ty) : Declaration :=
  { name, kind := .field, type }

/-- A property. -/
def property (name : String) (type : Ty) (getter setter : Option Script) : Declaration :=
  { name, kind := .property, type, body := .property getter setter }

/-- A text argument, the empty text when it is null. -/
def textArgument (position : Nat) : Script :=
  .ifNull (.argument position) (.text "") (.argument position)

/-- Arithmetic and its faults. -/
def calculator : Definition :=
  { name := "Calculator"
    kind := .classType
    declarations :=
      [constructing [] .unit,
       method "Add" [.i32, .i32] .i32
         (.add "arithmetic operation overflowed" (.argument 0) (.argument 1)),
       method "Add" [.str, .str] .str (.concat [textArgument 0, textArgument 1]),
       method "Divide" [.i32, .i32] .i32 (.divide (.argument 0) (.argument 1))] }

/-- The place of `Box` in the registry. -/
def boxId : DefinitionId := ⟨1⟩

/-- The place of `List` in the registry. -/
def listId : DefinitionId := ⟨2⟩

/-- The place of `Util` in the registry. -/
def utilId : DefinitionId := ⟨4⟩

/-- The first parameter of a definition. -/
def element (id : DefinitionId) : Ty :=
  .parameter ⟨.definition id, 0⟩

/-- A value in a box. -/
def box : Definition :=
  { name := "Box"
    kind := .classType
    generics := ["T"]
    declarations :=
      [constructing [element boxId] (.setSlot "value" (.argument 0)),
       { field "value" (element boxId) with visibility := .privateAccess },
       property "Value" (element boxId) (some (.getSlot "value"))
         (some (.setSlot "value" (.argument 0)))] }

/-- Count one more in a slot. -/
def increment (slot : String) : Script :=
  .setSlot slot (.add "arithmetic operation overflowed" (.getSlot slot) (.int 1))

/-- A list that keeps the number of its elements. -/
def list : Definition :=
  { name := "List"
    kind := .classType
    generics := ["T"]
    declarations :=
      [constructing [] .unit,
       field "count" .i32,
       method "Add" [element listId] .unit (increment "count"),
       property "Count" .i32 (some (.getSlot "count")) none] }

/-- A list of integers. -/
def intList : Definition :=
  { name := "IntList"
    kind := .classType
    base := some (.named listId [.i32])
    declarations := [constructing [] .unit] }

/-- Static methods, one of them generic. -/
def util : Definition :=
  let own : Ty := .parameter ⟨.member ⟨utilId, 0⟩, 0⟩
  { name := "Util"
    kind := .classType
    declarations :=
      [{ staticMethod "Identity" [own] own (.argument 0) with generics := ["T"] },
       staticMethod "Describe" [.object] .str
         (.concat [.display (.argument 0), .text ": ", .typeName (.argument 0)]),
       staticMethod "Repeat" [.str, .i32] .str (.repeatText (.argument 0) (.argument 1))] }

/-- A counter with an event. -/
def counter : Definition :=
  { name := "Counter"
    kind := .classType
    declarations :=
      [constructing [] .unit, field "count" .i32] ++ Declaration.event "Changed" ++
      [method "Increment" [] .i32 (.sequence [increment "count", .getSlot "count"])] }

/-- The registry of the sample. -/
def registry : Registry :=
  .ofDefinitions [calculator, box, list, intList, util, counter]

end LateBinding.Probe.Sample
