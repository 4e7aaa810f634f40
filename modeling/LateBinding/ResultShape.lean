import LateBinding.Value

/-!
# Typed results

A caller may ask for a result in a certain shape. The shape says which type the result is used
at, which takes part in resolution, and how the value that comes back is read; a value of
another shape cannot be read. Asking for any value, for an object or for nothing in
particular constrains nothing.
-/
namespace LateBinding

/-- The shape in which a result is wanted. -/
inductive ResultShape
  | value
  | unit
  | bool
  | i32
  | i64
  | f64
  | char
  | str
  | object
  /-- Null, or a result of the given shape. -/
  | optional (shape : ResultShape)
deriving DecidableEq, Repr

/-- A result that was read in some shape. -/
inductive TypedResult
  | value (value : Value)
  | unit
  | absent
  | present (result : TypedResult)

namespace ResultShape

/-- The type at which a result of the shape is used. -/
def type : ResultShape → Ty
  | .value | .unit | .object => .object
  | .bool => .bool
  | .i32 => .i32
  | .i64 => .i64
  | .f64 => .f64
  | .char => .char
  | .str => .str
  | .optional shape => shape.type

/-- The type that resolution takes into account, if the shape constrains it. -/
def expected? (shape : ResultShape) : Option Ty :=
  if shape.type.isObject then none else some shape.type

/-- Whether a value has the type of a shape that asks for a primitive or an object. -/
def holds : ResultShape → Value → Bool
  | .bool, .literal (.bool _) => true
  | .i32, .literal (.i32 _) => true
  | .i64, .literal (.i64 _) => true
  | .f64, .literal (.f64 _) => true
  | .char, .literal (.char _) => true
  | .str, .literal (.str _) => true
  | .object, .object _ => true
  | _, _ => false

/-- Read a value in a shape. -/
def read? : ResultShape → Value → Option TypedResult
  | .value, found => some (.value found)
  | .unit, _ => some .unit
  | .optional shape, found =>
    if found.isNull then some .absent else (shape.read? found).map .present
  | shape, found => if shape.holds found then some (.value found) else none

end ResultShape

end LateBinding
