import LateBinding.Literal

/-!
# Scripts

What a member does when it runs is a script: an expression over its arguments, its receiver
and the slots of that receiver, which may call back into the engine by name, construct
objects and raise events. Scripts are data, so a registry is data too. They cannot catch a
fault: whatever fails inside ends the script.

The meaning of a script is in `LateBinding.Script.Evaluation`.
-/
namespace LateBinding

/-- The body of a member. -/
inductive Script
  /-- A constant. -/
  | literal (value : Literal)
  /-- The argument at a position, null beyond the last. -/
  | argument (position : Nat)
  /-- The receiver, which has to be an object. -/
  | self
  /-- The receiver as it is, null when there is none. -/
  | target
  /-- A slot of the receiver, null when the receiver has no such slot. -/
  | getSlot (name : String)
  /-- Write a slot of the receiver. -/
  | setSlot (name : String) (value : Script)
  /-- Run one after the other and keep the last value, unit if there is none. -/
  | sequence (steps : List Script)
  /-- Fail. -/
  | fault (kind message : String)
  /-- Choose by whether a value is null. -/
  | ifNull (scrutinee whenNull otherwise : Script)
  /-- The sum of two integers, or a fault with the given text when it does not fit. -/
  | add (overflow : String) (left right : Script)
  /-- The quotient of two integers, rounded toward zero. -/
  | divide (left right : Script)
  /-- Join values as text; strings stand without quotes. -/
  | concat (parts : List Script)
  /-- The text that shows a value. -/
  | display (value : Script)
  /-- A text repeated a number of times. -/
  | repeatText (text times : Script)
  /-- The names of the arguments of the declaring type. -/
  | typeArguments
  /-- The names of the arguments of the running method. -/
  | methodArguments
  /-- The name of a value's type. -/
  | typeName (value : Script)
  /-- The path of the running member. -/
  | path
  /-- The number of arguments. -/
  | argumentCount
  /-- Call a method of a value by name. -/
  | callMethod (target : Script) (name : String) (arguments : List Script)
  /-- Call a static method of a type by name. -/
  | callStatic (type : Ty) (name : String) (arguments : List Script)
  /-- Construct an object. -/
  | construct (type : Ty) (arguments : List Script)
  /-- Raise an event of a value. -/
  | raise (target : Script) (event : String) (arguments : List Script)
deriving Repr

namespace Script

/-- The script that does nothing. -/
def unit : Script := .literal .unit

/-- A constant text. -/
def text (content : String) : Script := .literal (.str content)

/-- A constant integer. -/
def int (n : Int32) : Script := .literal (.i32 n)

instance : Inhabited Script := ⟨unit⟩

end Script

end LateBinding
