import LateBinding.Number.Shortest
import LateBinding.Text.Quoted
import LateBinding.Ty

/-!
# Literals

The values that can be written down: null, the unit value, and the values of the primitive
types. They are the constants of a member's body and the arguments of a command line. Each
has a type, null excepted, and a text that shows it in full.
-/
namespace LateBinding

/-- A value that needs no heap. -/
inductive Literal
  | null
  | unit
  | bool (b : Bool)
  | i32 (n : Int32)
  | i64 (n : Int64)
  | f64 (x : Binary64)
  | char (c : Char)
  | str (text : String)
deriving DecidableEq, Repr

namespace Literal

instance : Inhabited Literal := ⟨.null⟩

/-- The type of a literal; null has none. -/
def type? : Literal → Option Ty
  | .null => none
  | .unit => some .unit
  | .bool _ => some .bool
  | .i32 _ => some .i32
  | .i64 _ => some .i64
  | .f64 _ => some .f64
  | .char _ => some .char
  | .str _ => some .str

/-- Equality as a program sees it: numeric for floating-point numbers, by content otherwise. -/
def same : Literal → Literal → Bool
  | .f64 x, .f64 y => x.numericallyEqual y
  | left, right => left == right

/-- The text that shows a literal. -/
def text : Literal → String
  | .null => "null"
  | .unit => "()"
  | .bool b => if b then "true" else "false"
  | .i32 n => toString n.toInt
  | .i64 n => toString n.toInt ++ "i64"
  | .f64 x => x.text
  | .char c => Text.quotedCharacter c
  | .str text => Text.quoted text

/-- The text as it joins other text: strings stand without quotes. -/
def plainText : Literal → String
  | .str text => text
  | other => other.text

/-- The literal that a new field of a primitive type holds. Text starts as null. -/
def default : Primitive → Literal
  | .bool => .bool false
  | .i32 => .i32 0
  | .i64 => .i64 0
  | .f64 => .f64 (.zero false)
  | .char => .char '\x00'
  | .unit => .unit
  | .str => .null

/-- An integer as a literal of 32 bits, when it fits. -/
def ofInt32? (n : Int) : Option Literal :=
  if Int32.minValue.toInt ≤ n ∧ n ≤ Int32.maxValue.toInt then some (.i32 (Int32.ofInt n)) else none

/-- An integer as a literal of 64 bits, when it fits. -/
def ofInt64? (n : Int) : Option Literal :=
  if Int64.minValue.toInt ≤ n ∧ n ≤ Int64.maxValue.toInt then some (.i64 (Int64.ofInt n)) else none

end Literal

end LateBinding
