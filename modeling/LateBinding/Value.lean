import LateBinding.Member

/-!
# Values

A value is a literal, a reference to an object or a delegate. An object reference carries the
object's type, which never changes, so the type of a value is known without looking at the
store. A delegate is the list of its handlers, in the order of their subscription; it is
never changed, only replaced.

A handler is a method and, for an instance method, the value it is bound to. Two handlers are
the same when they bind the same member with the same arguments for its own parameters to the
same value.
-/
namespace LateBinding

/-- A reference to an object: its address in the store and its type. -/
structure ObjectRef where
  address : Nat
  type : Ty
deriving DecidableEq, Repr

mutual

/-- What members take and give. -/
inductive Value
  | literal (literal : Literal)
  | object (ref : ObjectRef)
  | delegate (handlers : List Handler)

/-- A subscribed method with the value it is bound to. -/
inductive Handler
  | mk (target : Option Value) (method : Member)

end

namespace Handler

/-- The value the method is bound to. -/
def target : Handler → Option Value
  | .mk target _ => target

/-- The method. -/
def method : Handler → Member
  | .mk _ method => method

end Handler

namespace Value

abbrev null : Value := .literal .null
abbrev unit : Value := .literal .unit

/-- A text value. -/
def text (content : String) : Value := .literal (.str content)

/-- An integer value. -/
def int (n : Int32) : Value := .literal (.i32 n)

instance : Inhabited Value := ⟨null⟩

/-- Whether the value is null. -/
def isNull : Value → Bool
  | .literal .null => true
  | _ => false

/-- The type of a value; null has none. -/
def type? : Value → Option Ty
  | .literal content => content.type?
  | .object ref => some ref.type
  | .delegate _ => some .delegate

/-- The object behind a value. -/
def object? : Value → Option ObjectRef
  | .object ref => some ref
  | _ => none

/-- The integer behind a value. -/
def int? : Value → Option Int32
  | .literal (.i32 n) => some n
  | _ => none

/-- The text behind a value. -/
def text? : Value → Option String
  | .literal (.str content) => some content
  | _ => none

mutual

/-- Equality as a program sees it: literals by content, objects by identity, delegates by
their handlers. -/
def same : Value → Value → Bool
  | .literal left, .literal right => left.same right
  | .object left, .object right => left.address = right.address
  | .delegate left, .delegate right => sameHandlers left right
  | _, _ => false

/-- Whether two handlers bind the same method to the same value. -/
def sameHandler : Handler → Handler → Bool
  | .mk leftTarget leftMethod, .mk rightTarget rightMethod =>
    leftMethod.id = rightMethod.id && leftMethod.methodArguments = rightMethod.methodArguments &&
      sameTarget leftTarget rightTarget

/-- Whether two handler lists agree place by place. -/
def sameHandlers : List Handler → List Handler → Bool
  | [], [] => true
  | left :: leftRest, right :: rightRest =>
    sameHandler left right && sameHandlers leftRest rightRest
  | _, _ => false

/-- Whether two handlers are bound to the same value, or both to none. -/
def sameTarget : Option Value → Option Value → Bool
  | none, none => true
  | some left, some right => same left right
  | _, _ => false

end

end Value

/-- The types of arguments, none for null. -/
def argumentTypes (arguments : List Value) : List (Option Ty) :=
  arguments.map Value.type?

/-- Handlers in the order of their subscription; a delegate value has at least one. -/
abbrev Delegate := List Handler

namespace Delegate

/-- The delegate with one more handler at the end. -/
def combine (existing : Option Delegate) (handler : Handler) : Delegate :=
  existing.getD [] ++ [handler]

/-- Delete the first handler that is the same as the given one. -/
def deleteFirst (handler : Handler) : Delegate → Delegate
  | [] => []
  | first :: rest =>
    if Value.sameHandler first handler then rest else first :: deleteFirst handler rest

/-- Delete the last handler that is the same as the given one. -/
def deleteLast (delegate : Delegate) (handler : Handler) : Delegate :=
  (deleteFirst handler delegate.reverse).reverse

/-- The delegate without the last handler that is the same as the given one; none when no
handler is left. -/
def remove (delegate : Delegate) (handler : Handler) : Option Delegate :=
  match delegate.deleteLast handler with
  | [] => none
  | remaining => some remaining

/-- A delegate as a value, null when there is none. -/
def toValue : Option Delegate → Value
  | some delegate => .delegate delegate
  | none => .null

end Delegate

end LateBinding
