import LateBinding.Registry.Naming
import LateBinding.Text.Alphanumeric
import LateBinding.Text.Characters

/-!
# Reading type names

A type is written as `Registry.typeName` displays it:

```text
type := name ('<' type (',' type)* '>')?
```

A name is a run of letters, digits and underscores, as long as possible; blanks may stand
around it and around every mark. `Pair<str, Box<f64>>` is an instantiation, and a generic
definition without arguments, such as `Box`, is its open type.

A name is looked up as soon as its type has been read to the end. Of several faults the one
met first is reported, so an unknown argument goes before a mark missing after it.
-/
namespace LateBinding

/-- Why a text is no type name. -/
inductive TypeNameError
  /-- No definition has the name. -/
  | unknown (name : String)
  /-- The name takes another number of arguments. -/
  | argumentCount (name : String) (expected found : Nat)
  /-- The text cannot go on as it does. The offset counts the bytes before the character that
  does not fit. -/
  | malformed (input : String) (offset : Nat)
deriving DecidableEq, Repr

/-- The text of an error in a type name. -/
def TypeNameError.message : TypeNameError → String
  | .unknown name => "unknown type '" ++ name ++ "'"
  | .argumentCount name expected found =>
    "type '" ++ name ++ "' expects " ++ toString expected ++ " type argument(s), got " ++
      toString found
  | .malformed input offset =>
    "malformed type name '" ++ input ++ "' at offset " ++ toString offset

namespace TypeName

/-- Whether a character may stand in a name. -/
def isNameCharacter (c : Char) : Bool :=
  Text.isAlphanumeric c || c == '_'

/-- The number of bytes that encode a text. -/
def byteSize (text : List Char) : Nat :=
  text.foldr (fun c total => c.utf8Size + total) 0

/-- A text that cannot go on with what is left of it. -/
def malformedAt (input : String) (rest : List Char) : TypeNameError :=
  .malformed input (byteSize input.toList - byteSize rest)

/-- The type of a built-in name. Delegates have no name to be written by. -/
def builtin? (name : String) : Option Ty :=
  if name = "object" then some .object
  else (Primitive.all.find? fun primitive => primitive.name = name).map .primitive

/-- The type that a name with arguments stands for. -/
def denote (registry : Registry) (name : String) (arguments : List Ty) :
    Except TypeNameError Ty :=
  match builtin? name with
  | some type =>
    if arguments.isEmpty then .ok type else .error (.argumentCount name 0 arguments.length)
  | none => match registry.find? name with
    | none => .error (.unknown name)
    | some id =>
      let expected := (registry.parameters id).length
      if arguments.isEmpty then .ok (registry.openType id)
      else if arguments.length = expected then .ok (.named id arguments)
      else .error (.argumentCount name expected arguments.length)

mutual

/-- Read a type at the start of a text and answer with what is left of the text. The steps
bound the depth of the recursion; one more than the characters of the text are enough. -/
def readType (registry : Registry) (input : String) :
    (steps : Nat) → List Char → Except TypeNameError (Ty × List Char)
  | 0, text => .error (malformedAt input text)
  | steps + 1, text =>
    let start := Text.skipBlanks text
    match start.takeWhile isNameCharacter, start.dropWhile isNameCharacter with
    | [], _ => .error (malformedAt input start)
    | name, afterName => do
      let (arguments, rest) ← match Text.skipBlanks afterName with
        | '<' :: rest => readList registry input steps rest
        | rest => pure ([], rest)
      let type ← denote registry (String.ofList name) arguments
      pure (type, rest)

/-- Read types separated by commas, up to the closing angle bracket. -/
def readList (registry : Registry) (input : String) :
    (steps : Nat) → List Char → Except TypeNameError (List Ty × List Char)
  | 0, text => .error (malformedAt input text)
  | steps + 1, text => do
    let (first, afterFirst) ← readType registry input steps text
    match Text.skipBlanks afterFirst with
    | ',' :: rest =>
      let (others, final) ← readList registry input steps rest
      pure (first :: others, final)
    | '>' :: rest => pure ([first], rest)
    | rest => .error (malformedAt input rest)

end

/-- Read a text that is a type name and nothing else. -/
def read (registry : Registry) (input : String) : Except TypeNameError Ty := do
  let text := input.toList
  let (type, afterType) ← readType registry input (text.length + 1) text
  match Text.skipBlanks afterType with
  | [] => pure type
  | rest => .error (malformedAt input rest)

end TypeName

end LateBinding
