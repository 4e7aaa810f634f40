import LateBinding.Number.Binary64
import LateBinding.OrderedMap

/-!
# TOML values

A document is a table, and a table gives values to keys. What may still be added to a table
depends on how it came to be, so a table remembers its origin:

| Origin | by a header | by a dotted key |
|---|---|---|
| its header, or the document | no second header | no |
| the header of a table inside it | its own header, once | only inside tables inside it |
| a dotted key | no header of its own | yes |
| braces | nothing | nothing |

An array that was built by repeated headers is told apart from one that was written in
brackets, because only the former can grow.
-/
namespace LateBinding.Toml

/-- How a table came to be. -/
inductive TableOrigin
  | header
  | innerHeader
  | dottedKey
  | braces
deriving DecidableEq, Repr

/-- A value of a document. -/
inductive Value
  | text (content : String)
  | integer (n : Int)
  | float (x : Binary64)
  | boolean (b : Bool)
  /-- A date or time as it is written. -/
  | dateTime (written : String)
  | array (items : List Value)
  | table (origin : TableOrigin) (entries : OrderedMap String Value)
  /-- The tables of a repeated header, at least one. -/
  | tables (elements : List (OrderedMap String Value))
deriving Repr

/-- The values of a table by their keys. -/
abbrev Table := OrderedMap String Value

/-- A value at the end of a key, which may be dotted. -/
structure Pair where
  key : List String
  value : Value

/-- A header with the pairs below it. -/
structure Section where
  path : List String
  /-- Whether the header adds a table to an array. -/
  isRepeated : Bool
  pairs : List Pair

namespace Table

/-- A change of a table that may be refused. -/
abbrev Change := TableOrigin → Table → Option Table

/-- Follow a path and change the table at its end. Tables that are not there are made with
the given origin, and the last table of an array stands for the array. -/
def changeAt (made : TableOrigin) (change : Change) : List String → Change
  | [], origin, entries => change origin entries
  | key :: rest, _, entries => match entries.get? key with
    | none => do
      let child ← changeAt made change rest made .empty
      pure (entries.insert key (.table made child))
    | some (.table origin child) =>
      if origin = .braces ∨ (made = .dottedKey ∧ origin = .header) then none
      else do
        let changed ← changeAt made change rest origin child
        pure (entries.insert key (.table origin changed))
    | some (.tables elements) => do
      let last ← elements.getLast?
      let changed ← changeAt made change rest .header last
      pure (entries.insert key (.tables (elements.dropLast ++ [changed])))
    | some _ => none

/-- Give a key a value that has none yet. A dotted key ends in a table that dotted keys made. -/
def insertNew (isDotted : Bool) (key : String) (value : Value) : Change :=
  fun origin entries =>
    if isDotted ≠ (origin = .dottedKey) ∨ (entries.get? key).isSome then none
    else some (entries.insert key value)

/-- Add a pair to a table. -/
def addPair (origin : TableOrigin) (entries : Table) (pair : Pair) : Option Table := do
  let key ← pair.key.getLast?
  let path := pair.key.dropLast
  changeAt .dottedKey (insertNew (!path.isEmpty) key pair.value) path origin entries

/-- Add pairs in order to a table of the given origin. -/
def addPairs (origin : TableOrigin) (entries : Table) (pairs : List Pair) : Option Table :=
  pairs.foldlM (addPair origin) entries

/-- Add the table of a section under a key. -/
def addTable (key : String) (pairs : List Pair) : Change := fun _ entries => do
  let start ← match entries.get? key with
    | none => some .empty
    | some (.table .innerHeader inner) => some inner
    | some _ => none
  let table ← addPairs .header start pairs
  pure (entries.insert key (.table .header table))

/-- Add the table of a section to the array under a key. -/
def addElement (key : String) (pairs : List Pair) : Change := fun _ entries => do
  let elements ← match entries.get? key with
    | none => some []
    | some (.tables elements) => some elements
    | some _ => none
  let table ← addPairs .header .empty pairs
  pure (entries.insert key (.tables (elements ++ [table])))

/-- Add a section to a document. -/
def addSection (document : Table) (newSection : Section) : Option Table := do
  let key ← newSection.path.getLast?
  let add := if newSection.isRepeated then addElement else addTable
  changeAt .innerHeader (add key newSection.pairs) newSection.path.dropLast .header document

/-- The document of the pairs before the first header and the sections after. -/
def ofSections (pairs : List Pair) (sections : List Section) : Option Table := do
  let start ← addPairs .header .empty pairs
  sections.foldlM addSection start

end Table

end LateBinding.Toml
