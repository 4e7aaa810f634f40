/-!
# Maps that remember when a key came in

Slots of an object, bindings of an inference and the static fields of a program are all
tables whose order an answer can show. An `OrderedMap` is a list of entries: writing to a
key that is present replaces its value where it stands, and writing to a new key appends.
The laws below say what a look-up sees after a write; the order itself is read off
`keys_insert_of_mem` and `keys_insert_of_not_mem`.
-/
namespace LateBinding

universe u v

/-- A table with its entries in the order in which their keys were first written. -/
structure OrderedMap (κ : Type u) (ν : Type v) where
  entries : List (κ × ν) := []
deriving DecidableEq, Repr

namespace OrderedMap

variable {κ : Type u} {ν : Type v} [DecidableEq κ]

/-- The table without entries. -/
def empty : OrderedMap κ ν := ⟨[]⟩

instance : Inhabited (OrderedMap κ ν) := ⟨empty⟩

/-- The value found first under `key` in a list of entries. -/
def find? (key : κ) : List (κ × ν) → Option ν
  | [] => none
  | (other, value) :: rest => if other = key then some value else find? key rest

/-- Write in place when the key is present, else at the end. -/
def put (key : κ) (value : ν) : List (κ × ν) → List (κ × ν)
  | [] => [(key, value)]
  | (other, old) :: rest =>
    if other = key then (other, value) :: rest else (other, old) :: put key value rest

/-- The value under `key`. -/
def get? (map : OrderedMap κ ν) (key : κ) : Option ν :=
  find? key map.entries

/-- The table after `value` was written to `key`. -/
def insert (map : OrderedMap κ ν) (key : κ) (value : ν) : OrderedMap κ ν :=
  ⟨put key value map.entries⟩

/-- Write the pairs one after the other; of two pairs with one key the later wins. -/
def ofList (pairs : List (κ × ν)) : OrderedMap κ ν :=
  pairs.foldl (fun map pair => map.insert pair.1 pair.2) empty

/-- The keys in the order of their first writing. -/
def keys (map : OrderedMap κ ν) : List κ :=
  map.entries.map Prod.fst

/-- The number of entries. -/
def size (map : OrderedMap κ ν) : Nat :=
  map.entries.length

/-- Whether the table has no entry. -/
def isEmpty (map : OrderedMap κ ν) : Bool :=
  map.entries.isEmpty

/-- A search for a key that was written finds what was written. An entry that was there before is
overwritten in place, so no older one stands in front of it. -/
theorem find?_put_self (key : κ) (value : ν) (entries : List (κ × ν)) :
    find? key (put key value entries) = some value := by
  induction entries with
  | nil => simp [put, find?]
  | cons entry rest inductionHypothesis =>
    obtain ⟨other, old⟩ := entry
    by_cases same : other = key <;> simp [put, find?, same, inductionHypothesis]

/-- A search for another key passes over the entry that was written. -/
theorem find?_put_of_ne {key asked : κ} (distinct : key ≠ asked) (value : ν)
    (entries : List (κ × ν)) : find? asked (put key value entries) = find? asked entries := by
  induction entries with
  | nil => simp [put, find?, distinct]
  | cons entry rest inductionHypothesis =>
    obtain ⟨other, old⟩ := entry
    by_cases same : other = key
    · subst same
      simp [put, find?, distinct]
    · by_cases found : other = asked
      · subst found
        simp [put, find?, same]
      · simp [put, find?, same, found, inductionHypothesis]

/-- A key reads back what was written to it last. -/
@[simp] theorem get?_insert_self (map : OrderedMap κ ν) (key : κ) (value : ν) :
    (map.insert key value).get? key = some value :=
  find?_put_self key value map.entries

/-- Writing to one key leaves every other key alone. -/
theorem get?_insert_of_ne (map : OrderedMap κ ν) {key asked : κ} (distinct : key ≠ asked)
    (value : ν) : (map.insert key value).get? asked = map.get? asked :=
  find?_put_of_ne distinct value map.entries

/-- Nothing is found in the empty table. -/
@[simp] theorem get?_empty (key : κ) : (empty : OrderedMap κ ν).get? key = none := rfl

/-- A key that is present keeps its place. -/
theorem keys_insert_of_mem (map : OrderedMap κ ν) {key : κ} (present : key ∈ map.keys)
    (value : ν) : (map.insert key value).keys = map.keys := by
  obtain ⟨entries⟩ := map
  simp only [keys, insert] at present ⊢
  induction entries with
  | nil => simp at present
  | cons entry rest inductionHypothesis =>
    obtain ⟨other, old⟩ := entry
    by_cases same : other = key
    · simp [put, same]
    · have later : key ∈ rest.map Prod.fst := by
        simpa [Ne.symm same] using present
      simp only [put, same, if_false, List.map_cons]
      exact congrArg _ (inductionHypothesis later)

/-- A new key goes to the end. -/
theorem keys_insert_of_not_mem (map : OrderedMap κ ν) {key : κ} (absent : key ∉ map.keys)
    (value : ν) : (map.insert key value).keys = map.keys ++ [key] := by
  obtain ⟨entries⟩ := map
  simp only [keys, insert] at absent ⊢
  induction entries with
  | nil => simp [put]
  | cons entry rest inductionHypothesis =>
    obtain ⟨other, old⟩ := entry
    have apart : other ≠ key := fun same => absent (by simp [same])
    have later : key ∉ rest.map Prod.fst := fun inside => absent (by simp [inside])
    simp only [put, apart, if_false, List.map_cons, List.cons_append]
    exact congrArg _ (inductionHypothesis later)

end OrderedMap

end LateBinding
