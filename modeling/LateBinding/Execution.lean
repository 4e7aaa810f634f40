import LateBinding.Activation

/-!
# Executions

Running a member reads and changes the store and ends with a value or an error; what was done
before an error stays done. A body may call back without end, so an execution may also run
out of depth. That is neither a value nor an error, and leaves no store to speak of.

The course of an execution has its actions in order beside the outcome. Nothing reads them while
it goes on; they are there to be spoken of, and an execution that runs out of depth has them
too.
-/
namespace LateBinding

/-- What an execution does and how it ends: with none when it runs out of depth. -/
structure Course (ε α : Type) where
  actions : List Action := []
  outcome : Option (Except ε α × Store)

/-- A computation over the store. -/
def Execution (ε α : Type) : Type :=
  Store → Course ε α

namespace Execution

variable {ε δ α β : Type}

/-- The outcome of running from a store. -/
def run (execution : Execution ε α) (store : Store) : Option (Except ε α × Store) :=
  (execution store).outcome

/-- What is done in running from a store. -/
def actions (execution : Execution ε α) (store : Store) : List Action :=
  (execution store).actions

/-- End at once with a verdict. -/
def ofExcept (verdict : Except ε α) : Execution ε α :=
  fun store => { outcome := some (verdict, store) }

/-- End at once with an error. -/
def fail (error : ε) : Execution ε α :=
  ofExcept (.error error)

/-- Run out of depth. -/
def exhausted : Execution ε α :=
  fun _ => { outcome := none }

/-- Go on with the value of a first execution; its error ends the whole. -/
def andThen (first : Execution ε α) (next : α → Execution ε β) : Execution ε β :=
  fun store =>
    let begun := first store
    match begun.outcome with
    | none => { begun with outcome := none }
    | some (.error error, after) => { begun with outcome := some (.error error, after) }
    | some (.ok value, after) =>
      let rest := next value after
      { actions := begun.actions ++ rest.actions, outcome := rest.outcome }

instance : Monad (Execution ε) where
  pure value := ofExcept (.ok value)
  bind := andThen

/-- Look at the store. -/
def look (view : Store → α) : Execution ε α :=
  fun store => { outcome := some (.ok (view store), store) }

/-- Change the store. -/
def update (change : Store → Store) : Execution ε Unit :=
  fun store => { outcome := some (.ok (), change store) }

/-- Make an object. -/
def allocate (type : Ty) (slots : Slots) : Execution ε ObjectRef :=
  fun store =>
    let (ref, after) := store.allocate type slots
    { actions := [.made ref], outcome := some (.ok ref, after) }

/-- Start a body. -/
def enter (activation : Activation) : Execution ε Unit :=
  fun store => { actions := [.entered activation], outcome := some (.ok (), store) }

/-- Replace the error of an execution that fails. -/
def mapError (change : ε → δ) (execution : Execution ε α) : Execution δ α :=
  fun store =>
    let course := execution store
    { course with
      outcome := course.outcome.map fun (verdict, after) => (verdict.mapError change, after) }

/-- Take the verdict as a value, so that what follows goes on after an error too. -/
def attempt (execution : Execution ε α) : Execution δ (Except ε α) :=
  fun store =>
    let course := execution store
    { course with outcome := course.outcome.map fun (verdict, after) => (.ok verdict, after) }

/-- A value alone neither looks at the store nor changes it. -/
@[simp] theorem run_pure (value : α) (store : Store) :
    (pure value : Execution ε α).run store = some (.ok value, store) := rfl

/-- A verdict alone ends the execution with the store as it was. -/
@[simp] theorem run_ofExcept (verdict : Except ε α) (store : Store) :
    (ofExcept verdict).run store = some (verdict, store) := rfl

/-- Looking at the store answers from the store it is run with, and leaves it. -/
@[simp] theorem run_look (view : Store → α) (store : Store) :
    (look view : Execution ε α).run store = some (.ok (view store), store) := rfl

/-- A change is made to the store, and cannot fail. -/
@[simp] theorem run_update (change : Store → Store) (store : Store) :
    (update change : Execution ε Unit).run store = some (.ok (), change store) := rfl

/-- Another error does not undo what was done before it: the store is kept with the new error. -/
theorem run_mapError (change : ε → δ) (execution : Execution ε α) (store : Store) :
    (execution.mapError change).run store =
      (execution.run store).map fun (verdict, after) => (verdict.mapError change, after) := rfl

/-- The rest is run with the store that the first part left, and not at all when the first part
fails or runs out of depth. -/
theorem run_bind (first : Execution ε α) (next : α → Execution ε β) (store : Store) :
    (first >>= next).run store = match first.run store with
      | none => none
      | some (.error error, after) => some (.error error, after)
      | some (.ok value, after) => (next value).run after := by
  show (andThen first next store).outcome = _
  unfold andThen run
  rcases first store with ⟨actions, _ | ⟨_ | _, _⟩⟩ <;> rfl

/-- What is made of a value afterwards changes neither the store nor an error. -/
theorem run_map (change : α → β) (execution : Execution ε α) (store : Store) :
    (change <$> execution).run store =
      (execution.run store).map fun (verdict, after) => (verdict.map change, after) := by
  show (execution >>= fun value => pure (change value)).run store = _
  rw [run_bind]
  rcases execution.run store with _ | ⟨_ | _, _⟩ <;> rfl

/-- A verdict alone does nothing. -/
@[simp] theorem actions_ofExcept (verdict : Except ε α) (store : Store) :
    (ofExcept verdict).actions store = [] := rfl

/-- What is done is the same under another error. -/
@[simp] theorem actions_mapError (change : ε → δ) (execution : Execution ε α) (store : Store) :
    (execution.mapError change).actions store = execution.actions store := rfl

/-- What a chain does is what its first part does, and what the rest does where it is reached. -/
theorem actions_bind (first : Execution ε α) (next : α → Execution ε β) (store : Store) :
    (first >>= next).actions store = first.actions store ++ match first.run store with
      | some (.ok value, after) => (next value).actions after
      | _ => [] := by
  show (andThen first next store).actions = _
  unfold andThen actions run
  rcases first store with ⟨actions, _ | ⟨_ | _, _⟩⟩ <;> simp

/-- A check that has passed can be left out. -/
theorem ofExcept_ok_bind (value : α) (next : α → Execution ε β) :
    ofExcept (.ok value) >>= next = next value := rfl

/-- A check that fails ends the whole before the rest is begun. -/
theorem ofExcept_error_bind (error : ε) (next : α → Execution ε β) :
    ofExcept (.error error) >>= next = fail error := rfl

/-- Handing a value on as it is changes nothing. -/
theorem id_map (execution : Execution ε α) : id <$> execution = execution := by
  funext store
  show andThen execution (fun value => ofExcept (.ok value)) store = execution store
  unfold andThen
  rcases execution store with ⟨actions, _ | ⟨_ | _, _⟩⟩ <;> simp [ofExcept]

/-- Chains may be grouped in any way: the actions come in the same order, and the first error ends
them all. -/
theorem bind_assoc {γ : Type} (execution : Execution ε α) (next : α → Execution ε β)
    (final : β → Execution ε γ) :
    execution >>= next >>= final = execution >>= fun value => next value >>= final := by
  funext store
  show andThen (andThen execution next) final store =
    andThen execution (fun value => andThen (next value) final) store
  unfold andThen
  rcases execution store with ⟨actions, _ | ⟨_ | value, after⟩⟩
  · rfl
  · rfl
  · dsimp only
    rcases next value after with ⟨later, _ | ⟨_ | _, _⟩⟩ <;> simp

instance : LawfulMonad (Execution ε) :=
  LawfulMonad.mk' (Execution ε) id_map (fun _ _ => rfl) bind_assoc

end Execution

end LateBinding
