import PathStore.Proofs.Session.Refusals

/-!
# Errors change nothing

A step that tells an error leaves a session that cannot be told from the one before: every store and
every buffer contains the same, the same claims are held, and each variable names the same object,
arrays with their storage and layout included. If the step was to lend something, its body was not
run. Storing several values at once is no exception, as either all of them are stored or none.
-/

namespace PathStore

namespace Handle

variable (handle : Handle) (world : World)

/-- Values are stored all together, or the store is being used. -/
theorem updateMany_all_or_none (values : List (String × Value)) :
    (∃ left, handle.updateMany values world = .ok () left ∧
        left.entries handle.store = handle.afterUpdates (world.entries handle.store) values) ∨
      handle.updateMany values world = .error .busy world := by
  cases values with
  | nil => exact .inl ⟨world, rfl, rfl⟩
  | cons item rest =>
      by_cases admits : world.admits ⟨.store handle.store, .writing⟩
      · obtain ⟨left, ran, -, all⟩ := handle.updateMany_admitted (item :: rest) admits
        exact .inl ⟨left, ran, all⟩
      · have first : handle.update item.1 item.2 world = .error .busy world :=
          (StoreId.writing_pure _ _ world).trans (if_neg admits)
        exact .inr (bind_of_error first)

/-- Defaults are stored all together, or the store is being used. -/
theorem insertDefaultMany_all_or_none (values : List (String × Value)) :
    (∃ stored left, handle.insertDefaultMany values world = .ok stored left ∧
        left.entries handle.store = handle.afterDefaults (world.entries handle.store) values) ∨
      handle.insertDefaultMany values world = .error .busy world := by
  cases values with
  | nil => exact .inl ⟨0, world, rfl, rfl⟩
  | cons item rest =>
      by_cases admits : world.admits ⟨.store handle.store, .writing⟩
      · obtain ⟨stored, left, ran, -, all⟩ :=
          handle.insertDefaultMany_admitted (item :: rest) admits
        exact .inl ⟨stored, left, ran, all⟩
      · have first : handle.insertDefault item.1 item.2 world = .error .busy world :=
          (StoreId.writing_apply _ _ world).trans (if_neg admits)
        exact .inr (bind_of_error first)

end Handle

namespace Step

variable {step : Step} {session left : Session} {cause : Error}

/-- After an error nothing can be told from before. -/
theorem alike_of_error (failed : step.task session = .error (.error cause) left) :
    session.Alike left := by
  have conduct := step.conduct_task session
  unfold Conduct at conduct
  rw [failed] at conduct
  cases conduct with
  | refused refuses conflict alike => exact alike
  | failed free admitted alike => exact alike
  | silent silent admitted follows => exact silent.elim

/-- A step that tells an error leaves a session that cannot be told from the one before, and what it
was to lend was not lent to its body; several values are stored all together or not at all. -/
theorem unchanged_of_error :
    (∀ (step : Step) (session left : Session) (cause : Error),
      step.task session = .error (.error cause) left →
        session.Alike left ∧
          ∀ access body inner, step = .lend access body → ¬ access.Lends session inner) ∧
      (∀ (handle : Handle) (values : List (String × Value)) (world : World),
        (∃ left, handle.updateMany values world = .ok () left ∧
            left.entries handle.store = handle.afterUpdates (world.entries handle.store) values) ∨
          handle.updateMany values world = .error .busy world) ∧
      ∀ (handle : Handle) (values : List (String × Value)) (world : World),
        (∃ stored left, handle.insertDefaultMany values world = .ok stored left ∧
            left.entries handle.store = handle.afterDefaults (world.entries handle.store) values) ∨
          handle.insertDefaultMany values world = .error .busy world := by
  refine ⟨fun step session left cause failed => ⟨alike_of_error failed, ?_⟩,
    fun handle values world => handle.updateMany_all_or_none world values,
    fun handle values world => handle.insertDefaultMany_all_or_none world values⟩
  rintro access body inner rfl
  exact (Access.not_lends_of_error failed).2 inner

/-- A session with a block that borrows the memory of a buffer, and an older name of the buffer. -/
def borrowing : Session :=
  (runAll
    [.act (.buffer (.create .bool [.bool true])) (some "buffer"),
      .act (.array (.bufferBlock "buffer" [1] none .borrowed)) (some "block"),
      .act (.buffer (.copy "buffer")) (some "other")] default).2

/-- A block that borrows its memory stays what it was when it is asked to release that, and a value is
not lent under a type that it does not have. -/
theorem unchanged_of_error_release :
    (∃ left, task (.act (.block (.variable "block") .release) none) borrowing =
        .error (.error (.invalidState .releaseBorrowed)) left ∧ borrowing.Alike left) ∧
      ∃ cause, task (.lend (.readStored "map" "key" ⟨.view, .bool⟩) [storing]) keyStored =
          .error (.error cause) keyStored ∧
        ∀ inner, ¬ Access.Lends (.readStored "map" "key" ⟨.view, .bool⟩) keyStored inner := by
  have released : task (.act (.block (.variable "block") .release) none) borrowing =
      .error (.error (.invalidState .releaseBorrowed)) ⟨borrowing.world, _⟩ := rfl
  have mismatched : task (.lend (.readStored "map" "key" ⟨.view, .bool⟩) [storing]) keyStored =
      .error (.error (.typeMismatch ⟨.view, .bool⟩ (some ⟨.scalar, .bool⟩))) keyStored := rfl
  exact ⟨⟨_, released, (unchanged_of_error.1 _ _ _ _ released).1⟩,
    ⟨_, mismatched, fun inner => (unchanged_of_error.1 _ _ _ _ mismatched).2 _ _ inner rfl⟩⟩

end Step

end PathStore
