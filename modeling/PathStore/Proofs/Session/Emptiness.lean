import PathStore.Proofs.Session.Emptying

/-!
# Where emptiness comes from, and how long it lasts

Of all steps only those that empty a cell they are lent make an entry hollow that is no copy. So in a
run without such steps all entries hold values, and nothing else is ever read; in any run a hollow entry
was emptied, or is a copy, of a copy, of one that was. It remains hollow until something is stored
under its key, which an entry with a value does that is grafted or merged to it, or until it is removed.
-/

namespace PathStore

/-! ## What is read where every entry holds a value -/

/-- What is told of an entry of a store in a world, when it is asked for its value, for the name of its
type, for its value as one of a type, and to lend that. -/
inductive World.Tells (world : World) (id : StoreId) (key shown : String) (any : Op Value)
    (name : Op String) (typed : ValueType → Op Value)
    (lent : ∀ {α : Type}, ValueType → (Value → Op α) → Op α) : Prop where
  /-- It holds a value, which is read and lent unless another type is asked for than is told. -/
  | value {value : Value} (held : (world.entries id).find? key = some (some value))
      (any : any world = .ok value world) (name : name world = .ok value.type.name world)
      (named : value.type.name ≠ ValueType.nameOrEmpty none)
      (typed : ∀ type, typed type world = settled (value.expect type) world)
      (lent : ∀ {α : Type} type (use : Value → Op α), lent type use world =
        if value.type = type then Op.holding ⟨.store id, .reading⟩ .busy (use value) world
        else .error (.error (.typeMismatch type (some value.type))) world)
  /-- There is no such entry. -/
  | missing (unknown : (world.entries id).find? key = none)
      (any : any world = .error (.error (.keyNotFound shown)) world)
      (name : name world = .error (.error (.keyNotFound shown)) world)
      (typed : ∀ type, typed type world = .error (.error (.keyNotFound shown)) world)
      (lent : ∀ {α : Type} type (use : Value → Op α),
        lent type use world = .error (.error (.keyNotFound shown)) world)

/-- Through whatever handle or entry, nothing is read but values. -/
structure World.ReadsValues (world : World) : Prop where
  byKey : ∀ (handle : Handle) key, world.Tells handle.store (handle.resolve key) key
    (handle.getAny key) (handle.typeName key) (handle.get key) (handle.withValue key)
  byEntry : ∀ entry : EntryRef, world.Tells entry.store entry.key entry.relativeKey
    entry.anyValue entry.typeName entry.value entry.withValue

namespace StoreId

variable {α β : Type} {id : StoreId} {world : World} {refusal : Failure}
  {decided : Entries Cell → Except Failure β} {use : β → Op α}
  (free : world.admits ⟨.store id, .reading⟩)

include free

theorem reading_of_ok {result : β} (same : decided (world.entries id) = .ok result) :
    id.reading refusal (fun entries => Op.ofExcept (decided entries) >>= use) world =
      Op.holding ⟨.store id, .reading⟩ refusal (use result) world := by
  rw [reading_apply, if_pos free, same, Op.holding, if_pos free]
  rfl

/-- What is decided by the entries of a store can be read without a change. -/
theorem reading_of_error {failure : Failure} (same : decided (world.entries id) = .error failure) :
    id.reading refusal (fun entries => Op.ofExcept (decided entries) >>= use) world =
      .error failure world := by
  rw [reading_apply, if_pos free, same]
  rfl

end StoreId

/-- No type of values is named like the emptiness of a cell. -/
theorem ValueType.name_ne_empty (type : ValueType) : type.name ≠ nameOrEmpty none := by
  obtain ⟨form, elem⟩ := type
  cases form <;> cases elem <;> decide

section Reading

variable {world : World} (full : ∀ id key, ¬ world.Hollow id key)

include full

theorem World.value_or_missing (id : StoreId) (key : String) :
    (∃ value, (world.entries id).find? key = some (some value)) ∨
      (world.entries id).find? key = none := by
  cases found : (world.entries id).find? key with
  | none => exact .inr rfl
  | some cell =>
      cases cell with
      | none => exact (full id key found).elim
      | some value => exact .inl ⟨value, rfl⟩

variable (unclaimed : world.active = [])

include unclaimed

/-- All that is told of an entry follows from how its cell is looked up. -/
theorem World.tells_of_look {id : StoreId} {key shown : String} {any : Op Value} {name : Op String}
    {typed : ValueType → Op Value} {lent : ∀ {α : Type}, ValueType → (Value → Op α) → Op α}
    (look : Entries Cell → Except Failure Cell)
    (finds : ∀ value, (world.entries id).find? key = some (some value) →
      look (world.entries id) = .ok (some value) ∧ any world = .ok value world)
    (misses : (world.entries id).find? key = none →
      look (world.entries id) = .error (.error (.keyNotFound shown)) ∧
        any world = .error (.error (.keyNotFound shown)) world)
    (names : name = id.reading .busy fun entries =>
      Op.ofExcept (look entries) >>= fun cell => pure (Cell.typeName cell))
    (types : ∀ type, typed type = lent type pure)
    (lends : ∀ {α : Type} type (use : Value → Op α), lent type use =
      id.reading .busy fun entries =>
        Op.ofExcept (look entries >>= (Cell.expect · type)) >>= use) :
    world.Tells id key shown any name typed lent := by
  have free : world.admits ⟨.store id, .reading⟩ := Handle.admits_of_unclaimed unclaimed _
  have reads {α : Type} (result : α) :
      Op.holding ⟨.store id, .reading⟩ .busy (pure result) world = .ok result world := by
    rw [Op.holding, if_pos free]
    rfl
  rcases world.value_or_missing full id key with ⟨value, held⟩ | unknown
  · obtain ⟨found, read⟩ := finds value held
    have lent {α : Type} type (use : Value → Op α) : lent type use world =
        if value.type = type then Op.holding ⟨.store id, .reading⟩ .busy (use value) world
        else .error (.error (.typeMismatch type (some value.type))) world := by
      have decided : (look (world.entries id) >>= (Cell.expect · type)) = value.expect type := by
        rw [found]
        rfl
      rw [lends]
      split
      · rename_i same
        exact StoreId.reading_of_ok free (decided.trans (if_pos same))
      · rename_i different
        exact StoreId.reading_of_error free (decided.trans (if_neg different))
    refine .value held read ?_ value.type.name_ne_empty (fun type => ?_) lent
    · rw [names, StoreId.reading_of_ok free found]
      exact reads value.type.name
    · rw [types, lent, Value.expect]
      split
      · exact reads value
      · rfl
  · obtain ⟨missing, read⟩ := misses unknown
    have lent {α : Type} type (use : Value → Op α) :
        lent type use world = .error (.error (.keyNotFound shown)) world := by
      rw [lends]
      refine StoreId.reading_of_error free ?_
      rw [missing]
      rfl
    refine .missing unknown read ?_ (fun type => ?_) lent
    · rw [names, StoreId.reading_of_error free missing]
    · rw [types, lent]

theorem Handle.tells (handle : Handle) (key : String) :
    world.Tells handle.store (handle.resolve key) key (handle.getAny key) (handle.typeName key)
      (handle.get key) (handle.withValue key) := by
  have free := Handle.admits_of_unclaimed unclaimed
  refine world.tells_of_look full unclaimed (handle.cell · key) (fun value held => ?_)
    (fun unknown => ?_) ?_ (fun _ => rfl) fun type use => ?_
  · have cell : handle.cell (world.entries handle.store) key = .ok (some value) := by
      rw [Handle.cell, held]
    refine ⟨cell, ?_⟩
    rw [getAny_eq (World.made_of_find? held), if_pos (free _), anyAt, cell]
    rfl
  · have cell : handle.cell (world.entries handle.store) key =
        .error (.error (.keyNotFound key)) := by
      rw [Handle.cell, unknown]
    refine ⟨cell, bind_of_error ?_⟩
    rw [modifyCell, StoreId.writing_apply, if_pos (free _), cell]
    rfl
  · rfl
  · exact handle.withValue_eq key type use

theorem EntryRef.tells (entry : EntryRef) :
    world.Tells entry.store entry.key entry.relativeKey entry.anyValue entry.typeName
      entry.value entry.withValue := by
  have free := Handle.admits_of_unclaimed unclaimed
  refine world.tells_of_look full unclaimed entry.cell (fun value held => ?_)
    (fun unknown => ?_) ?_ (fun _ => rfl) fun type use => ?_
  · have cell : entry.cell (world.entries entry.store) = .ok (some value) := by
      rw [EntryRef.cell, held]
    refine ⟨cell, ?_⟩
    rw [anyValue_eq (free _), cell]
    rfl
  · have cell : entry.cell (world.entries entry.store) =
        .error (.error (.keyNotFound entry.relativeKey)) := by
      rw [EntryRef.cell, unknown]
    refine ⟨cell, ?_⟩
    rw [anyValue_eq (free _), cell]
    rfl
  · rfl
  · exact entry.withValue_eq type use

theorem World.readsValues : world.ReadsValues :=
  ⟨fun handle key => handle.tells full unclaimed key, fun entry => entry.tells full unclaimed⟩

end Reading

/-! ## Emptiness -/

/-- What is known at a moment of a run of the entries that are hollow. -/
structure Emptiness (steps : List Step) (frames : List Frame) (now : Session) : Prop where
  /-- Unless a step of the run empties an entry all entries hold values, and outside of accesses
  nothing else is read. -/
  full : (¬ Step.Sometime steps default fun step moment => ∃ id key, step.Empties moment id key) →
    (∀ id key, ¬ now.world.Hollow id key) ∧ (frames = [] → now.world.ReadsValues)
  /-- What is hollow stems from an emptied entry. -/
  stems : ∀ id key, now.world.Hollow id key → Step.Stems steps default id key
  /-- What a step empties is hollow afterwards. -/
  emptied : ∀ {step : Step} {id key}, step.Empties now id key → (step.run now).2.world.Hollow id key
  /-- What a step copies from a hollow entry is hollow afterwards. -/
  copied : ∀ {step : Step} {store origin id key}, step.Copies now store origin id key →
    now.world.Hollow store origin → (∀ failure, (step.run now).1 ≠ .failed failure) →
      (step.run now).2.world.Hollow id key
  /-- Nothing else becomes hollow until a later moment. -/
  arises : ∀ {further deeper later}, Step.Passes further now deeper [] later → ∀ {id key},
    later.world.Hollow id key → now.world.Hollow id key ∨
      Step.Sometime further now fun step moment => step.Hollows moment id key
  /-- What is hollow is so at a later moment, unless it is replaced meanwhile. -/
  lasts : ∀ {further deeper later}, Step.Passes further now deeper [] later → ∀ {id key},
    now.world.Hollow id key → later.world.Hollow id key ∨
      Step.Sometime further now fun step moment => step.Replaces moment id key
  /-- When the body of an access has ended, the access itself empties or replaces entries. -/
  ended : ∀ {access body inner}, access.Lends now inner → ∀ {id key},
    ((Step.lend access body).run now).2.world.Hollow id key →
        (Step.runAll body inner).2.world.Hollow id key ∨
          (Step.lend access body).Empties now id key
  /-- What is hollow when the body of an access has ended is so when the access has, unless that
  replaces it. -/
  outlasts : ∀ {access body inner}, access.Lends now inner → ∀ {id key},
    (Step.runAll body inner).2.world.Hollow id key →
        ((Step.lend access body).run now).2.world.Hollow id key ∨
          (Step.lend access body).Replaces now id key

/-- In every run from a new session entries only become hollow by being emptied through a step that is
lent their cells, or by being copied from hollow ones; and they remain so until something is stored
under their keys, or they are removed. Without such a step no entry is ever found without a value. -/
theorem emptiness_of_passes {steps remaining : List Step} {frames : List Frame} {now : Session}
    (passes : Step.Passes steps default frames remaining now) : Emptiness steps frames now where
  full none := by
    have full id key (hollow : now.world.Hollow id key) : False :=
      none (passes.stems hollow).sometime
    refine ⟨full, fun outside => now.world.readsValues full ?_⟩
    rw [passes.active, outside]
    rfl
  stems _ _ hollow := passes.stems hollow
  emptied empties := empties.hollow
  copied copies hollow succeeds :=
    copies.hollow (passes.canonical Session.canonical_default).world hollow succeeds
  arises later _ _ hollow :=
    (later.allows (Step.staysWithin_ownBounds _ _) _).arise _ hollow
  lasts later _ _ hollow :=
    (later.allows (Step.staysWithin_ownBounds _ _) _).last _ hollow
  ended {_ body _} lends {_ _} hollow := (Step.allows_ended body lends _).arise _ hollow
  outlasts {_ body _} lends {_ _} hollow := (Step.allows_ended body lends _).last _ hollow

/-- A map with an entry whose cell has been emptied, and another map with a value under the same key. -/
def emptiedMap : List Step :=
  [.act (.map .create) (some "map"),
    .act (.map (.update "map" "key" (.scalar (.bool true)))) none,
    .lend (.writeStoredCell "map" "key" none true) [],
    .act (.map .create) (some "other"),
    .act (.map (.update "other" "key" (.scalar (.bool false)))) none]

theorem hollow_after_emptiedMap : (Session.after emptiedMap).world.Hollow ⟨0⟩ "/key" := by
  unfold World.Hollow Entries.Hollow
  decide +kernel

/-- The entry is known to stem from one that was emptied. -/
theorem emptiness_of_emptiedMap :
    Step.Passes emptiedMap default [] [] (Session.after emptiedMap) ∧
      (Session.after emptiedMap).world.Hollow ⟨0⟩ "/key" ∧
      Step.Stems emptiedMap default ⟨0⟩ "/key" := by
  have passes : Step.Passes emptiedMap default [] [] (Session.after emptiedMap) := .atEnd _ _
  have known := emptiness_of_passes passes
  exact ⟨passes, hollow_after_emptiedMap, known.stems _ _ hollow_after_emptiedMap⟩

/-- Without being overwritten by a step a hollow entry comes to hold a value, because a map with a value
under its key is merged to its own. -/
theorem hollow_filled_by_merge :
    ¬ ∀ (steps further : List Step) (id : StoreId) (key : String) (value : Value),
      (Session.after steps).world.Hollow id key →
      ((Step.runAll further (Session.after steps)).2.world.entries id).find? key =
          some (some value) →
        Step.Sometime further (Session.after steps) fun step now => step.Overwrites now id key := by
  intro overwritten
  have filled : ((Step.runAll [.act (.map (.merge "map" "other")) none]
      (Session.after emptiedMap)).2.world.entries ⟨0⟩).find? "/key" =
        some (some (.scalar (.bool false))) := by decide +kernel
  obtain ⟨frames, rest, now, next, passes, overwrites⟩ :=
    overwritten _ _ _ _ _ hollow_after_emptiedMap filled
  -- The only step is the one that merges.
  cases passes with
  | here => cases overwrites
  | later passes => cases passes

end PathStore
