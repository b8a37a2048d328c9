import PathStore.Equality
import PathStore.Proofs.Entries.Seeking
import PathStore.Proofs.Keys.Canonical
import PathStore.Proofs.Programs
import PathStore.Proofs.World.Claims
import PathStore.Snapshot

/-!
# Stores with canonical keys

A world is canonical if every key of every store is. Programs over the world keep that, and hold the
same claims afterwards as before. This holds for every way to use a store, as long as what is
written there is canonical, and for every way to use a buffer.
-/

namespace PathStore

open PathStore.Path

namespace Entries

variable {α : Type} {entries : Entries α}

/-- Every key is canonical. -/
def Canonical (entries : Entries α) : Prop :=
  ∀ key value, entries.find? key = some value → IsCanonical key

theorem canonical_empty : (empty : Entries α).Canonical := by
  intro key value found
  rw [find?_empty] at found
  cases found

theorem Canonical.insert (canonical : entries.Canonical) {key : String}
    (keyCanonical : IsCanonical key) (value : α) : (entries.insert key value).Canonical := by
  intro other held found
  rw [find?_insert] at found
  split at found
  · rename_i same
    exact same ▸ keyCanonical
  · exact canonical other held found

theorem Canonical.insertAll (canonical : entries.Canonical) {list : List (String × α)}
    (keys : ∀ entry ∈ list, IsCanonical entry.1) : (entries.insertAll list).Canonical := by
  induction list generalizing entries with
  | nil => exact canonical
  | cons entry list ih =>
      obtain ⟨first, rest⟩ := List.forall_mem_cons.mp keys
      exact ih (canonical.insert first entry.2) rest

theorem Canonical.erase (canonical : entries.Canonical) (key : String) :
    (entries.erase key).Canonical := by
  intro other held found
  rw [find?_erase] at found
  split at found
  · cases found
  · exact canonical other held found

theorem Canonical.eraseAll (canonical : entries.Canonical) (keys : List String) :
    (entries.eraseAll keys).Canonical := by
  induction keys generalizing entries with
  | nil => exact canonical
  | cons key keys ih => exact ih (canonical.erase key)

theorem Canonical.prune (canonical : entries.Canonical) (scope : String) :
    (entries.prune scope).Canonical := by
  unfold Entries.prune
  split
  · exact canonical_empty
  · exact canonical.eraseAll _

end Entries

/-- Every key of every store is canonical. -/
def World.Canonical (world : World) : Prop :=
  ∀ id, (world.entries id).Canonical

/-- Stores stay canonical, and the same claims are held before and after. -/
def World.canonicity : Invariant World where
  holds := World.Canonical
  follows before after := after.active = before.active
  refl _ := rfl
  trans first second := second.trans first

namespace Op

open Invariant

variable {α : Type}

/-- The program keeps worlds canonical and gives up what it claims, and its result satisfies a
condition. -/
abbrev Keeps (program : Op α) (ensures : α → Prop) : Prop :=
  World.canonicity.Keeps program ensures

/-- The program keeps worlds canonical and gives up what it claims. -/
abbrev Steady (program : Op α) : Prop := World.canonicity.Steady program

theorem Steady.attempt {program : Op α} (steady : Steady program) : Steady program.attempt := by
  intro world canonical
  unfold Op.attempt
  have kept := steady world canonical
  generalize program world = outcome at kept
  cases kept with
  | ok canonical claims _ => exact .ok canonical claims trivial
  | @error failure left canonical claims =>
      cases failure with
      | error cause => exact .ok canonical claims trivial
      | fault cause => exact .error canonical claims
      | misfit reason => exact .error canonical claims

namespace Keeps

variable {ensures : α → Prop}

theorem ofExcept {decided : Except Failure α}
    (ensured : ∀ result, decided = .ok result → ensures result) :
    Keeps (Op.ofExcept decided) ensures := by
  cases decided with
  | ok result => exact Keeps.pure (ensured result rfl)
  | error failure => exact Keeps.throw failure

/-- What runs under a claim gives it up at the end. -/
theorem holding {program : Op α} (claim : Claim) (refusal : Failure)
    (keeps : Keeps program ensures) : Keeps (Op.holding claim refusal program) ensures := by
  intro world canonical
  unfold Op.holding
  split
  · have kept := keeps (world.acquire claim) canonical
    generalize program (world.acquire claim) = outcome at kept
    cases kept with
    | ok canonical claims ensured => exact .ok canonical (congrArg List.tail claims) ensured
    | error canonical claims => exact .error canonical (congrArg List.tail claims)
  · exact .error canonical rfl

/-! ## Stores and buffers -/

theorem readingStore {id : StoreId} {use : Entries Cell → Op α} (refusal : Failure)
    (keeps : ∀ entries : Entries Cell, entries.Canonical → Keeps (use entries) ensures) :
    Keeps (id.reading refusal use) ensures :=
  holding _ refusal (Keeps.get.bind fun world canonical => keeps (world.entries id) (canonical id))

theorem writingStore {id : StoreId} {use : Entries Cell → Op (α × Entries Cell)}
    (keeps : ∀ entries : Entries Cell, entries.Canonical →
      Keeps (use entries) fun written => ensures written.1 ∧ written.2.Canonical) :
    Keeps (id.writing use) ensures := by
  apply holding
  apply Keeps.get.bind
  intro world canonical
  apply Keeps.bind (keeps (world.entries id) (canonical id))
  rintro ⟨result, entries⟩ ⟨ensured, written⟩
  refine Keeps.bind (Keeps.modify ?_ fun _ => rfl) fun _ _ => Keeps.pure ensured
  intro world canonical other
  rw [World.entries_setEntries]
  split
  · exact written
  · exact canonical other

theorem createStore {entries : Entries Cell} (canonical : entries.Canonical) :
    Steady (StoreId.create entries) := by
  apply Keeps.get.bind
  intro world _
  refine Keeps.bind (Keeps.modify ?_ fun _ => rfl) fun _ _ => Keeps.pure trivial
  intro world known id
  change ((world.stores.push entries).read id.number).Canonical
  rw [Heap.read_push]
  split
  · exact canonical
  · exact known id

theorem readingBuffer {id : BufferId} {use : List Scalar → Op α} (refusal : Failure)
    (keeps : ∀ elements, Keeps (use elements) ensures) : Keeps (id.reading refusal use) ensures :=
  holding _ refusal (Keeps.get.bind fun world _ => keeps (world.elements id))

theorem writingBuffer {id : BufferId} {use : List Scalar → Op (α × List Scalar)}
    (keeps : ∀ elements, Keeps (use elements) fun written => ensures written.1) :
    Keeps (id.writing use) ensures := by
  apply holding
  apply Keeps.get.bind
  intro world _
  apply Keeps.bind (keeps (world.elements id))
  rintro ⟨result, elements⟩ ensured
  exact Keeps.bind (Keeps.modify (fun _ known => known) fun _ => rfl) fun _ _ => Keeps.pure ensured

end Keeps

end Op

end PathStore
