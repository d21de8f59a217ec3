import GitopsToolkit.Storage.FileFinder

/-!
# Consistency of the two views

The cache keeps an identity's path twice: in the branch (`Branch.get`) and in the set
`pathToIDs[path]`. `Consistent` is what every reachable state keeps of their agreement: a
tracked identity is in the set of its path, and no stored set is empty
(`Reachable.consistent`). So `DeleteMapping` always finds the set it deletes from, and never
panics (`reachable_pathToIDs_consistent`).

The converse agreement fails: `SetMapping` only ever adds to `pathToIDs`
(`memObjectsAt_setMapping_of_memObjectsAt`), so an identity moved to another path stays in the
set of the old one (`setMapping_keeps_old_path`).

Calls on one identity leave the others alone (`calls_frame_other_identity`): the set of a file
loses an identity only to `DeleteMapping` of that identity, and its entry goes only with its
last identity.
-/

namespace GitopsToolkit

/-- The agreement of the two views that every reachable state keeps. -/
structure Consistent (f : GenericFileFinder) : Prop where
  /-- A tracked identity is in the set of its path. -/
  mem_pathToIDs : ∀ id cp, f.branch.get id = some cp → f.MemObjectsAt cp.path id
  /-- No set stored in `pathToIDs` is empty. -/
  nonempty : ∀ p ids, f.pathToIDs.lookup p = some ids → ids.Nonempty

/-- The states that a sequence of calls reaches from `NewGenericFileFinder`. -/
inductive Reachable : GenericFileFinder → Prop
  | init : Reachable newGenericFileFinder
  | step {f f' : GenericFileFinder} (c : Call) : Reachable f → c.run f = some f' → Reachable f'

namespace GenericFileFinder

variable (f : GenericFileFinder) {f' : GenericFileFinder} (id id' : UnversionedObjectID)
  (cp : ChecksumPath) (p : String)

/-! ## `SetMapping` and `DeleteMapping` on the sets of `pathToIDs` -/

theorem memObjectsAt_setMapping :
    (f.setMapping id cp).MemObjectsAt p id' ↔
      (p = cp.path ∧ id' = id) ∨ f.MemObjectsAt p id' := by
  simp only [memObjectsAt_iff, lookup_setMapping]
  split_ifs with hp
  · subst hp
    simp [← mem_getD_iff]
  · simp [hp]

theorem memObjectsAt_setMapping_of_memObjectsAt (h : f.MemObjectsAt p id') :
    (f.setMapping id cp).MemObjectsAt p id' :=
  (memObjectsAt_setMapping ..).2 (.inr h)

theorem memObjectsAt_pruneID {m : GoMap String (Finset UnversionedObjectID)} {ids}
    (hl : m.lookup cp.path = some ids) (hne : id' ≠ id) :
    (∃ s, (pruneID m cp.path ids id).lookup p = some s ∧ id' ∈ s) ↔
      ∃ s, m.lookup p = some s ∧ id' ∈ s := by
  rw [lookup_pruneID]
  split_ifs with hp hc
  · subst hp
    simp only [hl, reduceCtorEq, false_and, exists_false, Option.some.injEq, exists_eq_left',
      false_iff]
    intro hm
    exact Finset.card_ne_zero.2 ⟨id', Finset.mem_erase.2 ⟨hne, hm⟩⟩ hc
  · subst hp
    simp [hl, hne]
  · rfl

theorem memObjectsAt_of_deleteMapping (h : f.deleteMapping id = some f') (hne : id' ≠ id) :
    f'.MemObjectsAt p id' ↔ f.MemObjectsAt p id' := by
  rcases f.deleteMapping_cases id h with ⟨-, rfl⟩ | ⟨cp, ids, -, hl, rfl⟩
  · rfl
  · simp only [memObjectsAt_iff]
    exact memObjectsAt_pruneID id id' cp p hl hne

end GenericFileFinder

/-! ## Every reachable state is consistent -/

namespace Consistent

open GenericFileFinder

variable {f f' : GenericFileFinder} (id : UnversionedObjectID) (cp : ChecksumPath)

theorem setMapping (h : Consistent f) :
    Consistent (f.setMapping id cp) where
  mem_pathToIDs id' cp' hg := by
    rw [get_setMapping] at hg
    split_ifs at hg with he
    · cases hg
      exact (memObjectsAt_setMapping ..).2 (.inl ⟨rfl, he⟩)
    · exact memObjectsAt_setMapping_of_memObjectsAt _ _ _ _ _ (h.mem_pathToIDs id' cp' hg)
  nonempty p' ids hl := by
    rw [lookup_setMapping] at hl
    split_ifs at hl
    · cases hl
      exact Finset.insert_nonempty _ _
    · exact h.nonempty p' ids hl

theorem deleteMapping (h : Consistent f)
    (hd : f.deleteMapping id = some f') : Consistent f' where
  mem_pathToIDs id' cp' hg := by
    rw [get_of_deleteMapping f id id' hd] at hg
    split_ifs at hg with he
    exact (memObjectsAt_of_deleteMapping f id id' cp'.path hd he).2 (h.mem_pathToIDs id' cp' hg)
  nonempty p' ids hl := by
    rcases f.deleteMapping_cases id hd with ⟨-, rfl⟩ | ⟨cp, ids₀, -, -, rfl⟩
    · exact h.nonempty p' ids hl
    · rw [lookup_pruneID] at hl
      split_ifs at hl with hp hc
      · cases hl
        exact Finset.card_pos.1 (Nat.pos_of_ne_zero hc)
      · exact h.nonempty p' ids hl

theorem foldl_setMapping (h : Consistent f)
    (es : List (Σ _ : UnversionedObjectID, ChecksumPath)) :
    Consistent (es.foldl (fun f e => f.setMapping e.1 e.2) f) := by
  induction es generalizing f with
  | nil => exact h
  | cons e es ih => exact ih (h.setMapping e.1 e.2)

theorem resetMappings (h : Consistent f)
    (m : GoMap UnversionedObjectID ChecksumPath) : Consistent (f.resetMappings m) :=
  foldl_setMapping (f := { f with branch := ∅ }) ⟨by simp, h.nonempty⟩ _

theorem read (h : Consistent f) (r : Read) : Consistent (r.run f).2 := by
  rwa [Read.run_snd]

theorem call (h : Consistent f) {c : Call} (hc : c.run f = some f') : Consistent f' := by
  cases c with
  | read r => exact Option.some.inj hc ▸ h.read r
  | setMapping id cp => exact Option.some.inj hc ▸ h.setMapping id cp
  | deleteMapping id => exact h.deleteMapping id hc
  | resetMappings m => exact Option.some.inj hc ▸ h.resetMappings m

theorem deleteMapping_ne_none (h : Consistent f) : f.deleteMapping id ≠ none := fun hd => by
  obtain ⟨cp, hg, hl⟩ := (deleteMapping_eq_none_iff ..).1 hd
  obtain ⟨ids, hl', -⟩ := (memObjectsAt_iff ..).1 (h.mem_pathToIDs id cp hg)
  rw [hl] at hl'
  cases hl'

end Consistent

theorem Reachable.consistent {f : GenericFileFinder} (h : Reachable f) : Consistent f := by
  induction h with
  | init => exact ⟨by simp [newGenericFileFinder], by simp [newGenericFileFinder]⟩
  | step c _ hc ih => exact ih.call hc

open GenericFileFinder

/-- **`DeleteMapping` always finds the set it deletes from.** In a reachable state a tracked
identity is in the stored set of its path and no stored set is empty, so `DeleteMapping` never
calls `Delete` on a missing set, and `ObjectsAt` never answers with an empty set. -/
theorem reachable_pathToIDs_consistent {f : GenericFileFinder} (hf : Reachable f) :
    (∀ id cp, (f.getMapping id).1 = some cp →
      ∃ ids, f.pathToIDs.lookup cp.path = some ids ∧ id ∈ ids) ∧
    (∀ p ids, f.pathToIDs.lookup p = some ids → ids.Nonempty) ∧
    (∀ id, f.deleteMapping id ≠ none) ∧
    (∀ p ids, f.objectsAt p = .ok ids → ids.Nonempty) := by
  have h := hf.consistent
  exact ⟨fun id cp hg => (memObjectsAt_iff ..).1 (h.mem_pathToIDs id cp hg), h.nonempty,
    h.deleteMapping_ne_none, fun p ids ho => h.nonempty p ids ((objectsAt_eq_ok ..).1 ho)⟩

theorem reachable_pathToIDs_consistent_two_objects :
    let f := (newGenericFileFinder.setMapping ⟨⟨"", "Car"⟩, ⟨"a", ""⟩⟩ ⟨"", "cars.yaml"⟩).setMapping
      ⟨⟨"", "Car"⟩, ⟨"b", ""⟩⟩ ⟨"", "cars.yaml"⟩
    Reachable f ∧ ∀ id, f.deleteMapping id ≠ none :=
  have h := Reachable.step (.setMapping _ _) (.step (.setMapping _ _) .init rfl) rfl
  ⟨h, (reachable_pathToIDs_consistent h).2.2.1⟩

/-- `SetMapping` of a tracked identity to a second file leaves it in the set of the first:
`ObjectsAt("a.yaml")` still holds an identity that `GetMapping` maps to `"b.yaml"`. -/
theorem setMapping_keeps_old_path :
    let id : UnversionedObjectID := ⟨⟨"", "Car"⟩, ⟨"car", ""⟩⟩
    let f := (newGenericFileFinder.setMapping id ⟨"", "a.yaml"⟩).setMapping id ⟨"", "b.yaml"⟩
    f.MemObjectsAt "a.yaml" id ∧ (f.getMapping id).1 = some ⟨"", "b.yaml"⟩ :=
  ⟨(memObjectsAt_setMapping ..).2 (.inr ((memObjectsAt_setMapping ..).2 (.inl ⟨rfl, rfl⟩))),
    by simp [get_setMapping]⟩

/-- **Calls on one identity leave every other identity alone.** `SetMapping(id, cp)` and
`DeleteMapping(id)` change neither the mapping of `id' ≠ id` nor the files whose set holds it,
and `DeleteMapping` of an untracked identity changes no answer of `GetMapping` or
`ObjectsAt`. -/
theorem calls_frame_other_identity {f : GenericFileFinder} (hf : Reachable f)
    (id : UnversionedObjectID) :
    (∀ id', id' ≠ id → ∀ cp,
      ((f.setMapping id cp).getMapping id').1 = (f.getMapping id').1 ∧
      (∀ p, (f.setMapping id cp).MemObjectsAt p id' ↔ f.MemObjectsAt p id') ∧
      ∃ f', f.deleteMapping id = some f' ∧ (f'.getMapping id').1 = (f.getMapping id').1 ∧
        ∀ p, f'.MemObjectsAt p id' ↔ f.MemObjectsAt p id') ∧
    ((f.getMapping id).1 = none → ∃ f', f.deleteMapping id = some f' ∧
      ∀ id' p, (f'.getMapping id').1 = (f.getMapping id').1 ∧ f'.objectsAt p = f.objectsAt p) := by
  refine ⟨fun id' hne cp => ⟨?_, fun p => ?_, ?_⟩, fun hg =>
    ⟨_, deleteMapping_of_get_eq_none f id hg, fun id' p => ⟨rfl, rfl⟩⟩⟩
  · simp [get_setMapping, hne]
  · simp [memObjectsAt_setMapping, hne]
  · obtain ⟨f', hd⟩ := Option.ne_none_iff_exists'.1 (hf.consistent.deleteMapping_ne_none id)
    exact ⟨f', hd, by simp [get_of_deleteMapping f id id' hd, hne],
      fun p => memObjectsAt_of_deleteMapping f id id' p hd hne⟩

theorem calls_frame_other_identity_two_objects :
    let a : UnversionedObjectID := ⟨⟨"", "Car"⟩, ⟨"a", ""⟩⟩
    let b : UnversionedObjectID := ⟨⟨"", "Car"⟩, ⟨"b", ""⟩⟩
    let f := (newGenericFileFinder.setMapping a ⟨"", "cars.yaml"⟩).setMapping b ⟨"", "cars.yaml"⟩
    Reachable f ∧ b ≠ a ∧ ∃ f', f.deleteMapping a = some f' ∧ f'.MemObjectsAt "cars.yaml" b := by
  intro a b f
  have h : Reachable f := .step (.setMapping _ _) (.step (.setMapping _ _) .init rfl) rfl
  have hne : b ≠ a := by decide
  obtain ⟨f', hd, -, hp⟩ := ((calls_frame_other_identity h a).1 b hne ⟨"", ""⟩).2.2
  exact ⟨h, hne, f', hd,
    (hp "cars.yaml").2 ((memObjectsAt_setMapping ..).2 (.inl ⟨rfl, rfl⟩))⟩

end GitopsToolkit
