import GitopsToolkit.Storage.Consistency

/-!
# `ResetMappings`

`ResetMappings(m)` installs a fresh branch and then runs `SetMapping` for each entry of `m`, in
the order in which `range m` visits them. Every order of the entries of a Go map is the entries
list of some `AList`, so the statements below, over every `m : GoMap`, cover every iteration
order.

* The branch is rebuilt from `m` alone: `GetMapping` answers `m[id]` whatever the prior state
  (`getMapping_resetMappings`), and `ListObjectIDs` lists the identities of `m`
  (`mem_listObjectIDs_resetMappings`).
* `pathToIDs` is not reset: an identity is in `ObjectsAt(p)` after the reset when `m` maps it
  to `p`, or when it was there before (`memObjectsAt_resetMappings`). A prior state that
  tracked a file `m` does not mention still answers for it (`resetMappings_keeps_old_path`).
-/

namespace GitopsToolkit

namespace GenericFileFinder

variable (f : GenericFileFinder) (id : UnversionedObjectID) (p : String)

/-- One entry of a `range` over a `map[UnversionedObjectID]ChecksumPath`. -/
abbrev Entry := Σ _ : UnversionedObjectID, ChecksumPath

/-- The `SetMapping` loop of `ResetMappings`. -/
def setAll (es : List Entry) (f : GenericFileFinder) : GenericFileFinder :=
  es.foldl (fun f e => f.setMapping e.1 e.2) f

theorem resetMappings_eq (m : GoMap UnversionedObjectID ChecksumPath) :
    f.resetMappings m = setAll m.entries { f with branch := ∅ } := rfl

/-! ## The branch -/

theorem get_setAll {es : List Entry} (hes : es.NodupKeys) (f : GenericFileFinder) :
    (setAll es f).branch.get id = (es.dlookup id).or (f.branch.get id) := by
  induction es generalizing f with
  | nil => rfl
  | cons e es ih =>
    obtain ⟨hn, hes⟩ := List.nodupKeys_cons.1 hes
    rw [setAll, List.foldl_cons, ← setAll, ih hes, get_setMapping]
    by_cases he : id = e.1
    · subst he
      rw [List.dlookup_eq_none.2 hn, if_pos rfl, List.dlookup_cons_eq]
      rfl
    · rw [if_neg he, List.dlookup_cons_ne _ _ he]

theorem get_resetMappings (m : GoMap UnversionedObjectID ChecksumPath) :
    (f.resetMappings m).branch.get id = m.lookup id := by
  rw [resetMappings_eq, get_setAll _ m.nodupKeys, Branch.get_empty, Option.or_none]
  rfl

/-- **`GetMapping` after `ResetMappings(m)` answers `m[id]`**, for every prior state and every
iteration order of `m`. -/
theorem getMapping_resetMappings (m : GoMap UnversionedObjectID ChecksumPath) :
    ((f.resetMappings m).getMapping id).1 = m.lookup id :=
  get_resetMappings ..

theorem mem_listObjectIDs (gk : GroupKind) (ns : String) :
    id ∈ (f.listObjectIDs gk ns).1 ↔
      id.groupKind = gk ∧ id.objectKey.namespace_ = ns ∧ (f.branch.get id).isSome := by
  obtain ⟨gk', n, ns'⟩ := id
  simp only [listObjectIDs, List.mem_toFinset, List.mem_map, ← AList.mem_keys,
    ← AList.lookup_isSome, Branch.get, UnversionedObjectID.mk.injEq, ObjectKey.mk.injEq]
  constructor
  · rintro ⟨_, h, rfl, rfl, rfl⟩
    exact ⟨rfl, rfl, h⟩
  · rintro ⟨rfl, rfl, h⟩
    exact ⟨_, h, rfl, rfl, rfl⟩

/-- `ListObjectIDs(gk, ns)` after `ResetMappings(m)` lists the identities of `m` of GroupKind
`gk` in namespace `ns`. -/
theorem mem_listObjectIDs_resetMappings (m : GoMap UnversionedObjectID ChecksumPath)
    (gk : GroupKind) (ns : String) :
    id ∈ ((f.resetMappings m).listObjectIDs gk ns).1 ↔
      id ∈ m ∧ id.groupKind = gk ∧ id.objectKey.namespace_ = ns := by
  rw [mem_listObjectIDs, get_resetMappings, AList.lookup_isSome]
  tauto

/-! ## `pathToIDs` -/

theorem memObjectsAt_setAll (es : List Entry) (f : GenericFileFinder) :
    (setAll es f).MemObjectsAt p id ↔
      (∃ e ∈ es, p = e.2.path ∧ id = e.1) ∨ f.MemObjectsAt p id := by
  induction es generalizing f with
  | nil => simp [setAll]
  | cons e es ih =>
    rw [setAll, List.foldl_cons, ← setAll, ih, memObjectsAt_setMapping]
    simp only [List.mem_cons, exists_eq_or_imp, or_assoc, or_left_comm]

/-- **`ObjectsAt` after `ResetMappings(m)` keeps the prior sets**: `id` is in `ObjectsAt(p)`
exactly when `m` maps it to `p` or it was there before the reset. -/
theorem memObjectsAt_resetMappings (m : GoMap UnversionedObjectID ChecksumPath) :
    (f.resetMappings m).MemObjectsAt p id ↔
      (∃ cp, m.lookup id = some cp ∧ cp.path = p) ∨ f.MemObjectsAt p id := by
  rw [resetMappings_eq, memObjectsAt_setAll]
  refine or_congr_left ⟨?_, ?_⟩
  · rintro ⟨⟨_, cp⟩, h, rfl, rfl⟩
    exact ⟨cp, AList.mem_lookup_iff.2 h, rfl⟩
  · rintro ⟨cp, h, rfl⟩
    exact ⟨⟨_, cp⟩, AList.mem_lookup_iff.1 h, rfl, rfl⟩

end GenericFileFinder

open GenericFileFinder

/-- `ResetMappings(∅)` on a state that tracks `"a.yaml"` leaves `ObjectsAt("a.yaml")` holding an
identity that `GetMapping` no longer tracks. -/
theorem resetMappings_keeps_old_path :
    let id : UnversionedObjectID := ⟨⟨"", "Car"⟩, ⟨"car", ""⟩⟩
    let f := (newGenericFileFinder.setMapping id ⟨"", "a.yaml"⟩).resetMappings ∅
    (f.getMapping id).1 = none ∧ f.MemObjectsAt "a.yaml" id :=
  ⟨get_resetMappings .., (memObjectsAt_setAll ..).2
    (.inr ((memObjectsAt_setMapping newGenericFileFinder _ _ ⟨"", "a.yaml"⟩ "a.yaml").2
      (.inl ⟨rfl, rfl⟩)))⟩

end GitopsToolkit
