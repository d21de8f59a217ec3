import Mathlib.Data.Finset.Card
import GitopsToolkit.Storage.Branch

/-!
# The mapping cache

`GenericFileFinder` (`filefinder_mapped.go`): the identity partition `branch`, and `pathToIDs`,
the inverse view from a file path to the identities stored in that file. Each method is a
function of the cache state, computed as the code computes it, and returns the state it leaves.
A read holds only the read lock and writes nothing (`Read.run_snd`). `DeleteMapping` returns
`none` where the code calls `Delete` on the missing set of a path, which panics.

`Read` and `Call` collect the methods, so that runs of them can be stated. The lemmas here are
one per method: what it does to the flat view `Branch.get` and to `pathToIDs`
(`get_setMapping`, `lookup_setMapping`, `deleteMapping_cases`), so that later modules never
unfold a method.
-/

namespace GitopsToolkit

/-- The errors of the cache. -/
inductive FinderError
  /-- `ErrNotTracked`, whose text is "untracked object". -/
  | notTracked
  /-- `core.NewErrNotFound(id)`. -/
  | notFound (id : UnversionedObjectID)
  /-- `utilerrs.NewAggregate(errs)`. -/
  | aggregate (errs : List FinderError)

/-- `GenericFileFinder`, with the fields its cache methods use. -/
structure GenericFileFinder where
  branch : Branch
  pathToIDs : GoMap String (Finset UnversionedObjectID)

/-- `NewGenericFileFinder`: an empty branch and an empty `pathToIDs`. -/
def newGenericFileFinder : GenericFileFinder := ⟨∅, ∅⟩

namespace GenericFileFinder

variable (f : GenericFileFinder) (id id' : UnversionedObjectID) (cp : ChecksumPath) (path : String)
  (gk : GroupKind) (ns : String)

/-- `getMapping`, and `GetMapping`, which runs it under the read lock. -/
def getMapping : Option ChecksumPath × GenericFileFinder := (f.branch.get id, f)

/-- `ObjectPath`. -/
def objectPath : Except FinderError String × GenericFileFinder :=
  match f.getMapping id with
  | (some cp, f) => (.ok cp.path, f)
  | (none, f) => (.error (.aggregate [.notTracked, .notFound id]), f)

/-- `ObjectsAt`. -/
def objectsAt : Except FinderError (Finset UnversionedObjectID) :=
  match f.pathToIDs.lookup path with
  | some ids => .ok ids
  | none => .error .notTracked

/-- `ListNamespaces` (its error is always `nil`). -/
def listNamespaces : Finset String × GenericFileFinder := (f.branch.namespaces gk, f)

/-- `ListObjectIDs` (its error is always `nil`). -/
def listObjectIDs : Finset UnversionedObjectID × GenericFileFinder :=
  (((f.branch.names gk ns).keys.map fun name => ⟨gk, ⟨name, ns⟩⟩).toFinset, f)

/-- `SetMapping`: the set of `checksumPath.Path` is created when absent, and `id` inserted. -/
def setMapping : GenericFileFinder where
  branch := f.branch.setName id cp
  pathToIDs := f.pathToIDs.alter cp.path (insert id)

/-- `ResetMappings`: a fresh branch, then `SetMapping` for each entry of `m`, in the order in
which `range m` visits them. -/
def resetMappings (m : GoMap UnversionedObjectID ChecksumPath) : GenericFileFinder :=
  m.entries.foldl (fun f e => f.setMapping e.1 e.2) { f with branch := ∅ }

/-- The end of `DeleteMapping`: `id` deleted from the set `ids` of `path` in `m`, and the entry
of `path` deleted once its set is empty. -/
def pruneID (m : GoMap String (Finset UnversionedObjectID)) (path : String)
    (ids : Finset UnversionedObjectID) (id : UnversionedObjectID) :
    GoMap String (Finset UnversionedObjectID) :=
  let ids := ids.erase id
  if ids.card = 0 then m.erase path else m.insert path ids

/-- `DeleteMapping`; `none` where `f.pathToIDs[cp.Path]` is missing and `Delete` is called on
the nil set. -/
def deleteMapping : Option GenericFileFinder :=
  match f.getMapping id with
  | (none, f) => some f
  | (some cp, f) =>
    match f.pathToIDs.lookup cp.path with
    | none => none
    | some ids =>
      some { branch := f.branch.deleteName id, pathToIDs := pruneID f.pathToIDs cp.path ids id }

/-- `id` is in the set that `ObjectsAt(path)` returns. -/
def MemObjectsAt (path : String) (id : UnversionedObjectID) : Prop :=
  ∃ ids, f.objectsAt path = .ok ids ∧ id ∈ ids

/-! ## One lemma per method -/

@[simp] theorem getMapping_fst : (f.getMapping id).1 = f.branch.get id := rfl

@[simp] theorem getMapping_snd : (f.getMapping id).2 = f := rfl

theorem objectPath_fst : (f.objectPath id).1 =
    match f.branch.get id with
    | some cp => .ok cp.path
    | none => .error (.aggregate [.notTracked, .notFound id]) := by
  unfold objectPath getMapping
  cases f.branch.get id <;> rfl

theorem objectPath_snd : (f.objectPath id).2 = f := by
  unfold objectPath getMapping
  cases f.branch.get id <;> rfl

theorem objectsAt_eq_ok {ids : Finset UnversionedObjectID} :
    f.objectsAt path = .ok ids ↔ f.pathToIDs.lookup path = some ids := by
  unfold objectsAt
  split <;> simp_all

theorem memObjectsAt_iff :
    f.MemObjectsAt path id ↔ ∃ ids, f.pathToIDs.lookup path = some ids ∧ id ∈ ids := by
  simp only [MemObjectsAt, objectsAt_eq_ok]

theorem mem_getD_iff (m : GoMap String (Finset UnversionedObjectID)) :
    id ∈ m.getD path ↔ ∃ ids, m.lookup path = some ids ∧ id ∈ ids := by
  cases h : m.lookup path <;> simp [GoMap.getD, h]

theorem get_setMapping :
    (f.setMapping id cp).branch.get id' = if id' = id then some cp else f.branch.get id' :=
  Branch.get_setName ..

theorem lookup_setMapping : (f.setMapping id cp).pathToIDs.lookup path =
    if path = cp.path then some (insert id (f.pathToIDs.getD cp.path))
    else f.pathToIDs.lookup path :=
  GoMap.lookup_alter ..

theorem lookup_pruneID (m : GoMap String (Finset UnversionedObjectID)) (ids) (p : String) :
    (pruneID m path ids id).lookup p =
      if p = path then (if (ids.erase id).card = 0 then none else some (ids.erase id))
      else m.lookup p := by
  simp only [pruneID]
  by_cases hp : p = path
  · subst hp
    split_ifs <;> simp_all [AList.lookup_erase, AList.lookup_insert]
  · split_ifs <;> simp [AList.lookup_erase_ne hp, AList.lookup_insert_ne hp, hp]

/-- **Inversion of `DeleteMapping`**: an untracked identity leaves the state alone; a tracked
one is deleted from the branch and from the set of its path. -/
theorem deleteMapping_cases {f' : GenericFileFinder} (h : f.deleteMapping id = some f') :
    (f.branch.get id = none ∧ f' = f) ∨
      ∃ cp ids, f.branch.get id = some cp ∧ f.pathToIDs.lookup cp.path = some ids ∧
        f' = ⟨f.branch.deleteName id, pruneID f.pathToIDs cp.path ids id⟩ := by
  unfold deleteMapping at h
  cases hg : f.branch.get id with
  | none => simp_all [getMapping]
  | some cp =>
    simp only [getMapping, hg] at h
    cases hl : f.pathToIDs.lookup cp.path with
    | none => simp [hl] at h
    | some ids =>
      simp only [hl, Option.some.injEq] at h
      exact .inr ⟨cp, ids, rfl, hl, h.symm⟩

theorem deleteMapping_of_get_eq_none (h : f.branch.get id = none) :
    f.deleteMapping id = some f := by
  simp [deleteMapping, getMapping, h]

theorem deleteMapping_eq_some {cp : ChecksumPath} {ids : Finset UnversionedObjectID}
    (hg : f.branch.get id = some cp) (hl : f.pathToIDs.lookup cp.path = some ids) :
    f.deleteMapping id = some ⟨f.branch.deleteName id, pruneID f.pathToIDs cp.path ids id⟩ := by
  simp [deleteMapping, getMapping, hg, hl]

theorem deleteMapping_eq_none_iff :
    f.deleteMapping id = none ↔
      ∃ cp, f.branch.get id = some cp ∧ f.pathToIDs.lookup cp.path = none := by
  unfold deleteMapping
  cases hg : f.branch.get id with
  | none => simp [getMapping, hg]
  | some cp =>
    simp only [getMapping, hg]
    cases hl : f.pathToIDs.lookup cp.path <;> simp [hl]

theorem get_of_deleteMapping {f' : GenericFileFinder} (h : f.deleteMapping id = some f') :
    f'.branch.get id' = if id' = id then none else f.branch.get id' := by
  rcases f.deleteMapping_cases id h with ⟨hg, rfl⟩ | ⟨cp, ids, -, -, rfl⟩
  · split_ifs with he
    · rw [he, hg]
    · rfl
  · exact Branch.get_deleteName ..

end GenericFileFinder

/-- The read methods of the cache, each run under the read lock. -/
inductive Read
  | getMapping (id : UnversionedObjectID)
  | objectPath (id : UnversionedObjectID)
  | objectsAt (path : String)
  | listNamespaces (gk : GroupKind)
  | listObjectIDs (gk : GroupKind) (ns : String)

/-- What a read method returns. -/
inductive Answer
  | mapping (cp : Option ChecksumPath)
  | objectPath (r : Except FinderError String)
  | objectsAt (r : Except FinderError (Finset UnversionedObjectID))
  | namespaces (s : Finset String)
  | objectIDs (s : Finset UnversionedObjectID)

/-- A read's answer, and the state it leaves: the one it was given (`Read.run_snd`). -/
def Read.run : Read → GenericFileFinder → Answer × GenericFileFinder
  | .getMapping id, f => (.mapping (f.getMapping id).1, (f.getMapping id).2)
  | .objectPath id, f => (.objectPath (f.objectPath id).1, (f.objectPath id).2)
  | .objectsAt path, f => (.objectsAt (f.objectsAt path), f)
  | .listNamespaces gk, f => (.namespaces (f.listNamespaces gk).1, (f.listNamespaces gk).2)
  | .listObjectIDs gk ns, f => (.objectIDs (f.listObjectIDs gk ns).1, (f.listObjectIDs gk ns).2)

/-- A call of a method of the cache. -/
inductive Call
  | read (r : Read)
  | setMapping (id : UnversionedObjectID) (cp : ChecksumPath)
  | deleteMapping (id : UnversionedObjectID)
  | resetMappings (m : GoMap UnversionedObjectID ChecksumPath)

/-- The state a call leaves, `none` when it panics. -/
def Call.run : Call → GenericFileFinder → Option GenericFileFinder
  | .read r, f => some (r.run f).2
  | .setMapping id cp, f => some (f.setMapping id cp)
  | .deleteMapping id, f => f.deleteMapping id
  | .resetMappings m, f => some (f.resetMappings m)

/-- The state a sequence of calls leaves, `none` when one of them panics. -/
def Call.runAll : List Call → GenericFileFinder → Option GenericFileFinder
  | [], f => some f
  | c :: cs, f => (c.run f).bind (Call.runAll cs)

/-- **A read writes nothing.** Every read method leaves the state it was given: a read chain of
the branch creates no entry. -/
@[simp] theorem Read.run_snd (r : Read) (f : GenericFileFinder) : (r.run f).2 = f := by
  cases r
  case objectPath id => exact GenericFileFinder.objectPath_snd f id
  all_goals rfl

end GitopsToolkit
