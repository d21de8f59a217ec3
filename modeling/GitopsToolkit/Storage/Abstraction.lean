import GitopsToolkit.Storage.Commute

/-!
# The cache as an abstract machine

What `GetMapping` and `ObjectsAt` see of the cache is an `Observation`: the flat view, and the
set of each path (empty when the path has no entry). Each call moves it by one step of an
abstract machine (`Call.observeStep`), made of two steps on functions: `Call.spec` on the flat
view and `Call.objectsStep` on the sets. Neither mentions the nested Go maps or the pruning of
empty sets.

* `Call.observe_run`: every call that returns moves the observation by one step of the machine.
* `runAll_observe`: from a consistent state every sequence of calls returns, into a consistent
  state whose observation is the machine's.

The namespaces need no step of their own: in a reachable state `ListNamespaces` lists those of
the identities the flat view tracks (`listNamespaces_eq_tracked`), and `ListObjectIDs` lists the
tracked identities of a namespace (`mem_listObjectIDs`).

The sets follow the code, not a cleaner design: `SetMapping(id, cp)` adds `id` to the set of
`cp.Path` and takes it out of no other set, `DeleteMapping(id)` takes it out of the set of the
path it is mapped to at that moment only, and `ResetMappings(m)` only adds.
-/

namespace GitopsToolkit

open GenericFileFinder

/-- The identities that `m` maps to a file at `p`. -/
def mappedTo (m : GoMap UnversionedObjectID ChecksumPath) (p : String) : Finset UnversionedObjectID :=
  ((m.entries.filter (·.2.path = p)).map (·.1)).toFinset

/-- What a call does to the sets that `ObjectsAt` reads, given the flat view before it. -/
def Call.objectsStep :
    Call → Mapping → (String → Finset UnversionedObjectID) → String → Finset UnversionedObjectID
  | .setMapping id cp, _, objs => Function.update objs cp.path (insert id (objs cp.path))
  | .deleteMapping id, v, objs =>
    match v id with
    | none => objs
    | some cp => Function.update objs cp.path ((objs cp.path).erase id)
  | .resetMappings m, _, objs => fun p => objs p ∪ mappedTo m p
  | .read _, _, objs => objs

/-- One step of the abstract machine: what a call does to what the reads see. -/
def Call.observeStep (c : Call) (o : Observation) : Observation :=
  ⟨c.spec o.get, c.objectsStep o.get o.objects⟩

variable {f f' : GenericFileFinder}

theorem getD_setAll (es : List Entry) (f : GenericFileFinder) (p : String) :
    (setAll es f).pathToIDs.getD p =
      f.pathToIDs.getD p ∪ ((es.filter (·.2.path = p)).map (·.1)).toFinset := by
  ext id
  rw [mem_getD_iff, ← memObjectsAt_iff, memObjectsAt_setAll, memObjectsAt_iff, ← mem_getD_iff]
  simp only [Finset.mem_union, List.mem_toFinset, List.mem_map, List.mem_filter,
    decide_eq_true_eq]
  constructor
  · rintro (⟨e, he, rfl, rfl⟩ | h)
    exacts [.inr ⟨e, ⟨he, rfl⟩, rfl⟩, .inl h]
  · rintro (h | ⟨e, ⟨he, rfl⟩, rfl⟩)
    exacts [.inr h, .inl ⟨e, he, rfl, rfl⟩]

/-- A call that returns moves the flat view by `Call.spec`. -/
theorem Call.get_run {c : Call} (h : c.run f = some f') :
    f'.branch.get = c.spec f.branch.get := by
  funext id
  cases c with
  | read r =>
    cases h
    rw [Read.run_snd]
    rfl
  | setMapping id' cp =>
    cases h
    rw [get_setMapping, Call.spec, Function.update_apply]
  | deleteMapping id' => rw [get_of_deleteMapping f id' id h, Call.spec, Function.update_apply]
  | resetMappings m =>
    cases h
    exact get_resetMappings f id m

/-- A call that returns moves the sets by `Call.objectsStep`. -/
theorem Call.objects_run {c : Call} (h : c.run f = some f') :
    (fun p => f'.pathToIDs.getD p) = c.objectsStep f.branch.get fun p => f.pathToIDs.getD p := by
  cases c with
  | read r =>
    cases h
    rw [Read.run_snd]
    rfl
  | setMapping id cp =>
    cases h
    exact (Observation.mk.inj (observe_setMapping id cp)).2
  | deleteMapping id => exact getD_of_deleteMapping id h
  | resetMappings m =>
    cases h
    funext p
    rw [resetMappings_eq, getD_setAll]
    rfl

/-- **One call is one step of the machine.** -/
theorem Call.observe_run {c : Call} (h : c.run f = some f') :
    f'.observe = c.observeStep f.observe := by
  rw [observe, observe, Call.observeStep, Call.get_run h, Call.objects_run h]

theorem observe_runAll {cs : List Call} (h : Call.runAll cs f = some f') :
    f'.observe = cs.foldl (fun o c => c.observeStep o) f.observe := by
  induction cs generalizing f with
  | nil =>
    cases h
    rfl
  | cons c cs ih =>
    obtain ⟨g, hc, hcs⟩ := Option.bind_eq_some.1 h
    rw [ih hcs, Call.observe_run hc, List.foldl_cons]

/-- **The cache refines the abstract machine.** From a consistent state (in particular a
reachable one) every sequence of calls returns, into a consistent state on which `GetMapping`
and the sets `ObjectsAt` reads are what the abstract machine computes from the first state's. -/
theorem runAll_observe (hf : Consistent f) (cs : List Call) :
    ∃ f', Call.runAll cs f = some f' ∧ Consistent f' ∧
      f'.observe = cs.foldl (fun o c => c.observeStep o) f.observe := by
  obtain ⟨f', h, hf'⟩ := hf.runAll_eq_some cs
  exact ⟨f', h, hf', observe_runAll h⟩

theorem runAll_observe_moved_object :
    let id : UnversionedObjectID := ⟨⟨"", "Car"⟩, ⟨"car", ""⟩⟩
    let cs := [Call.setMapping id ⟨"", "a.yaml"⟩, .setMapping id ⟨"", "b.yaml"⟩]
    Consistent newGenericFileFinder ∧ ∃ f', Call.runAll cs newGenericFileFinder = some f' ∧
      Consistent f' ∧ f'.observe = cs.foldl (fun o c => c.observeStep o) newGenericFileFinder.observe :=
  ⟨Reachable.init.consistent, runAll_observe Reachable.init.consistent _⟩

end GitopsToolkit
