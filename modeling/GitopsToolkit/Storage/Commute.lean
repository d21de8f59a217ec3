import GitopsToolkit.Storage.Observation
import GitopsToolkit.Storage.Refinement

/-!
# Writes on distinct identities commute

`SetMapping(id, cp)` and `DeleteMapping(id)` each write one identity. What they do to the flat
view and to the sets of the paths (`Observation`) touches only that identity's mapping and its
entry in the set of the path it is mapped to (`Observation.setMapping`,
`Observation.deleteMapping`). Two such writes on distinct identities therefore commute on
observations (`Call.observeWrite_comm`), whatever their paths.

The namespaces listed are those where an identity lives and those whose entry holds no name
(`Branch.mem_namespaces_iff`). A write fills at most the namespace of its identity and leaves no
namespace without a name (`Call.emptyNamespaces_run_of_writes`), and fills commute too. In a
consistent state no entry of `pathToIDs` is empty, so equal observations and equal namespaces
without a name make the states indistinguishable. From a consistent state, two writes on
distinct identities run in either order, followed by any calls, end in states on which every
read answers alike (`writes_on_distinct_identities_commute`): the order in which the batches of
two different objects reach the cache does not show.

On one identity, `DeleteMapping(id)` undoes `SetMapping(id, cp)` when `id` was untracked and not
in the set of `cp.Path`: from a reachable state every read then answers as before the two calls
(`setMapping_deleteMapping_round_trip`). Pruning the emptied set deletes the entry of `cp.Path`
exactly when it had none before, and pruning the emptied namespace deletes its entry exactly when
no other identity lives in it.
-/

namespace GitopsToolkit

/-- What `GetMapping` and `ObjectsAt` see: the flat view, and the set of each path, read as
empty when the path has no entry. -/
structure Observation where
  get : UnversionedObjectID → Option ChecksumPath
  objects : String → Finset UnversionedObjectID

/-- What `GetMapping` and `ObjectsAt` see of `f`. -/
def GenericFileFinder.observe (f : GenericFileFinder) : Observation :=
  ⟨f.branch.get, fun p => f.pathToIDs.getD p⟩

namespace Observation

/-- `SetMapping(id, cp)` as the reads see it. -/
def setMapping (o : Observation) (id : UnversionedObjectID) (cp : ChecksumPath) : Observation where
  get := Function.update o.get id (some cp)
  objects := Function.update o.objects cp.path (insert id (o.objects cp.path))

/-- `DeleteMapping(id)` as the reads see it: `id` leaves the set of the path it is mapped to. -/
def deleteMapping (o : Observation) (id : UnversionedObjectID) : Observation where
  get := Function.update o.get id none
  objects :=
    match o.get id with
    | none => o.objects
    | some cp => Function.update o.objects cp.path ((o.objects cp.path).erase id)

/-- Two updates of a function, each replacing a value by a modification of it, commute when the
two modifications commute at a shared key. -/
theorem update_update_comm {α β : Type} [DecidableEq α] (f : α → β) {a b : α}
    {g h : β → β} (hgh : a = b → ∀ x, h (g x) = g (h x)) :
    Function.update (Function.update f a (g (f a))) b (h (Function.update f a (g (f a)) b)) =
      Function.update (Function.update f b (h (f b))) a (g (Function.update f b (h (f b)) a)) := by
  by_cases hab : a = b
  · subst hab
    simp only [Function.update_same, Function.update_idem, hgh rfl]
  · rw [Function.update_noteq (Ne.symm hab), Function.update_noteq hab, Function.update_comm hab]

/-- `DeleteMapping(id)` undoes `SetMapping(id, cp)` on an untracked `id` outside the set of
`cp.Path`. -/
theorem setMapping_deleteMapping (o : Observation) {id : UnversionedObjectID} {cp : ChecksumPath}
    (hget : o.get id = none) (hobj : id ∉ o.objects cp.path) :
    (o.setMapping id cp).deleteMapping id = o := by
  obtain ⟨get, objects⟩ := o
  simp only [setMapping, deleteMapping, Function.update_same, Function.update_idem,
    Finset.erase_insert hobj, Function.update_eq_self, mk.injEq, and_true]
  exact Function.update_eq_self_iff.2 hget.symm

variable (o : Observation) {id₁ id₂ : UnversionedObjectID} (hne : id₁ ≠ id₂)
include hne

theorem setMapping_comm (cp₁ cp₂ : ChecksumPath) :
    (o.setMapping id₁ cp₁).setMapping id₂ cp₂ =
      (o.setMapping id₂ cp₂).setMapping id₁ cp₁ := by
  simp only [setMapping, mk.injEq, Function.update_comm hne, true_and]
  exact update_update_comm _ (g := insert id₁) (h := insert id₂)
    fun _ _ => Finset.Insert.comm ..

theorem setMapping_deleteMapping_comm (cp₁ : ChecksumPath) :
    (o.setMapping id₁ cp₁).deleteMapping id₂ =
      (o.deleteMapping id₂).setMapping id₁ cp₁ := by
  simp only [setMapping, deleteMapping, mk.injEq, Function.update_comm hne,
    Function.update_noteq hne.symm, true_and]
  cases o.get id₂ with
  | none => rfl
  | some cp₂ =>
    exact update_update_comm _ (g := insert id₁)
      (h := fun s : Finset UnversionedObjectID => s.erase id₂)
      fun _ _ => Finset.erase_insert_of_ne hne

theorem deleteMapping_comm :
    (o.deleteMapping id₁).deleteMapping id₂ = (o.deleteMapping id₂).deleteMapping id₁ := by
  simp only [deleteMapping, mk.injEq, Function.update_comm hne, Function.update_noteq hne,
    Function.update_noteq hne.symm, true_and]
  cases o.get id₁ <;> cases o.get id₂
  case some.some cp₁ cp₂ =>
    exact update_update_comm _ (g := fun s : Finset UnversionedObjectID => s.erase id₁)
      (h := fun s : Finset UnversionedObjectID => s.erase id₂) fun _ _ => Finset.erase_right_comm
  all_goals rfl

end Observation

/-- The identity a call writes: `SetMapping(id, cp)` and `DeleteMapping(id)` write `id`, and
the other calls no single identity. -/
def Call.writes : Call → Option UnversionedObjectID
  | .setMapping id _ | .deleteMapping id => some id
  | .read _ | .resetMappings _ => none

/-- What a write does to the observation. -/
def Call.observeWrite : Call → Observation → Observation
  | .setMapping id cp, o => o.setMapping id cp
  | .deleteMapping id, o => o.deleteMapping id
  | .read _, o | .resetMappings _, o => o

theorem Call.observeWrite_comm {c₁ c₂ : Call} {id₁ id₂ : UnversionedObjectID}
    (h₁ : c₁.writes = some id₁) (h₂ : c₂.writes = some id₂) (hne : id₁ ≠ id₂)
    (o : Observation) :
    c₂.observeWrite (c₁.observeWrite o) = c₁.observeWrite (c₂.observeWrite o) := by
  cases c₁ <;> cases c₂ <;> cases h₁ <;> cases h₂
  · exact o.setMapping_comm hne _ _
  · exact o.setMapping_deleteMapping_comm hne _
  · exact (o.setMapping_deleteMapping_comm hne.symm _).symm
  · exact o.deleteMapping_comm hne

/-- What a write does to the namespaces without a name: `SetMapping(id, cp)` fills the namespace
of `id`, and `DeleteMapping` leaves them alone. -/
def Call.fillNamespace : Call → (GroupKind → Finset String) → GroupKind → Finset String
  | .setMapping id _, e =>
    Function.update e id.groupKind ((e id.groupKind).erase id.objectKey.namespace_)
  | .deleteMapping _, e | .read _, e | .resetMappings _, e => e

theorem Call.fillNamespace_comm (c₁ c₂ : Call) (e : GroupKind → Finset String) :
    c₂.fillNamespace (c₁.fillNamespace e) = c₁.fillNamespace (c₂.fillNamespace e) := by
  cases c₁ <;> cases c₂
  case setMapping.setMapping id₁ _ id₂ _ =>
    exact Observation.update_update_comm e (g := fun s => s.erase id₁.objectKey.namespace_)
      (h := fun s => s.erase id₂.objectKey.namespace_) fun _ _ => Finset.erase_right_comm
  all_goals rfl

/-! ## The writes on the cache -/

open GenericFileFinder

namespace GenericFileFinder

variable {f f' : GenericFileFinder} (id : UnversionedObjectID)

theorem observe_setMapping (cp : ChecksumPath) :
    (f.setMapping id cp).observe = f.observe.setMapping id cp := by
  simp only [observe, Observation.setMapping, Observation.mk.injEq]
  refine ⟨funext fun id' => ?_, funext fun p => ?_⟩
  · rw [get_setMapping, Function.update_apply]
  · rw [setMapping, GoMap.getD_alter, Function.update_apply]

theorem getD_of_deleteMapping (h : f.deleteMapping id = some f') :
    (fun p => f'.pathToIDs.getD p) =
      match f.branch.get id with
      | none => fun p => f.pathToIDs.getD p
      | some cp => Function.update (fun p => f.pathToIDs.getD p) cp.path
          ((f.pathToIDs.getD cp.path).erase id) := by
  rcases f.deleteMapping_cases id h with ⟨hg, rfl⟩ | ⟨cp, ids, hg, hl, rfl⟩
  · rw [hg]
  · rw [hg]
    funext p
    simp only [GoMap.getD, lookup_pruneID, Function.update_apply, hl, Option.getD_some]
    split_ifs with hp hc <;> simp_all [Finset.card_eq_zero]

theorem observe_of_deleteMapping (h : f.deleteMapping id = some f') :
    f'.observe = f.observe.deleteMapping id := by
  simp only [observe, Observation.deleteMapping, Observation.mk.injEq]
  refine ⟨funext fun id' => ?_, getD_of_deleteMapping id h⟩
  rw [get_of_deleteMapping f id id' h, Function.update_apply]

end GenericFileFinder

variable {f f' : GenericFileFinder}

theorem Call.observe_run_of_writes {c : Call} {id : UnversionedObjectID} (hc : c.writes = some id)
    (h : c.run f = some f') : f'.observe = c.observeWrite f.observe := by
  cases c <;> cases hc
  · cases h
    exact observe_setMapping ..
  · exact observe_of_deleteMapping _ h

theorem Call.emptyNamespaces_run_of_writes {c : Call} {id : UnversionedObjectID}
    (hc : c.writes = some id) (h : c.run f = some f') :
    f'.branch.emptyNamespaces = c.fillNamespace f.branch.emptyNamespaces := by
  cases c <;> cases hc
  case setMapping cp =>
    cases h
    funext gk
    ext ns
    rw [mem_emptyNamespaces_setMapping, Call.fillNamespace, Function.update_apply]
    split_ifs with hg
    · rw [hg, Finset.mem_erase, and_iff_right_of_imp fun _ => rfl]
    · rw [and_iff_right fun h => hg h.1]
  case deleteMapping => exact emptyNamespaces_of_deleteMapping f id h

/-- In consistent states, equal observations and equal namespaces without a name make the states
indistinguishable: no entry of `pathToIDs` is empty, so an empty set is a path with no entry. -/
theorem Indistinguishable.of_observe {g : GenericFileFinder} (hf : Consistent f)
    (hg : Consistent g) (h : f.observe = g.observe)
    (hempty : ∀ gk, f.branch.emptyNamespaces gk = g.branch.emptyNamespaces gk) :
    Indistinguishable f g := by
  simp only [observe, Observation.mk.injEq] at h
  obtain ⟨hget, hobj⟩ := h
  refine ⟨.of_emptyNamespaces (congrFun hget) hempty, fun p => ?_⟩
  have hp : f.pathToIDs.getD p = g.pathToIDs.getD p := congrFun hobj p
  cases hl : f.pathToIDs.lookup p <;> cases hl' : g.pathToIDs.lookup p
  · rfl
  · rw [GoMap.getD, GoMap.getD, hl, hl'] at hp
    exact absurd hp.symm (hg.nonempty p _ hl').ne_empty
  · rw [GoMap.getD, GoMap.getD, hl, hl'] at hp
    exact absurd hp (hf.nonempty p _ hl).ne_empty
  · rw [GoMap.getD, GoMap.getD, hl, hl', Option.getD_some, Option.getD_some] at hp
    rw [hp]

theorem Consistent.runAll_eq_some (hf : Consistent f) (cs : List Call) :
    ∃ f', Call.runAll cs f = some f' ∧ Consistent f' := by
  induction cs generalizing f with
  | nil => exact ⟨f, rfl, hf⟩
  | cons c cs ih =>
    obtain ⟨g, hc, -⟩ := hf.call_refines c
    obtain ⟨f', hcs, hf'⟩ := ih (hf.call hc)
    exact ⟨f', by rw [Call.runAll, hc]; exact hcs, hf'⟩

/-- **Writes on distinct identities commute.** From a consistent state, a `SetMapping` or
`DeleteMapping` of one identity and a `SetMapping` or `DeleteMapping` of another, run in either
order and followed by the same calls, both return, and every read answers alike on the two
states they leave. -/
theorem writes_on_distinct_identities_commute (hf : Consistent f) {c₁ c₂ : Call}
    {id₁ id₂ : UnversionedObjectID} (h₁ : c₁.writes = some id₁) (h₂ : c₂.writes = some id₂)
    (hne : id₁ ≠ id₂) (cs : List Call) :
    ∃ f₁ f₂, Call.runAll (c₁ :: c₂ :: cs) f = some f₁ ∧ Call.runAll (c₂ :: c₁ :: cs) f = some f₂ ∧
      ∀ r : Read, (r.run f₁).1 = (r.run f₂).1 := by
  obtain ⟨g₁, hg₁, -⟩ := hf.call_refines c₁
  obtain ⟨g₁₂, hg₁₂, -⟩ := (hf.call hg₁).call_refines c₂
  obtain ⟨g₂, hg₂, -⟩ := hf.call_refines c₂
  obtain ⟨g₂₁, hg₂₁, -⟩ := (hf.call hg₂).call_refines c₁
  have hc₁₂ : Consistent g₁₂ := (hf.call hg₁).call hg₁₂
  have hc₂₁ : Consistent g₂₁ := (hf.call hg₂).call hg₂₁
  have hobs : g₁₂.observe = g₂₁.observe := by
    rw [Call.observe_run_of_writes h₂ hg₁₂, Call.observe_run_of_writes h₁ hg₁,
      Call.observe_run_of_writes h₁ hg₂₁, Call.observe_run_of_writes h₂ hg₂,
      Call.observeWrite_comm h₁ h₂ hne]
  have hempty : g₁₂.branch.emptyNamespaces = g₂₁.branch.emptyNamespaces := by
    rw [Call.emptyNamespaces_run_of_writes h₂ hg₁₂, Call.emptyNamespaces_run_of_writes h₁ hg₁,
      Call.emptyNamespaces_run_of_writes h₁ hg₂₁, Call.emptyNamespaces_run_of_writes h₂ hg₂,
      Call.fillNamespace_comm]
  obtain ⟨f₁, hf₁, -⟩ := hc₁₂.runAll_eq_some cs
  obtain ⟨f₂, hf₂, -⟩ := hc₂₁.runAll_eq_some cs
  have hrel := (Indistinguishable.of_observe hc₁₂ hc₂₁ hobs (congrFun hempty)).runAll cs
  rw [hf₁, hf₂] at hrel
  cases hrel with
  | some h =>
    refine ⟨f₁, f₂, ?_, ?_, indistinguishable_iff_answers.1 h⟩
    · rw [Call.runAll, hg₁, Option.some_bind, Call.runAll, hg₁₂, Option.some_bind, hf₁]
    · rw [Call.runAll, hg₂, Option.some_bind, Call.runAll, hg₂₁, Option.some_bind, hf₂]

theorem writes_on_distinct_identities_commute_one_file :
    let a : UnversionedObjectID := ⟨⟨"", "Car"⟩, ⟨"a", ""⟩⟩
    let b : UnversionedObjectID := ⟨⟨"", "Car"⟩, ⟨"b", ""⟩⟩
    let f := newGenericFileFinder.setMapping b ⟨"", "cars.yaml"⟩
    Consistent f ∧ a ≠ b ∧ ∃ f₁ f₂,
      Call.runAll [.setMapping a ⟨"", "cars.yaml"⟩, .deleteMapping b] f = some f₁ ∧
      Call.runAll [.deleteMapping b, .setMapping a ⟨"", "cars.yaml"⟩] f = some f₂ ∧
      ∀ r : Read, (r.run f₁).1 = (r.run f₂).1 := by
  intro a b f
  have hf : Consistent f := (Reachable.step (.setMapping _ _) .init rfl).consistent
  have hab : a ≠ b := by decide
  have h₁ : (Call.setMapping a ⟨"", "cars.yaml"⟩).writes = some a := rfl
  have h₂ : (Call.deleteMapping b).writes = some b := rfl
  exact ⟨hf, hab, writes_on_distinct_identities_commute hf h₁ h₂ hab []⟩

/-! ## A write undone -/

/-- **`DeleteMapping` undoes `SetMapping` of an untracked identity.** From a reachable state in
which `id` is untracked and not in the set of `cp.Path`, `SetMapping(id, cp)` followed by
`DeleteMapping(id)` returns, and every read answers as before the two calls: the set of
`cp.Path` is what it was, its entry gone again if it had none, and the namespace of `id` is
listed again exactly when another identity lives in it. -/
theorem setMapping_deleteMapping_round_trip (hf : Reachable f) {id : UnversionedObjectID}
    {cp : ChecksumPath} (hget : (f.getMapping id).1 = none) (hpath : ¬ f.MemObjectsAt cp.path id) :
    ∃ f', Call.runAll [.setMapping id cp, .deleteMapping id] f = some f' ∧
      ∀ r : Read, (r.run f').1 = (r.run f).1 := by
  have hs : Consistent (f.setMapping id cp) := hf.consistent.call (c := .setMapping id cp) rfl
  obtain ⟨f', hd⟩ := Option.ne_none_iff_exists'.1 (hs.deleteMapping_ne_none id)
  have hobj : id ∉ f.observe.objects cp.path := fun h =>
    hpath ((memObjectsAt_iff ..).2 ((mem_getD_iff ..).1 h))
  have hobs : f'.observe = f.observe := by
    rw [observe_of_deleteMapping id hd, observe_setMapping,
      Observation.setMapping_deleteMapping _ hget hobj]
  have hpruned : (f.setMapping id cp).branch.Pruned := hf.pruned.alterNamespace _ _ _
  have hempty (gk : GroupKind) :
      f'.branch.emptyNamespaces gk = f.branch.emptyNamespaces gk := by
    rw [emptyNamespaces_of_deleteMapping _ id hd, hpruned gk, hf.pruned gk]
  have hrun : Call.runAll [.setMapping id cp, .deleteMapping id] f = some f' := by
    rw [Call.runAll, Call.run, Option.some_bind, Call.runAll, Call.run, hd]
    rfl
  exact ⟨f', hrun, indistinguishable_iff_answers.1
    (Indistinguishable.of_observe (hs.call (c := .deleteMapping id) hd) hf.consistent hobs
      hempty)⟩

theorem setMapping_deleteMapping_round_trip_empty_cache :
    let id : UnversionedObjectID := ⟨⟨"", "Car"⟩, ⟨"car", "default"⟩⟩
    Reachable newGenericFileFinder ∧ (newGenericFileFinder.getMapping id).1 = none ∧
      ¬ newGenericFileFinder.MemObjectsAt "car.yaml" id ∧
      ∃ f', Call.runAll [.setMapping id ⟨"", "car.yaml"⟩, .deleteMapping id]
          newGenericFileFinder = some f' ∧
        ∀ r : Read, (r.run f').1 = (r.run newGenericFileFinder).1 := by
  intro id
  have hpath :
      ¬ newGenericFileFinder.MemObjectsAt (ChecksumPath.path ⟨"", "car.yaml"⟩) id := by
    rintro ⟨ids, h, -⟩
    cases h
  exact ⟨.init, rfl, hpath, setMapping_deleteMapping_round_trip .init rfl hpath⟩

end GitopsToolkit
