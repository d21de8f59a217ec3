import GitopsToolkit.Storage.Reset

/-!
# The namespaces of a GroupKind

`ListNamespaces(gk)` lists the keys of `branch.groupKind(gk).raw()`. A namespace is listed when
a tracked identity of `gk` lives in it, or when its entry holds no name
(`Branch.mem_namespaces_iff`). No call leaves an entry without a name (`Branch.Pruned.run`):
`SetMapping` fills the namespace it writes, `DeleteMapping` prunes the namespace it empties,
reads write nothing, and `ResetMappings` starts again from an empty branch. So in every
reachable state `ListNamespaces(gk)` lists exactly the namespaces of the tracked identities of
`gk` (`listNamespaces_eq_tracked`): the partition stays consistent with the flat view.

Right after `ResetMappings(m)` the namespaces listed for `gk` are those of the identities of `gk`
in `m`, whatever the prior state (`mem_listNamespaces_resetMappings`).
-/

namespace GitopsToolkit

namespace GenericFileFinder

variable (f : GenericFileFinder) {f' : GenericFileFinder} (id : UnversionedObjectID)
  (gk : GroupKind) (ns : String)

@[simp] theorem listNamespaces_fst : (f.listNamespaces gk).1 = f.branch.namespaces gk := rfl

theorem mem_namespaces_setAll (es : List Entry) (f : GenericFileFinder) :
    ns ∈ (setAll es f).branch.namespaces gk ↔
      ns ∈ f.branch.namespaces gk ∨
        ∃ e ∈ es, e.1.groupKind = gk ∧ e.1.objectKey.namespace_ = ns := by
  induction es generalizing f with
  | nil => simp [setAll]
  | cons e es ih =>
    rw [setAll, List.foldl_cons, ← setAll, ih]
    simp only [setMapping, Branch.mem_namespaces_setName, List.mem_cons, exists_eq_or_imp]
    constructor
    · rintro ((⟨rfl, rfl⟩ | h) | h)
      exacts [.inr (.inl ⟨rfl, rfl⟩), .inl h, .inr (.inr h)]
    · rintro (h | ⟨rfl, rfl⟩ | h)
      exacts [.inl (.inr h), .inl (.inl ⟨rfl, rfl⟩), .inr h]

/-- Right after `ResetMappings(m)`, `ListNamespaces(gk)` lists exactly the namespaces of the
identities of `m` of GroupKind `gk`, whatever the prior state. -/
theorem mem_listNamespaces_resetMappings (m : GoMap UnversionedObjectID ChecksumPath) :
    ns ∈ ((f.resetMappings m).listNamespaces gk).1 ↔
      ∃ id ∈ m, id.groupKind = gk ∧ id.objectKey.namespace_ = ns := by
  rw [listNamespaces_fst, resetMappings_eq, mem_namespaces_setAll]
  simp only [Branch.namespaces_empty, Finset.not_mem_empty, false_or]
  constructor
  · rintro ⟨⟨id, cp⟩, h, hg, hn⟩
    exact ⟨id, AList.mem_keys.2 (List.mem_keys_of_mem h), hg, hn⟩
  · rintro ⟨id, h, hg, hn⟩
    obtain ⟨cp, h⟩ := List.mem_keys.1 (AList.mem_keys.1 h)
    exact ⟨⟨id, cp⟩, h, hg, hn⟩

/-! ## The namespaces without a name -/

theorem mem_emptyNamespaces_setMapping (cp : ChecksumPath) {gk' : GroupKind} {ns' : String} :
    ns' ∈ (f.setMapping id cp).branch.emptyNamespaces gk' ↔
      ¬ (gk' = id.groupKind ∧ ns' = id.objectKey.namespace_) ∧
        ns' ∈ f.branch.emptyNamespaces gk' :=
  Branch.mem_emptyNamespaces_alterNamespace ..

/-- `DeleteMapping` leaves no namespace without a name that had one: it deletes a name only from
a namespace where an identity lives, and prunes the namespace if that was the last one. -/
theorem emptyNamespaces_of_deleteMapping (h : f.deleteMapping id = some f') :
    f'.branch.emptyNamespaces = f.branch.emptyNamespaces := by
  rcases f.deleteMapping_cases id h with ⟨-, rfl⟩ | ⟨cp, ids, hg, -, rfl⟩
  · rfl
  · funext gk'
    ext ns'
    rw [Branch.deleteName, Branch.mem_emptyNamespaces_alterNamespace, and_iff_right_iff_imp]
    rintro he ⟨rfl, rfl⟩
    exact f.branch.not_mem_emptyNamespaces_of_get id hg he

end GenericFileFinder

/-! ## Every reachable branch is pruned -/

/-- No namespace entry of the branch is without a name. -/
def Branch.Pruned (b : Branch) : Prop := ∀ gk, b.emptyNamespaces gk = ∅

namespace Branch.Pruned

variable {b : Branch}

theorem empty : (∅ : Branch).Pruned := fun _ => rfl

theorem alterNamespace (h : b.Pruned) (gk : GroupKind) (ns : String) (update) :
    (b.alterNamespace gk ns update).Pruned := fun gk' =>
  Finset.eq_empty_of_forall_not_mem fun ns' hm => by
    rw [Branch.mem_emptyNamespaces_alterNamespace, h gk'] at hm
    exact Finset.not_mem_empty _ hm.2

/-- In a pruned branch a namespace is listed exactly when an identity lives in it. -/
theorem mem_namespaces_iff (h : b.Pruned) {gk : GroupKind} {ns : String} :
    ns ∈ b.namespaces gk ↔ ∃ name cp, b.get ⟨gk, ⟨name, ns⟩⟩ = some cp := by
  rw [Branch.mem_namespaces_iff, h gk, or_iff_right (Finset.not_mem_empty ns)]

open GenericFileFinder

variable {f f' : GenericFileFinder}

theorem setAll (h : f.branch.Pruned) (es : List Entry) : (setAll es f).branch.Pruned := by
  induction es generalizing f with
  | nil => exact h
  | cons e es ih => exact ih (h.alterNamespace _ _ _)

/-- **No call leaves a namespace without a name.** -/
theorem run (h : f.branch.Pruned) {c : Call} (hc : c.run f = some f') : f'.branch.Pruned := by
  cases c with
  | read r =>
    cases hc
    rwa [Read.run_snd]
  | setMapping id cp =>
    cases hc
    exact h.alterNamespace _ _ _
  | deleteMapping id =>
    rcases f.deleteMapping_cases id hc with ⟨-, rfl⟩ | ⟨cp, ids, -, -, rfl⟩
    exacts [h, h.alterNamespace _ _ _]
  | resetMappings m =>
    cases hc
    exact Pruned.setAll (f := { f with branch := ∅ }) empty _

end Branch.Pruned

theorem Reachable.pruned {f : GenericFileFinder} (h : Reachable f) : f.branch.Pruned := by
  induction h with
  | init => exact .empty
  | step c _ hc ih => exact ih.run hc

open GenericFileFinder

/-- **`ListNamespaces` lists exactly the namespaces of the tracked identities.** In every
reachable state, `ListNamespaces(gk)` lists a namespace exactly when `GetMapping` finds an
identity of GroupKind `gk` in it. A read leaves the list as it is, and `DeleteMapping` of the
last identity of a namespace takes the namespace out of it. -/
theorem listNamespaces_eq_tracked {f : GenericFileFinder} (hf : Reachable f) (gk : GroupKind) :
    (∀ ns, ns ∈ (f.listNamespaces gk).1 ↔
      ∃ id cp, id.groupKind = gk ∧ id.objectKey.namespace_ = ns ∧ (f.getMapping id).1 = some cp) ∧
    (∀ r : Read, ((r.run f).2.listNamespaces gk).1 = (f.listNamespaces gk).1) ∧
    ∀ id f', id.groupKind = gk → f.deleteMapping id = some f' →
      (∀ id', id' ≠ id → id'.groupKind = gk →
        id'.objectKey.namespace_ = id.objectKey.namespace_ → (f.getMapping id').1 = none) →
      id.objectKey.namespace_ ∉ (f'.listNamespaces gk).1 := by
  have htracked {g : GenericFileFinder} (hg : Reachable g) (ns : String) :
      ns ∈ (g.listNamespaces gk).1 ↔
        ∃ id cp, id.groupKind = gk ∧ id.objectKey.namespace_ = ns ∧ (g.getMapping id).1 = some cp := by
    rw [listNamespaces_fst, hg.pruned.mem_namespaces_iff]
    constructor
    · rintro ⟨name, cp, h⟩
      exact ⟨⟨gk, ⟨name, ns⟩⟩, cp, rfl, rfl, h⟩
    · rintro ⟨⟨gk', ⟨name, ns'⟩⟩, cp, rfl, rfl, h⟩
      exact ⟨name, cp, h⟩
  refine ⟨htracked hf, fun r => by rw [Read.run_snd], ?_⟩
  rintro id f' rfl hd hlast hmem
  obtain ⟨id', cp, hgk, hns, hget⟩ := (htracked (hf.step (.deleteMapping id) hd) _).1 hmem
  rw [getMapping_fst, get_of_deleteMapping f id id' hd] at hget
  split_ifs at hget with he
  rw [← getMapping_fst, hlast id' he hgk hns] at hget
  cases hget

theorem listNamespaces_eq_tracked_one_object :
    let id : UnversionedObjectID := ⟨⟨"", "Car"⟩, ⟨"car", "default"⟩⟩
    let f := newGenericFileFinder.setMapping id ⟨"", "car.yaml"⟩
    Reachable f ∧ "default" ∈ (f.listNamespaces ⟨"", "Car"⟩).1 ∧
      ∃ f', f.deleteMapping id = some f' ∧ "default" ∉ (f'.listNamespaces ⟨"", "Car"⟩).1 := by
  intro id f
  have h : Reachable f := .step (.setMapping _ _) .init rfl
  obtain ⟨f', hd⟩ := Option.ne_none_iff_exists'.1 (h.consistent.deleteMapping_ne_none id)
  have hc := listNamespaces_eq_tracked h ⟨"", "Car"⟩
  refine ⟨h, (hc.1 _).2 ⟨id, ⟨"", "car.yaml"⟩, rfl, rfl, by simp [f, get_setMapping]⟩, f', hd,
    hc.2.2 id f' rfl hd fun id' hne _ _ => ?_⟩
  simp [f, get_setMapping, hne, newGenericFileFinder]

end GitopsToolkit
