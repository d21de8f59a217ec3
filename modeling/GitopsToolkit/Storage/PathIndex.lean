import GitopsToolkit.Storage.Reset

/-!
# The path index over runs

`pathToIDs` is the index from a file path to the identities stored in it, which `ObjectsAt`
answers from. Only two things change it. `SetMapping(id, cp)` and `ResetMappings(m)` insert an
identity into the set of the path they map it to. `DeleteMapping(id)` removes `id` from the set
of the path `GetMapping(id)` maps it to at that moment, and from no other set. So over a whole
run of calls:

* an identity is in `ObjectsAt(p)` after the run only if it was there before, or some call of
  the run mapped it to `p` (`memObjectsAt_runAll_mapped`);
* an identity leaves `ObjectsAt(p)` only through a `DeleteMapping` of itself, issued while it
  is mapped to `p` (`memObjectsAt_runAll_removed`). A stale entry, left at a path the identity
  has moved away from, stays until the identity is mapped back to that path and deleted.
-/

namespace GitopsToolkit

/-- The call maps `id` to a file at `p`: a `SetMapping(id, cp)` with `cp.Path = p`, or a
`ResetMappings(m)` with `m[id].Path = p`. -/
def Call.MapsTo : Call → UnversionedObjectID → String → Prop
  | .setMapping id' cp, id, p => id' = id ∧ cp.path = p
  | .resetMappings m, id, p => (m.lookup id).map ChecksumPath.path = some p
  | .read _, _, _ | .deleteMapping _, _, _ => False

instance (c : Call) (id : UnversionedObjectID) (p : String) : Decidable (c.MapsTo id p) :=
  match c with
  | .setMapping id' cp => inferInstanceAs (Decidable (id' = id ∧ cp.path = p))
  | .resetMappings m => inferInstanceAs (Decidable ((m.lookup id).map ChecksumPath.path = some p))
  | .read _ | .deleteMapping _ => inferInstanceAs (Decidable False)

namespace GenericFileFinder

variable {f f' : GenericFileFinder} {id : UnversionedObjectID} {p : String}

/-- After `DeleteMapping(id)`, `id` is in the sets it was in, except that of the path it was
mapped to. -/
theorem memObjectsAt_deleteMapping_self (h : f.deleteMapping id = some f') :
    f'.MemObjectsAt p id ↔
      f.MemObjectsAt p id ∧ (f.branch.get id).map ChecksumPath.path ≠ some p := by
  rcases f.deleteMapping_cases id h with ⟨hg, rfl⟩ | ⟨cp, ids, hg, -, rfl⟩
  · simp only [hg, Option.map_none', ne_eq, reduceCtorEq, not_false_eq_true, and_true]
  · simp only [memObjectsAt_iff, lookup_pruneID, hg, Option.map_some', ne_eq,
      Option.some.injEq]
    by_cases hp : p = cp.path
    · subst hp
      rw [if_pos rfl]
      split_ifs <;> simp
    · simp only [if_neg hp, Ne.symm hp, not_false_eq_true, and_true]

end GenericFileFinder

open GenericFileFinder

namespace Call

variable {f f' : GenericFileFinder} {id : UnversionedObjectID} {p : String}

theorem runAll_cons_eq_some {c : Call} {cs : List Call} :
    runAll (c :: cs) f = some f' ↔ ∃ g, c.run f = some g ∧ runAll cs g = some f' :=
  Option.bind_eq_some

/-- One call puts `id` into `ObjectsAt(p)` only by mapping it to `p`. -/
theorem memObjectsAt_of_run {c : Call} (h : c.run f = some f') (hm : f'.MemObjectsAt p id) :
    f.MemObjectsAt p id ∨ c.MapsTo id p := by
  cases c with
  | read r =>
    cases h
    exact .inl (Read.run_snd r f ▸ hm)
  | setMapping id' cp =>
    cases h
    rcases (memObjectsAt_setMapping ..).1 hm with ⟨rfl, rfl⟩ | hm
    exacts [.inr ⟨rfl, rfl⟩, .inl hm]
  | deleteMapping id' =>
    by_cases he : id = id'
    · subst he
      exact .inl ((memObjectsAt_deleteMapping_self h).1 hm).1
    · exact .inl ((memObjectsAt_of_deleteMapping f id' id p h he).1 hm)
  | resetMappings m =>
    cases h
    rcases (memObjectsAt_setAll ..).1 hm with ⟨e, he, rfl, rfl⟩ | hm
    · exact .inr (by rw [MapsTo, AList.mem_lookup_iff.2 he, Option.map_some'])
    · exact .inl hm

/-- One call takes `id` out of `ObjectsAt(p)` only if it is `DeleteMapping(id)` and `id` is
mapped to `p`. -/
theorem memObjectsAt_run_of_memObjectsAt {c : Call} (h : c.run f = some f')
    (hm : f.MemObjectsAt p id) :
    f'.MemObjectsAt p id ∨
      (c = .deleteMapping id ∧ (f.branch.get id).map ChecksumPath.path = some p) := by
  cases c with
  | read r =>
    cases h
    exact .inl ((Read.run_snd r f).symm ▸ hm)
  | setMapping id' cp =>
    cases h
    exact .inl (memObjectsAt_setMapping_of_memObjectsAt _ _ _ _ _ hm)
  | deleteMapping id' =>
    by_cases he : id = id'
    · subst he
      by_cases hp : (f.branch.get id).map ChecksumPath.path = some p
      · exact .inr ⟨rfl, hp⟩
      · exact .inl ((memObjectsAt_deleteMapping_self h).2 ⟨hm, hp⟩)
    · exact .inl ((memObjectsAt_of_deleteMapping f id' id p h he).2 hm)
  | resetMappings m =>
    cases h
    exact .inl ((memObjectsAt_setAll ..).2 (.inr hm))

end Call

variable {f f' : GenericFileFinder} {id : UnversionedObjectID} {p : String}

/-- **Nothing is in `ObjectsAt` that no call put there.** After any run of calls that does not
panic, an identity in `ObjectsAt(p)` was there before the run, or some call of the run mapped it
to `p`. -/
theorem memObjectsAt_runAll_mapped {cs : List Call} (h : Call.runAll cs f = some f')
    (hm : f'.MemObjectsAt p id) : f.MemObjectsAt p id ∨ ∃ c ∈ cs, c.MapsTo id p := by
  induction cs generalizing f with
  | nil =>
    cases h
    exact .inl hm
  | cons c cs ih =>
    obtain ⟨g, hc, hcs⟩ := Call.runAll_cons_eq_some.1 h
    rcases ih hcs with hg | ⟨c', hc', hmap⟩
    · exact (Call.memObjectsAt_of_run hc hg).imp_right fun hmap => ⟨c, .head _, hmap⟩
    · exact .inr ⟨c', .tail _ hc', hmap⟩

theorem memObjectsAt_runAll_mapped_moved_object :
    let id : UnversionedObjectID := ⟨⟨"", "Car"⟩, ⟨"car", ""⟩⟩
    let f := newGenericFileFinder.setMapping id ⟨"", "a.yaml"⟩
    let cs := [Call.setMapping id ⟨"", "b.yaml"⟩]
    Call.runAll cs f = some (f.setMapping id ⟨"", "b.yaml"⟩) ∧
      (f.setMapping id ⟨"", "b.yaml"⟩).MemObjectsAt "b.yaml" id ∧
      (f.MemObjectsAt "b.yaml" id ∨ ∃ c ∈ cs, c.MapsTo id "b.yaml") := by
  intro id f cs
  have hm := (memObjectsAt_setMapping f id id ⟨"", "b.yaml"⟩ "b.yaml").2 (.inl ⟨rfl, rfl⟩)
  exact ⟨rfl, hm, memObjectsAt_runAll_mapped rfl hm⟩

/-- **Only a `DeleteMapping` at the identity's path takes it out of `ObjectsAt`.** If a run of
calls takes `id` out of `ObjectsAt(p)`, then the run has a `DeleteMapping(id)` that runs in a
state where `GetMapping(id)` maps `id` to `p`. -/
theorem memObjectsAt_runAll_removed {cs : List Call} (h : Call.runAll cs f = some f')
    (hm : f.MemObjectsAt p id) (hm' : ¬ f'.MemObjectsAt p id) :
    ∃ pre post g, cs = pre ++ .deleteMapping id :: post ∧ Call.runAll pre f = some g ∧
      (g.branch.get id).map ChecksumPath.path = some p := by
  induction cs generalizing f with
  | nil =>
    cases h
    exact absurd hm hm'
  | cons c cs ih =>
    obtain ⟨g, hc, hcs⟩ := Call.runAll_cons_eq_some.1 h
    rcases Call.memObjectsAt_run_of_memObjectsAt hc hm with hg | ⟨rfl, hp⟩
    · obtain ⟨pre, post, g', rfl, hpre, hp⟩ := ih hcs hg
      exact ⟨c :: pre, post, g', rfl, Call.runAll_cons_eq_some.2 ⟨g, hc, hpre⟩, hp⟩
    · exact ⟨[], cs, f, rfl, rfl, hp⟩

theorem memObjectsAt_runAll_removed_one_object :
    let id : UnversionedObjectID := ⟨⟨"", "Car"⟩, ⟨"car", ""⟩⟩
    let f := newGenericFileFinder.setMapping id ⟨"", "a.yaml"⟩
    ∃ f', Call.runAll [.deleteMapping id] f = some f' ∧ f.MemObjectsAt "a.yaml" id ∧
      ¬ f'.MemObjectsAt "a.yaml" id ∧
      ∃ pre post g, [Call.deleteMapping id] = pre ++ .deleteMapping id :: post ∧
        Call.runAll pre f = some g ∧ (g.branch.get id).map ChecksumPath.path = some "a.yaml" := by
  intro id f
  have hr : Reachable f := .step (.setMapping _ _) .init rfl
  obtain ⟨f', hd⟩ := Option.ne_none_iff_exists'.1 (hr.consistent.deleteMapping_ne_none id)
  have hg : (f.branch.get id).map ChecksumPath.path = some "a.yaml" := by
    simp [f, get_setMapping]
  have hrun : Call.runAll [.deleteMapping id] f = some f' :=
    Call.runAll_cons_eq_some.2 ⟨f', hd, rfl⟩
  have hm := (memObjectsAt_setMapping newGenericFileFinder id id ⟨"", "a.yaml"⟩ "a.yaml").2
    (.inl ⟨rfl, rfl⟩)
  have hm' : ¬ f'.MemObjectsAt "a.yaml" id := fun h =>
    ((memObjectsAt_deleteMapping_self hd).1 h).2 hg
  exact ⟨f', hrun, hm, hm', memObjectsAt_runAll_removed hrun hm hm'⟩

end GitopsToolkit
