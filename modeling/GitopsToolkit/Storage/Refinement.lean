import GitopsToolkit.Storage.Reset

/-!
# The cache refines a finite map

What the cache is for: a finite map from each tracked identity to the file and checksum that
back it. `SetMapping(id, cp)` maps `id` to `cp`, `DeleteMapping(id)` unmaps it,
`ResetMappings(m)` replaces the whole map by `m`, and reads leave it alone (`Call.spec`). A
state of the cache stands for the map that `GetMapping` reads (`GenericFileFinder.view`).

* `Consistent.call_refines`: from a consistent state every call returns, and it leaves the
  map that `Call.spec` says.
* `runAll_refines`: from a reachable state every sequence of calls runs to its end without a
  panic, and the final state stands for the map the calls make out of the first one.
-/

namespace GitopsToolkit

/-- The file and checksum of each tracked identity. -/
abbrev Mapping := UnversionedObjectID → Option ChecksumPath

/-- The map a state of the cache stands for: what `GetMapping` answers for each identity. -/
def GenericFileFinder.view (f : GenericFileFinder) : Mapping := fun id => (f.getMapping id).1

/-- What a call does to the map. -/
def Call.spec : Call → Mapping → Mapping
  | .read _, v => v
  | .setMapping id cp, v => Function.update v id (some cp)
  | .deleteMapping id, v => Function.update v id none
  | .resetMappings m, _ => m.lookup

open GenericFileFinder

variable {f : GenericFileFinder}

theorem Consistent.call_refines (h : Consistent f) (c : Call) :
    ∃ f', c.run f = some f' ∧ f'.view = c.spec f.view := by
  cases c with
  | read r => exact ⟨_, rfl, by rw [Read.run_snd]; rfl⟩
  | setMapping id cp =>
    refine ⟨_, rfl, funext fun id' => ?_⟩
    rw [Call.spec, Function.update_apply, view, getMapping_fst, get_setMapping]
    rfl
  | deleteMapping id =>
    obtain ⟨f', hd⟩ := Option.ne_none_iff_exists'.1 (h.deleteMapping_ne_none id)
    refine ⟨f', hd, funext fun id' => ?_⟩
    rw [Call.spec, Function.update_apply, view, getMapping_fst, get_of_deleteMapping f id id' hd]
    rfl
  | resetMappings m => exact ⟨_, rfl, funext (get_resetMappings f · m)⟩

/-- **Every run of calls refines the map.** From a reachable state, every sequence of calls runs
to its end without a panic, into a reachable state whose `GetMapping` answers what the map
answers after the same calls: `SetMapping` updates one entry, `DeleteMapping` removes one,
`ResetMappings(m)` replaces the map by `m`, and reads change nothing. -/
theorem runAll_refines (hf : Reachable f) (cs : List Call) :
    ∃ f', Call.runAll cs f = some f' ∧ Reachable f' ∧
      f'.view = cs.foldl (fun v c => c.spec v) f.view := by
  induction cs generalizing f with
  | nil => exact ⟨f, rfl, hf, rfl⟩
  | cons c cs ih =>
    obtain ⟨f₁, h₁, hv₁⟩ := hf.consistent.call_refines c
    obtain ⟨f', h', hr', hv'⟩ := ih (hf.step c h₁)
    refine ⟨f', ?_, hr', ?_⟩
    · rw [Call.runAll, h₁]
      exact h'
    · rw [hv', hv₁, List.foldl_cons]

theorem runAll_refines_set_then_delete :
    let id : UnversionedObjectID := ⟨⟨"", "Car"⟩, ⟨"car", ""⟩⟩
    Reachable newGenericFileFinder ∧ ∃ f', Call.runAll
      [.setMapping id ⟨"", "car.yaml"⟩, .deleteMapping id] newGenericFileFinder = some f' ∧
      Reachable f' ∧ f'.view = [Call.setMapping id ⟨"", "car.yaml"⟩, .deleteMapping id].foldl
        (fun v c => c.spec v) newGenericFileFinder.view :=
  ⟨.init, runAll_refines .init _⟩

end GitopsToolkit
