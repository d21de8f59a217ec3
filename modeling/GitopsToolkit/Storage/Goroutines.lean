import Mathlib.Logic.Relation
import GitopsToolkit.Storage.Concurrent
import GitopsToolkit.Storage.Refinement

/-!
# Goroutines sharing the cache

Every method of `GenericFileFinder` holds `mu` for its whole body, except `ResetMappings`: it
stores a fresh branch without the lock and then calls `SetMapping`, which takes the lock, once
per entry (`resetSteps`). With each critical section one atomic step (`AtomicStep`), a goroutine
that runs a sequence of calls runs the atomic steps of each (`Call.atomicSteps`), and the
goroutines interleave their steps in any order (`Config.Step`). Alone, a goroutine runs its
calls as the sequential model does (`AtomicStep.runAll_atomicSteps`).

The reads hold only the read lock, so several of them can be inside `mu` at once. A read writes
nothing (`Read.run_snd`), and no writer holds the lock while it runs: the state is the same
throughout a set of overlapping read sections, and each read answers as it would alone on that
state (`AtomicStep.run_read`). Overlapping read sections therefore reach the states and answers
of the same reads one after another, and a read is one atomic step here.

The unlocked store is itself a sequential call: it leaves the state that `ResetMappings` of an
empty map leaves. So every state of every interleaving is one that a sequential run of calls
reaches, the invariant `Consistent` holds in it, and no goroutine's next step panics
(`interleavings_reach_sequential_states`). What the interleaving breaks is the atomicity of
`ResetMappings`: a goroutine whose writes land between the unlocked store and the `SetMapping`s
can lose its later write and keep its earlier one, an outcome of no sequential order of the
calls (`reset_loses_later_write`).
-/

namespace GitopsToolkit

/-- An atomic step of a goroutine: one critical section under `mu`, or the unlocked store of a
fresh branch with which `ResetMappings` begins. -/
inductive AtomicStep
  | locked (c : Call)
  | storeFreshBranch

/-- The state an atomic step leaves, `none` when it panics. -/
def AtomicStep.run : AtomicStep → GenericFileFinder → Option GenericFileFinder
  | .locked c, f => c.run f
  | .storeFreshBranch, f => some { f with branch := ∅ }

/-- A read step leaves the cache as it found it. Writers are kept out of `mu` while it runs, so
read sections that overlap all see one state. -/
@[simp] theorem AtomicStep.run_read (r : Read) (f : GenericFileFinder) :
    (AtomicStep.locked (.read r)).run f = some f := by
  rw [AtomicStep.run, Call.run, Read.run_snd]

/-- Atomic steps run one after another, `none` when one of them panics. -/
def AtomicStep.runAll : List AtomicStep → GenericFileFinder → Option GenericFileFinder
  | [], f => some f
  | a :: as, f => (a.run f).bind (AtomicStep.runAll as)

/-- A step of `ResetMappings` as an atomic step of the goroutine that runs it: the store of the
fresh branch is unlocked, and each `SetMapping` is a critical section. -/
def ResetStep.toAtomicStep : ResetStep → AtomicStep
  | .clearBranch => .storeFreshBranch
  | .setMapping id cp => .locked (.setMapping id cp)

/-- The atomic steps of a call: one critical section, except for `ResetMappings(m)`, whose
steps are `resetSteps m`. -/
def Call.atomicSteps : Call → List AtomicStep
  | .resetMappings m => (resetSteps m).map ResetStep.toAtomicStep
  | c => [.locked c]

/-- The goroutines' remaining atomic steps, and the cache they share. -/
structure Config where
  threads : List (List AtomicStep)
  cache : GenericFileFinder

/-- Goroutines that each run a sequence of calls on the cache `f`. -/
def Config.init (programs : List (List Call)) (f : GenericFileFinder) : Config :=
  ⟨programs.map (·.flatMap Call.atomicSteps), f⟩

/-- One goroutine takes its next atomic step. A step that panics has no successor. -/
inductive Config.Step : Config → Config → Prop
  | step {cfg : Config} {n : Nat} {a : AtomicStep} {rest : List AtomicStep}
      {f' : GenericFileFinder} :
      cfg.threads[n]? = some (a :: rest) → a.run cfg.cache = some f' →
      Config.Step cfg ⟨cfg.threads.set n rest, f'⟩

/-- No goroutine's next atomic step panics. -/
def Config.NoPanic (cfg : Config) : Prop :=
  ∀ (n : Nat) (a : AtomicStep) (rest : List AtomicStep),
    cfg.threads[n]? = some (a :: rest) → a.run cfg.cache ≠ none

/-! ## A goroutine alone runs its calls -/

theorem AtomicStep.runAll_map_toAtomicStep (ss : List ResetStep) (f : GenericFileFinder) :
    AtomicStep.runAll (ss.map ResetStep.toAtomicStep) f =
      some (ss.foldl (fun f s => s.apply f) f) := by
  induction ss generalizing f with
  | nil => rfl
  | cons s ss ih =>
    cases s
    all_goals exact ih _

/-- The atomic steps of a call, run one after another, do what the call does. -/
theorem AtomicStep.runAll_atomicSteps (c : Call) (f : GenericFileFinder) :
    AtomicStep.runAll c.atomicSteps f = c.run f := by
  cases c with
  | resetMappings m =>
    rw [Call.atomicSteps, AtomicStep.runAll_map_toAtomicStep,
      ← resetMappings_eq_foldl_resetSteps]
    rfl
  | _ => exact Option.bind_some _

/-! ## Every interleaving stays in the sequential states -/

variable {f f' : GenericFileFinder}

/-- The unlocked store of a fresh branch leaves the state of `ResetMappings(∅)`. -/
theorem AtomicStep.run_storeFreshBranch :
    AtomicStep.storeFreshBranch.run f = Call.run (.resetMappings ∅) f := rfl

theorem Reachable.atomicStep (hf : Reachable f) {a : AtomicStep} (h : a.run f = some f') :
    Reachable f' := by
  cases a with
  | locked c => exact .step c hf h
  | storeFreshBranch => exact .step (.resetMappings ∅) hf h

theorem Reachable.atomicStep_ne_none (hf : Reachable f) (a : AtomicStep) : a.run f ≠ none := by
  cases a with
  | locked c =>
    cases c with
    | deleteMapping id => exact hf.consistent.deleteMapping_ne_none id
    | read r | setMapping id cp | resetMappings m => exact Option.some_ne_none _
  | storeFreshBranch => exact Option.some_ne_none _

theorem Config.Step.reachable {cfg cfg' : Config} (h : Config.Step cfg cfg')
    (hf : Reachable cfg.cache) : Reachable cfg'.cache := by
  cases h with
  | step _ ha => exact hf.atomicStep ha

theorem Config.noPanic_of_reachable {cfg : Config} (hf : Reachable cfg.cache) :
    cfg.NoPanic := by
  intro _ a _ _
  exact hf.atomicStep_ne_none a

/-- **Every interleaving of goroutines stays in the sequential states.** Goroutines that each
run a sequence of calls from a reachable state, with `ResetMappings` split into its unlocked
store and its locked `SetMapping`s, interleaved in any order: every state they reach is reached
by a sequential run of calls, so it is consistent, and no goroutine's next step panics. Reads
are single steps: they write nothing (`Read.run_snd`), so overlapping read-lock sections reach
what sequential ones do. -/
theorem interleavings_reach_sequential_states (hf : Reachable f) (programs : List (List Call))
    {cfg : Config} (h : Relation.ReflTransGen Config.Step (Config.init programs f) cfg) :
    Reachable cfg.cache ∧ Consistent cfg.cache ∧ cfg.NoPanic := by
  have hr : Reachable cfg.cache := by
    induction h with
    | refl => exact hf
    | tail _ hs ih => exact hs.reachable ih
  exact ⟨hr, hr.consistent, Config.noPanic_of_reachable hr⟩

theorem interleavings_reach_sequential_states_reset_beside_delete :
    let id : UnversionedObjectID := ⟨⟨"", "Car"⟩, ⟨"car", ""⟩⟩
    let f := newGenericFileFinder.setMapping id ⟨"", "a.yaml"⟩
    let programs := [[Call.resetMappings (AList.singleton id ⟨"", "b.yaml"⟩)], [.deleteMapping id]]
    ∃ cfg : Config, Reachable f ∧ Relation.ReflTransGen Config.Step (Config.init programs f) cfg ∧
      cfg.threads = [[], []] ∧ Reachable cfg.cache ∧ Consistent cfg.cache ∧ cfg.NoPanic := by
  intro id f programs
  have hf : Reachable f := .step (.setMapping _ _) .init rfl
  have h : Relation.ReflTransGen Config.Step (Config.init programs f) _ :=
    .tail (.tail (.single (.step (n := 0) rfl rfl)) (.step (n := 1) rfl rfl))
      (.step (n := 0) rfl rfl)
  exact ⟨_, hf, h, rfl, interleavings_reach_sequential_states hf programs h⟩

/-! ## A write lost to `ResetMappings` -/

open GenericFileFinder

/-- A goroutine can run its remaining atomic steps one after another. -/
theorem Config.reflTransGen_runThread {as : List AtomicStep} :
    ∀ {cfg : Config} {n : Nat} {f' : GenericFileFinder}, cfg.threads[n]? = some as →
      AtomicStep.runAll as cfg.cache = some f' →
      Relation.ReflTransGen Config.Step cfg ⟨cfg.threads.set n [], f'⟩ := by
  induction as with
  | nil =>
    intro cfg n f' hn h
    cases h
    have hset : cfg.threads.set n [] = cfg.threads := List.ext_getElem? fun j => by
      rw [List.getElem?_set']
      split_ifs with hj
      · rw [← hj, hn]
        rfl
      · rfl
    rw [hset]
  | cons a as ih =>
    intro cfg n f' hn h
    obtain ⟨f₁, h₁, h'⟩ := Option.bind_eq_some.1 h
    have hlt : n < cfg.threads.length := (List.getElem?_eq_some_iff.1 hn).1
    have hrest : Relation.ReflTransGen Config.Step ⟨cfg.threads.set n as, f₁⟩
        ⟨(cfg.threads.set n as).set n [], f'⟩ := ih (List.getElem?_set_self hlt) h'
    rw [List.set_set] at hrest
    exact .head (.step hn h₁) hrest

/-- **`ResetMappings` can lose a later write and keep an earlier one.** Let `M` map `a` to `cp`
and have no entry for `b`. A goroutine runs `SetMapping(b, cpb)` and then `SetMapping(a, cpa)`
with `cpa ≠ cp`, and both land between the unlocked store of `ResetMappings(M)` and its
`SetMapping`s. Then `GetMapping` ends with `a` at `cp` and `b` at `cpb`: the later write is lost
and the earlier one kept. No order of the three calls that keeps the goroutine's order ends in
that map. -/
theorem reset_loses_later_write (f : GenericFileFinder) (m : GoMap UnversionedObjectID ChecksumPath)
    {a b : UnversionedObjectID} {cp cpa cpb : ChecksumPath} (hab : a ≠ b)
    (ha : m.lookup a = some cp) (hcp : cp ≠ cpa) (hb : m.lookup b = none) :
    ∃ cfg : Config, Relation.ReflTransGen Config.Step
        (Config.init [[.resetMappings m], [.setMapping b cpb, .setMapping a cpa]] f) cfg ∧
      cfg.threads = [[], []] ∧ cfg.cache.view a = some cp ∧ cfg.cache.view b = some cpb ∧
      ∀ order ∈ [[Call.resetMappings m, .setMapping b cpb, .setMapping a cpa],
          [.setMapping b cpb, .resetMappings m, .setMapping a cpa],
          [.setMapping b cpb, .setMapping a cpa, .resetMappings m]],
        ∀ f', Call.runAll order f = some f' → f'.view ≠ cfg.cache.view := by
  let f₂ := ({ f with branch := ∅ }.setMapping b cpb).setMapping a cpa
  let rest := (m.entries.map fun e => ResetStep.setMapping e.1 e.2).map ResetStep.toAtomicStep
  -- the unlocked store, then the goroutine's two writes, then the `SetMapping`s of `M`
  have h₁ : Relation.ReflTransGen Config.Step
      (Config.init [[.resetMappings m], [.setMapping b cpb, .setMapping a cpa]] f)
      ⟨[rest ++ [], []], f₂⟩ := by
    refine .head (.step (n := 0) rfl rfl) ?_
    exact Config.reflTransGen_runThread (n := 1) rfl rfl
  have h₂ : Relation.ReflTransGen Config.Step ⟨[rest ++ [], []], f₂⟩
      ⟨[[], []], setAll m.entries f₂⟩ :=
    Config.reflTransGen_runThread (n := 0) rfl
      (by
        show AtomicStep.runAll (rest ++ []) f₂ = _
        rw [List.append_nil, AtomicStep.runAll_map_toAtomicStep, List.foldl_map]
        rfl)
  have hview : ∀ id, (setAll m.entries f₂).view id = (m.lookup id).or (f₂.branch.get id) :=
    fun id => get_setAll id m.nodupKeys f₂
  have hva : (setAll m.entries f₂).view a = some cp := by rw [hview, ha, Option.or_some]
  have hvb : (setAll m.entries f₂).view b = some cpb := by
    rw [hview, hb, Option.none_or, get_setMapping, if_neg hab.symm, get_setMapping, if_pos rfl]
  -- an order that ends with `SetMapping(a, cpa)` leaves `a` at `cpa`; one that ends with
  -- `ResetMappings(M)` leaves `b` unmapped
  have hlast_a (g : GenericFileFinder) :
      (g.setMapping a cpa).view ≠ (setAll m.entries f₂).view :=
    fun hv => hcp (Option.some.inj (hva.symm.trans ((congrFun hv a).symm.trans
      (by rw [view, getMapping_fst, get_setMapping, if_pos rfl]))))
  have hlast_b (g : GenericFileFinder) :
      (g.resetMappings m).view ≠ (setAll m.entries f₂).view :=
    fun hv => Option.noConfusion (((congrFun hv b).trans hvb).symm.trans
      (by rw [view, getMapping_fst, get_resetMappings, hb]))
  refine ⟨⟨[[], []], setAll m.entries f₂⟩, h₁.trans h₂, rfl, hva, hvb, ?_⟩
  simp only [List.mem_cons, List.mem_singleton, List.not_mem_nil, or_false]
  rintro order (rfl | rfl | rfl) f' h' <;> cases h'
  exacts [hlast_a _, hlast_a _, hlast_b _]

theorem reset_loses_later_write_two_cars :
    let a : UnversionedObjectID := ⟨⟨"", "Car"⟩, ⟨"a", ""⟩⟩
    let b : UnversionedObjectID := ⟨⟨"", "Car"⟩, ⟨"b", ""⟩⟩
    let m : GoMap UnversionedObjectID ChecksumPath := AList.singleton a ⟨"", "a1.yaml"⟩
    let cp : ChecksumPath := ⟨"", "a1.yaml"⟩
    let cpa : ChecksumPath := ⟨"", "a2.yaml"⟩
    let cpb : ChecksumPath := ⟨"", "b.yaml"⟩
    a ≠ b ∧ m.lookup a = some cp ∧ cp ≠ cpa ∧ m.lookup b = none ∧
      ∃ cfg : Config, Relation.ReflTransGen Config.Step
          (Config.init [[.resetMappings m], [.setMapping b cpb, .setMapping a cpa]]
            newGenericFileFinder) cfg ∧
        cfg.threads = [[], []] ∧ cfg.cache.view a = some cp ∧ cfg.cache.view b = some cpb ∧
        ∀ order ∈ [[Call.resetMappings m, .setMapping b cpb, .setMapping a cpa],
            [.setMapping b cpb, .resetMappings m, .setMapping a cpa],
            [.setMapping b cpb, .setMapping a cpa, .resetMappings m]],
          ∀ f', Call.runAll order newGenericFileFinder = some f' → f'.view ≠ cfg.cache.view := by
  intro a b m cp cpa cpb
  have hab : a ≠ b := by decide
  have ha : m.lookup a = some cp := by decide
  have hcp : cp ≠ cpa := by decide
  have hb : m.lookup b = none := by decide
  exact ⟨hab, ha, hcp, hb, reset_loses_later_write newGenericFileFinder m hab ha hcp hb⟩

end GitopsToolkit
