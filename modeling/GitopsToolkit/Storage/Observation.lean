import GitopsToolkit.Storage.Partition

/-!
# States that answer alike

What a read of the cache can see is three views: the flat view `identity → ChecksumPath`, the
entry of each path in `pathToIDs`, and the namespaces listed for each GroupKind. Two states with
the same three views are `Indistinguishable`, and these are exactly the states on which every
read answers alike (`indistinguishable_iff_answers`). Go maps have no order where the model's
association lists keep one, and the order never shows.

Indistinguishable states stay indistinguishable under every call, and one panics exactly when
the other does (`Indistinguishable.call`). So the answers of all future reads, whatever calls
come first, depend only on the answers the reads give now (`runAll_answers_determined`): the
cache keeps no state that its reads do not show.

Every call is idempotent (`calls_idempotent`): run twice, it leaves every read answering as after
one run. For `ResetMappings` this rests on the sets of `pathToIDs`, which the reset does not
clear, already holding every identity the second run inserts.
-/

namespace GitopsToolkit

/-- Two branches with the same flat view and the same namespaces for every GroupKind. -/
structure Branch.Agree (b b' : Branch) : Prop where
  get : ∀ id, b.get id = b'.get id
  namespaces : ∀ gk, b.namespaces gk = b'.namespaces gk

namespace Branch.Agree

variable {b b' : Branch}

/-- Agreeing branches have the same namespaces without a name: those listed where the flat view
tracks no identity. -/
theorem emptyNamespaces (h : b.Agree b') (gk : GroupKind) :
    b.emptyNamespaces gk = b'.emptyNamespaces gk := by
  ext ns
  simp only [Branch.mem_emptyNamespaces, h.namespaces, h.get]

/-- Branches with the same flat view and the same namespaces without a name agree. -/
theorem of_emptyNamespaces (hget : ∀ id, b.get id = b'.get id)
    (hempty : ∀ gk, b.emptyNamespaces gk = b'.emptyNamespaces gk) : b.Agree b' :=
  ⟨hget, fun gk => by
    ext ns
    simp only [Branch.mem_namespaces_iff, hempty, hget]⟩

theorem alterNamespace (h : b.Agree b') {gk : GroupKind} {ns : String} {update}
    (hget : ∀ id,
      (b.alterNamespace gk ns update).get id = (b'.alterNamespace gk ns update).get id) :
    (b.alterNamespace gk ns update).Agree (b'.alterNamespace gk ns update) :=
  of_emptyNamespaces hget fun gk' => by
    ext ns'
    rw [Branch.mem_emptyNamespaces_alterNamespace, Branch.mem_emptyNamespaces_alterNamespace,
      h.emptyNamespaces]

theorem setName (h : b.Agree b') (id : UnversionedObjectID) (cp : ChecksumPath) :
    (b.setName id cp).Agree (b'.setName id cp) :=
  h.alterNamespace fun id' => show (b.setName id cp).get id' = (b'.setName id cp).get id' by
    rw [get_setName, get_setName, h.get]

theorem deleteName (h : b.Agree b') (id : UnversionedObjectID) :
    (b.deleteName id).Agree (b'.deleteName id) :=
  h.alterNamespace fun id' => show (b.deleteName id).get id' = (b'.deleteName id).get id' by
    rw [get_deleteName, get_deleteName, h.get]

end Branch.Agree

theorem optionRel_bind {α β γ δ : Type} {r : α → β → Prop} {s : γ → δ → Prop}
    {x : Option α} {y : Option β} (h : Option.Rel r x y) {k : α → Option γ}
    {k' : β → Option δ} (hk : ∀ a b, r a b → Option.Rel s (k a) (k' b)) :
    Option.Rel s (x.bind k) (y.bind k') := by
  cases h with
  | none => exact .none
  | some h => exact hk _ _ h

theorem optionRel_mono {α β : Type} {r s : α → β → Prop} {x : Option α} {y : Option β}
    (h : Option.Rel r x y) (hrs : ∀ a b, r a b → s a b) : Option.Rel s x y := by
  cases h with
  | none => exact .none
  | some h => exact .some (hrs _ _ h)

open GenericFileFinder

/-- Two states with the same flat view, the same namespaces, and the same entry for every path
of `pathToIDs`. -/
structure Indistinguishable (f g : GenericFileFinder) : Prop where
  branch : f.branch.Agree g.branch
  lookup : ∀ p, f.pathToIDs.lookup p = g.pathToIDs.lookup p

namespace Indistinguishable

variable {f g : GenericFileFinder}

/-! ## The reads see exactly the three views -/

theorem objectsAt_eq (h : Indistinguishable f g) (p : String) : f.objectsAt p = g.objectsAt p := by
  simp only [objectsAt, h.lookup p]

theorem lookup_eq_of_objectsAt_eq {p : String} (h : f.objectsAt p = g.objectsAt p) :
    f.pathToIDs.lookup p = g.pathToIDs.lookup p := by
  cases hf : f.pathToIDs.lookup p <;> cases hg : g.pathToIDs.lookup p <;>
    simp_all [objectsAt]

theorem answer_eq (h : Indistinguishable f g) (r : Read) : (r.run f).1 = (r.run g).1 := by
  cases r with
  | getMapping id => simp only [Read.run, getMapping_fst, h.branch.get id]
  | objectPath id => simp only [Read.run, objectPath_fst, h.branch.get id]
  | objectsAt p => simp only [Read.run, h.objectsAt_eq p]
  | listNamespaces gk => simp only [Read.run, listNamespaces, h.branch.namespaces gk]
  | listObjectIDs gk ns =>
    simp only [Read.run, Answer.objectIDs.injEq]
    ext id
    simp only [mem_listObjectIDs, h.branch.get id]

theorem of_answer_eq (h : ∀ r : Read, (r.run f).1 = (r.run g).1) : Indistinguishable f g where
  branch := ⟨fun id => Answer.mapping.inj (h (.getMapping id)),
    fun gk => Answer.namespaces.inj (h (.listNamespaces gk))⟩
  lookup p := lookup_eq_of_objectsAt_eq (Answer.objectsAt.inj (h (.objectsAt p)))

/-! ## Every call keeps it -/

theorem read (h : Indistinguishable f g) (r : Read) :
    Indistinguishable (r.run f).2 (r.run g).2 := by
  rwa [Read.run_snd, Read.run_snd]

theorem setMapping (h : Indistinguishable f g) (id : UnversionedObjectID) (cp : ChecksumPath) :
    Indistinguishable (f.setMapping id cp) (g.setMapping id cp) where
  branch := h.branch.setName id cp
  lookup p := by simp only [lookup_setMapping, GoMap.getD, h.lookup]

theorem deleteMapping (h : Indistinguishable f g) (id : UnversionedObjectID) :
    Option.Rel Indistinguishable (f.deleteMapping id) (g.deleteMapping id) := by
  cases hf : f.branch.get id with
  | none =>
    rw [deleteMapping_of_get_eq_none f id hf,
      deleteMapping_of_get_eq_none g id ((h.branch.get id).symm.trans hf)]
    exact .some h
  | some cp =>
    have hg := (h.branch.get id).symm.trans hf
    cases hl : f.pathToIDs.lookup cp.path with
    | none =>
      rw [(deleteMapping_eq_none_iff f id).2 ⟨cp, hf, hl⟩,
        (deleteMapping_eq_none_iff g id).2 ⟨cp, hg, (h.lookup _).symm.trans hl⟩]
      exact .none
    | some ids =>
      rw [deleteMapping_eq_some f id hf hl,
        deleteMapping_eq_some g id hg ((h.lookup _).symm.trans hl)]
      refine .some ⟨h.branch.deleteName id, fun p => ?_⟩
      simp only [lookup_pruneID, h.lookup]

theorem setAll (h : Indistinguishable f g) (es : List Entry) :
    Indistinguishable (setAll es f) (setAll es g) := by
  induction es generalizing f g with
  | nil => exact h
  | cons e es ih => exact ih (h.setMapping e.1 e.2)

theorem resetMappings (h : Indistinguishable f g) (m : GoMap UnversionedObjectID ChecksumPath) :
    Indistinguishable (f.resetMappings m) (g.resetMappings m) := by
  have h₀ : Indistinguishable { f with branch := ∅ } { g with branch := ∅ } :=
    ⟨⟨fun _ => rfl, fun _ => rfl⟩, h.lookup⟩
  exact h₀.setAll _

theorem call (h : Indistinguishable f g) (c : Call) :
    Option.Rel Indistinguishable (c.run f) (c.run g) := by
  cases c with
  | read r => exact .some (h.read r)
  | setMapping id cp => exact .some (h.setMapping id cp)
  | deleteMapping id => exact h.deleteMapping id
  | resetMappings m => exact .some (h.resetMappings m)

theorem runAll (h : Indistinguishable f g) (cs : List Call) :
    Option.Rel Indistinguishable (Call.runAll cs f) (Call.runAll cs g) := by
  induction cs generalizing f g with
  | nil => exact .some h
  | cons c cs ih => exact optionRel_bind (h.call c) fun _ _ h' => ih h'

end Indistinguishable

theorem indistinguishable_iff_answers {f g : GenericFileFinder} :
    Indistinguishable f g ↔ ∀ r : Read, (r.run f).1 = (r.run g).1 :=
  ⟨Indistinguishable.answer_eq, Indistinguishable.of_answer_eq⟩

/-- **The cache keeps no state its reads do not show.** If every read answers alike on two
states, then after any sequence of calls either both runs panic, or both return and every read
answers alike on the states they leave. -/
theorem runAll_answers_determined {f g : GenericFileFinder}
    (h : ∀ r : Read, (r.run f).1 = (r.run g).1) (cs : List Call) :
    Option.Rel (fun f' g' => ∀ r : Read, (r.run f').1 = (r.run g').1)
      (Call.runAll cs f) (Call.runAll cs g) :=
  optionRel_mono ((indistinguishable_iff_answers.2 h).runAll cs) fun _ _ =>
    indistinguishable_iff_answers.1

theorem runAll_answers_determined_two_orders :
    let a : UnversionedObjectID := ⟨⟨"", "Car"⟩, ⟨"a", ""⟩⟩
    let b : UnversionedObjectID := ⟨⟨"", "Car"⟩, ⟨"b", ""⟩⟩
    let f := (newGenericFileFinder.setMapping a ⟨"", "cars.yaml"⟩).setMapping b ⟨"", "cars.yaml"⟩
    let g := (newGenericFileFinder.setMapping b ⟨"", "cars.yaml"⟩).setMapping a ⟨"", "cars.yaml"⟩
    (∀ r : Read, (r.run f).1 = (r.run g).1) ∧
      Option.Rel (fun f' g' => ∀ r : Read, (r.run f').1 = (r.run g').1)
        (Call.runAll [.deleteMapping a] f) (Call.runAll [.deleteMapping a] g) := by
  intro a b f g
  have h : Indistinguishable f g := by
    refine ⟨⟨fun id => ?_, fun gk => ?_⟩, fun p => ?_⟩
    · simp only [f, g, get_setMapping]
      by_cases ha : id = a
      · subst ha
        simp [a, b]
      · simp only [ha, if_false]
    · ext ns
      simp only [f, g, setMapping, Branch.mem_namespaces_setName, or_left_comm]
    · simp only [f, g, lookup_setMapping, GoMap.getD, if_true]
      split_ifs
      · rw [Option.getD_some, Option.getD_some, Finset.Insert.comm]
      · rfl
  have hans := indistinguishable_iff_answers.1 h
  exact ⟨hans, runAll_answers_determined hans _⟩

/-! ## Every call is idempotent -/

/-- `setName` of a name already set to the same path changes nothing a read of the branch sees. -/
theorem Branch.agree_setName_setName (b : Branch) (id : UnversionedObjectID) (cp : ChecksumPath) :
    ((b.setName id cp).setName id cp).Agree (b.setName id cp) where
  get id' := by
    rw [Branch.get_setName]
    split_ifs with he
    · rw [he, Branch.get_setName, if_pos rfl]
    · rfl
  namespaces gk := by
    ext ns
    rw [Branch.mem_namespaces_setName, Branch.mem_namespaces_setName, ← or_assoc, or_self]

namespace GenericFileFinder

variable {f : GenericFileFinder}

/-- `SetMapping(id, cp)` of an identity already in the set of `cp.Path` leaves `pathToIDs`
alone. -/
theorem lookup_setMapping_of_memObjectsAt {id : UnversionedObjectID} {cp : ChecksumPath}
    (h : f.MemObjectsAt cp.path id) (p : String) :
    (f.setMapping id cp).pathToIDs.lookup p = f.pathToIDs.lookup p := by
  obtain ⟨ids, hl, hm⟩ := (memObjectsAt_iff ..).1 h
  rw [lookup_setMapping]
  split_ifs with hp
  · rw [hp, hl, GoMap.getD_of_lookup _ _ hl, Finset.insert_eq_of_mem hm]
  · rfl

theorem lookup_setAll_of_memObjectsAt {es : List Entry}
    (h : ∀ e ∈ es, f.MemObjectsAt e.2.path e.1) (p : String) :
    (setAll es f).pathToIDs.lookup p = f.pathToIDs.lookup p := by
  induction es generalizing f with
  | nil => rfl
  | cons e es ih =>
    rw [setAll, List.foldl_cons, ← setAll, ih fun e' he' =>
      memObjectsAt_setMapping_of_memObjectsAt _ _ _ _ _ (h e' (.tail _ he')),
      lookup_setMapping_of_memObjectsAt (h e (.head _))]

theorem setAll_branch {g : GenericFileFinder} (h : f.branch = g.branch) (es : List Entry) :
    (setAll es f).branch = (setAll es g).branch := by
  induction es generalizing f g with
  | nil => exact h
  | cons e es ih => exact ih (congrArg (Branch.setName · e.1 e.2) h)

end GenericFileFinder

namespace Indistinguishable

theorem refl (f : GenericFileFinder) : Indistinguishable f f :=
  ⟨⟨fun _ => rfl, fun _ => rfl⟩, fun _ => rfl⟩

/-- A call run a second time returns, into a state indistinguishable from the first run's. -/
theorem call_twice (c : Call) {f f₁ : GenericFileFinder} (h : c.run f = some f₁) :
    ∃ f₂, c.run f₁ = some f₂ ∧ Indistinguishable f₂ f₁ := by
  cases c with
  | read r =>
    cases h
    exact ⟨_, rfl, by rw [Read.run_snd, Read.run_snd]; exact refl f⟩
  | setMapping id cp =>
    cases h
    exact ⟨_, rfl, Branch.agree_setName_setName .., lookup_setMapping_of_memObjectsAt
      ((memObjectsAt_setMapping ..).2 (.inl ⟨rfl, rfl⟩))⟩
  | deleteMapping id =>
    have hget : f₁.branch.get id = none := by rw [get_of_deleteMapping f id id h, if_pos rfl]
    exact ⟨_, deleteMapping_of_get_eq_none f₁ id hget, refl f₁⟩
  | resetMappings m =>
    cases h
    have hb : (f.resetMappings m).branch = ((f.resetMappings m).resetMappings m).branch :=
      setAll_branch (f := { f with branch := ∅ }) (g := { f.resetMappings m with branch := ∅ })
        rfl m.entries
    have hm : ∀ e ∈ m.entries, (f.resetMappings m).MemObjectsAt e.2.path e.1 := fun e he =>
      (memObjectsAt_resetMappings ..).2 (.inl ⟨e.2, AList.mem_lookup_iff.2 he, rfl⟩)
    exact ⟨_, rfl, ⟨fun id => by rw [hb], fun gk => by rw [hb]⟩,
      lookup_setAll_of_memObjectsAt (f := { f.resetMappings m with branch := ∅ }) hm⟩

end Indistinguishable

/-- **Every call is idempotent.** Run twice, a call leaves every read answering as after one
run, and the second run panics only if the first one did. -/
theorem calls_idempotent (c : Call) (f : GenericFileFinder) :
    Option.Rel (fun f₂ f₁ => ∀ r : Read, (r.run f₂).1 = (r.run f₁).1)
      (Call.runAll [c, c] f) (Call.runAll [c] f) := by
  cases hc : c.run f with
  | none => simp only [Call.runAll, hc, Option.none_bind, Option.Rel.none]
  | some f₁ =>
    obtain ⟨f₂, h₂, hi⟩ := Indistinguishable.call_twice c hc
    simp only [Call.runAll, hc, h₂, Option.some_bind]
    exact .some (indistinguishable_iff_answers.1 hi)

end GitopsToolkit
