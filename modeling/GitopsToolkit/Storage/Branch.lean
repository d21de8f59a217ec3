import GitopsToolkit.Core.Object

/-!
# The identity partition of the mapping cache

`GenericFileFinder` keeps its `identity → ChecksumPath` view in a `branch` partitioned by
GroupKind and then by namespace, and reaches it through accessor chains such as
`f.branch.groupKind(gk).namespace(ns).setName(name, cp)`. The branch implementation is not part
of the sources, only its uses are, so its behaviour is modelled from the spec: the partition is
there to make `ListNamespaces` and `ListObjectIDs` efficient, and it "must stay consistent with
the flat `identity → ChecksumPath` view at all times".

* A read chain returns what the partition holds and changes nothing: `Branch.get` is the flat
  view that the chain `...name(n)` reads, and `Branch.namespaces` what `groupKind(gk).raw()`
  lists.
* A write chain creates the entries it goes through, and deletes the namespace entry that it
  leaves without a name (`alterNamespace`). `get_setName` and `get_deleteName` say what the two
  writes do to the flat view.

A namespace is listed when an identity lives in it, or when its entry holds no name
(`mem_namespaces_iff`). A write leaves no entry without a name
(`mem_emptyNamespaces_alterNamespace`), so from the empty branch the namespaces listed for a
GroupKind are exactly those of its tracked identities.
-/

namespace GitopsToolkit

/-- Modelled from the spec: `branchImpl` and the entries its accessors return (their code is
not in the sources). A branch maps a GroupKind to its namespaces, and a namespace to the names
in it with their checksum paths. -/
abbrev Branch := GoMap GroupKind (GoMap String (GoMap String ChecksumPath))

namespace Branch

variable (b : Branch) (gk gk' : GroupKind) (ns ns' : String) (id id' : UnversionedObjectID)

/-- `b.groupKind(gk).namespace(ns).raw()`: the names of a namespace, none when it has no
entry. -/
def names : GoMap String ChecksumPath := (b.getD gk).getD ns

/-- Modelled from the spec: the namespaces `g` of a GroupKind once a write chain leaves the
names `n` in the namespace `ns`. The namespace entry is deleted when `n` holds no name. -/
def storeNames (g : GoMap String (GoMap String ChecksumPath)) (ns : String)
    (n : GoMap String ChecksumPath) : GoMap String (GoMap String ChecksumPath) :=
  if n.keys = [] then g.erase ns else g.insert ns n

/-- Modelled from the spec: the write chain `b.groupKind(gk).namespace(ns)` followed by `update`
on the names of the namespace. The chain creates the entries it goes through, and deletes the
namespace entry when `update` leaves no name in it (`storeNames`), so that the partition keeps a
namespace only while an identity lives in it. -/
def alterNamespace (update : GoMap String ChecksumPath → GoMap String ChecksumPath) : Branch :=
  b.alter gk fun g => storeNames g ns (update (g.getD ns))

/-- The value of `b.groupKind(id.GroupKind()).namespace(id.ObjectKey().Namespace).name(...)`. -/
def get : Option ChecksumPath :=
  (b.names id.groupKind id.objectKey.namespace_).lookup id.objectKey.name

/-- `b.groupKind(...).namespace(...).setName(id.ObjectKey().Name, cp)`. -/
def setName (cp : ChecksumPath) : Branch :=
  b.alterNamespace id.groupKind id.objectKey.namespace_ fun n => n.insert id.objectKey.name cp

/-- `b.groupKind(...).namespace(...).deleteName(id.ObjectKey().Name)`. -/
def deleteName : Branch :=
  b.alterNamespace id.groupKind id.objectKey.namespace_ fun n => n.erase id.objectKey.name

/-- The keys of `b.groupKind(gk).raw()`: the namespaces listed for `gk`. -/
def namespaces : Finset String := (b.getD gk).keys.toFinset

/-- The namespaces listed for `gk` whose entry holds no name. -/
def emptyNamespaces : Finset String :=
  (b.namespaces gk).filter fun ns => (b.names gk ns).keys = []

/-! ## The flat view -/

section StoreNames

variable (g : GoMap String (GoMap String ChecksumPath)) (n : GoMap String ChecksumPath)

theorem getD_storeNames : (storeNames g ns n).getD ns' = if ns' = ns then n else g.getD ns' := by
  unfold storeNames
  split_ifs with he hn hn
  · rw [hn, GoMap.getD_erase, if_pos rfl, (GoMap.keys_eq_nil_iff n).1 he]
  · rw [GoMap.getD_erase, if_neg hn]
  · rw [hn, GoMap.getD_insert, if_pos rfl]
  · rw [GoMap.getD_insert, if_neg hn]

theorem mem_storeNames : ns' ∈ storeNames g ns n ↔ if ns' = ns then n.keys ≠ [] else ns' ∈ g := by
  unfold storeNames
  split_ifs with he hn hn
  · simp only [hn, AList.mem_erase, ne_eq, not_true_eq_false, false_and, he, not_true]
  · exact AList.mem_erase.trans (and_iff_right hn)
  · simp only [hn, AList.mem_insert, true_or, ne_eq, he, not_false_eq_true]
  · exact (AList.mem_insert _).trans (or_iff_right hn)

end StoreNames

theorem names_alterNamespace (update) :
    (b.alterNamespace gk ns update).names gk' ns' =
      if gk' = gk ∧ ns' = ns then update (b.names gk ns) else b.names gk' ns' := by
  simp only [names, alterNamespace, GoMap.getD_alter]
  by_cases hg : gk' = gk
  · rw [if_pos hg, getD_storeNames, hg]
    by_cases hn : ns' = ns
    · rw [if_pos hn, if_pos ⟨rfl, hn⟩]
    · rw [if_neg hn, if_neg fun h => hn h.2]
  · rw [if_neg hg, if_neg fun h => hg h.1]

theorem get_alterNamespace (update) :
    (b.alterNamespace gk ns update).get id =
      if id.groupKind = gk ∧ id.objectKey.namespace_ = ns then
        (update (b.names gk ns)).lookup id.objectKey.name
      else b.get id := by
  simp only [get, names_alterNamespace]
  split_ifs <;> rfl

@[simp] theorem get_empty : (∅ : Branch).get id = none := rfl

/-- A chain through the namespace of `id` whose update leaves every other name alone changes
the flat view at `id` only. -/
theorem get_alterNamespace_name (update : GoMap String ChecksumPath → GoMap String ChecksumPath)
    (hupdate : ∀ n name, name ≠ id.objectKey.name → (update n).lookup name = n.lookup name) :
    (b.alterNamespace id.groupKind id.objectKey.namespace_ update).get id' =
      if id' = id then
        (update (b.names id.groupKind id.objectKey.namespace_)).lookup id.objectKey.name
      else b.get id' := by
  simp only [get_alterNamespace, UnversionedObjectID.eq_iff]
  by_cases h : id'.groupKind = id.groupKind ∧ id'.objectKey.namespace_ = id.objectKey.namespace_
  · by_cases hn : id'.objectKey.name = id.objectKey.name
    · rw [if_pos h, if_pos ⟨h.1, h.2, hn⟩, hn]
    · rw [if_pos h, if_neg fun h' => hn h'.2.2, hupdate _ _ hn, get, h.1, h.2]
  · rw [if_neg h, if_neg fun h' => h ⟨h'.1, h'.2.1⟩]

theorem get_setName (cp : ChecksumPath) :
    (b.setName id cp).get id' = if id' = id then some cp else b.get id' := by
  rw [setName, get_alterNamespace_name _ _ _ _ fun _ _ => AList.lookup_insert_ne,
    AList.lookup_insert]

theorem get_deleteName : (b.deleteName id).get id' = if id' = id then none else b.get id' := by
  rw [deleteName, get_alterNamespace_name _ _ _ _ fun _ _ => AList.lookup_erase_ne,
    AList.lookup_erase]

/-! ## The namespaces of a GroupKind -/

theorem mem_namespaces : ns ∈ b.namespaces gk ↔ ns ∈ b.getD gk := by
  rw [namespaces, List.mem_toFinset, AList.mem_keys]

@[simp] theorem namespaces_empty : (∅ : Branch).namespaces gk = ∅ := rfl

/-- After a write chain, the namespace it went through is listed exactly when it holds a name;
every other namespace is listed as before. -/
theorem mem_namespaces_alterNamespace (update) :
    ns' ∈ (b.alterNamespace gk ns update).namespaces gk' ↔
      if gk' = gk ∧ ns' = ns then (update (b.names gk ns)).keys ≠ []
      else ns' ∈ b.namespaces gk' := by
  simp only [mem_namespaces, alterNamespace, GoMap.getD_alter, names]
  by_cases hg : gk' = gk
  · rw [if_pos hg, mem_storeNames, hg]
    by_cases hn : ns' = ns
    · rw [if_pos hn, if_pos ⟨rfl, hn⟩]
    · rw [if_neg hn, if_neg fun h => hn h.2]
  · rw [if_neg hg, if_neg fun h => hg h.1]

theorem mem_namespaces_setName (cp : ChecksumPath) :
    ns' ∈ (b.setName id cp).namespaces gk' ↔
      (gk' = id.groupKind ∧ ns' = id.objectKey.namespace_) ∨ ns' ∈ b.namespaces gk' := by
  rw [setName, mem_namespaces_alterNamespace]
  split_ifs with h
  · simp only [h, AList.keys_insert, ne_eq, reduceCtorEq, not_false_eq_true, and_self,
      true_or]
  · simp only [h, false_or]

theorem mem_namespaces_of_get {cp : ChecksumPath} (h : b.get id = some cp) :
    id.objectKey.namespace_ ∈ b.namespaces id.groupKind := by
  rw [mem_namespaces, ← AList.lookup_isSome]
  cases hg : (b.getD id.groupKind).lookup id.objectKey.namespace_ with
  | none =>
    rw [get, names, GoMap.getD, hg] at h
    cases h
  | some _ => rfl

theorem mem_emptyNamespaces :
    ns ∈ b.emptyNamespaces gk ↔ ns ∈ b.namespaces gk ∧ ∀ name, b.get ⟨gk, ⟨name, ns⟩⟩ = none := by
  rw [emptyNamespaces, Finset.mem_filter, GoMap.keys_eq_nil_iff_lookup]
  rfl

theorem not_mem_emptyNamespaces_of_get {cp : ChecksumPath} (h : b.get id = some cp) :
    id.objectKey.namespace_ ∉ b.emptyNamespaces id.groupKind := fun he =>
  Option.noConfusion (((b.mem_emptyNamespaces ..).1 he).2 id.objectKey.name ▸ h)

/-- **A namespace is listed when an identity lives in it, or when its entry holds no name.** -/
theorem mem_namespaces_iff :
    ns ∈ b.namespaces gk ↔
      ns ∈ b.emptyNamespaces gk ∨ ∃ name cp, b.get ⟨gk, ⟨name, ns⟩⟩ = some cp := by
  rw [mem_emptyNamespaces]
  constructor
  · intro h
    by_cases hall : ∀ name, b.get ⟨gk, ⟨name, ns⟩⟩ = none
    · exact .inl ⟨h, hall⟩
    · push_neg at hall
      obtain ⟨name, hname⟩ := hall
      exact .inr ⟨name, Option.ne_none_iff_exists'.1 hname⟩
  · rintro (⟨h, -⟩ | ⟨name, cp, h⟩)
    exacts [h, b.mem_namespaces_of_get ⟨gk, ⟨name, ns⟩⟩ h]

/-- A write chain leaves the namespace it goes through with a name or with no entry, and every
other namespace as it was. -/
theorem mem_emptyNamespaces_alterNamespace (update) :
    ns' ∈ (b.alterNamespace gk ns update).emptyNamespaces gk' ↔
      ¬ (gk' = gk ∧ ns' = ns) ∧ ns' ∈ b.emptyNamespaces gk' := by
  simp only [emptyNamespaces, Finset.mem_filter, mem_namespaces_alterNamespace,
    names_alterNamespace]
  split_ifs with h
  · exact iff_of_false (fun h' => h'.1 h'.2) fun h' => h'.1 h
  · rw [and_iff_right h]

end Branch

end GitopsToolkit
