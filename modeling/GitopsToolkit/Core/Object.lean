import Mathlib.Data.List.AList
import Mathlib.Data.Finset.Basic

/-!
# Object identities and Go maps

The identity of a stored object and the location the mapping cache keeps for it
(`core.GroupKind`, `core.ObjectKey`, `core.UnversionedObjectID`, `ChecksumPath`), and the Go
maps the cache is built from.

A Go `map[K]V` is an `AList` over `K`: the lookup `v, ok := m[k]` is `AList.lookup`, the
assignment `m[k] = v` is `AList.insert` and `delete(m, k)` is `AList.erase`. The cache writes its
nested maps through accessors that create a missing entry empty before they hand it out;
`GoMap.alter` is that pattern, and `getD_alter` is what later modules use about it.
-/

namespace GitopsToolkit

/-- `schema.GroupKind`. -/
structure GroupKind where
  group : String
  kind : String
  deriving DecidableEq

/-- `core.ObjectKey`: the name of an object and its namespace (empty when root-spaced). -/
structure ObjectKey where
  name : String
  namespace_ : String
  deriving DecidableEq

/-- `core.UnversionedObjectID`, as `core.NewUnversionedObjectID(gk, key)` builds it. -/
structure UnversionedObjectID where
  groupKind : GroupKind
  objectKey : ObjectKey
  deriving DecidableEq

/-- `ChecksumPath`: a file path relative to the root, with a checksum of its content. -/
structure ChecksumPath where
  checksum : String
  path : String
  deriving DecidableEq

theorem UnversionedObjectID.eq_iff {id id' : UnversionedObjectID} :
    id = id' ↔ id.groupKind = id'.groupKind ∧
      id.objectKey.namespace_ = id'.objectKey.namespace_ ∧
      id.objectKey.name = id'.objectKey.name := by
  obtain ⟨gk, n, ns⟩ := id
  obtain ⟨gk', n', ns'⟩ := id'
  simp only [mk.injEq, ObjectKey.mk.injEq]
  tauto

/-- A Go `map[K]V`. -/
abbrev GoMap (K V : Type) := AList fun _ : K => V

namespace GoMap

variable {K V : Type} [DecidableEq K] [EmptyCollection V]

/-- `m[k]`, or the empty value when `k` has no entry. -/
def getD (m : GoMap K V) (k : K) : V := (m.lookup k).getD ∅

/-- Update the entry of `k` in place, through an accessor that creates it empty when it is
absent. -/
def alter (m : GoMap K V) (k : K) (update : V → V) : GoMap K V :=
  m.insert k (update (m.getD k))

variable (m : GoMap K V) (k k' : K) (update : V → V)

@[simp] theorem getD_empty : (∅ : GoMap K V).getD k = ∅ := rfl

theorem getD_of_lookup {v : V} (h : m.lookup k = some v) : m.getD k = v := by
  simp [getD, h]

theorem getD_insert (v : V) :
    getD (m.insert k v) k' = if k' = k then v else m.getD k' := by
  split_ifs with h
  · rw [h, getD, AList.lookup_insert, Option.getD_some]
  · rw [getD, AList.lookup_insert_ne h, ← getD]

theorem getD_erase : getD (m.erase k) k' = if k' = k then ∅ else m.getD k' := by
  split_ifs with h
  · rw [h, getD, AList.lookup_erase, Option.getD_none]
  · rw [getD, AList.lookup_erase_ne h, ← getD]

theorem lookup_alter :
    (m.alter k update).lookup k' = if k' = k then some (update (m.getD k)) else m.lookup k' := by
  split_ifs with h
  · subst h
    exact AList.lookup_insert _
  · exact AList.lookup_insert_ne h

theorem getD_alter :
    (m.alter k update).getD k' = if k' = k then update (m.getD k) else m.getD k' :=
  getD_insert m k k' _

end GoMap

namespace GoMap

variable {K W : Type} (m : GoMap K W)

/-- A map with no key, `len(m) == 0`, is the empty map. -/
theorem keys_eq_nil_iff : m.keys = [] ↔ m = ∅ :=
  ⟨fun h => AList.ext (List.map_eq_nil_iff.1 h), fun h => h ▸ AList.keys_empty⟩

theorem keys_eq_nil_iff_lookup [DecidableEq K] : m.keys = [] ↔ ∀ k, m.lookup k = none := by
  simp only [List.eq_nil_iff_forall_not_mem, ← AList.mem_keys, AList.lookup_eq_none]

end GoMap

end GitopsToolkit
