import GitopsToolkit.Core.Object

/-!
# The convertor

`objectConvertor` (`convertor.go`) converts decoded objects for the serializer. A
controller-runtime `Convertible` is converted into its Hub: `findHubType` runs through the known
types of the scheme for one of the Convertible's GroupKind, at another version, whose objects
are Hubs, and `convertToHub` converts into a new object of that type and stamps its
GroupVersionKind.

The calls the convertor makes outside `convertor.go` (the scheme, `gvkForObject`, the methods
of the registered types) are the fields of `Scheme`.

* `findHubType_eq_ok_iff`: `findHubType` succeeds exactly when some known type at another
  version, with the same GroupKind *string*, makes Hubs, and it returns such a type with the
  object `New` made, for every iteration order of the known types.
* `GroupKind.string` is injective on Kinds without a dot (`GroupKind.eq_of_string_eq`), so then
  the Hub has the Convertible's Group and Kind (`convertToVersion_hub_groupKind`), as long as the
  known types' Groups and Versions have no '/' to spoil the `apiVersion` round trip of
  `SetGroupVersionKind`. With a dot it is not: `Kind.Group` reads the same for the Kind `A.b` of
  the core group and the Kind `A` of group `b` (`convertToVersion_dotted_kind`).
* `Convert` and `ConvertToVersion` both convert a Convertible into a Hub with `in.ConvertTo`,
  and wrap its failure differently: with the Convertible's GroupVersionKind in `Convert`, with
  the Hub's in `ConvertToVersion` (`convertTo_errors_name_different_gvks`).
-/

namespace GitopsToolkit

/-- `schema.GroupVersionKind`. -/
structure GroupVersionKind where
  group : String
  version : String
  kind : String
  deriving DecidableEq

/-- `GroupVersionKind.GroupKind()`. -/
def GroupVersionKind.groupKind (gvk : GroupVersionKind) : GroupKind := ⟨gvk.group, gvk.kind⟩

/-- `GroupVersionKind.String()`. -/
def GroupVersionKind.string (gvk : GroupVersionKind) : String :=
  gvk.group ++ "/" ++ gvk.version ++ ", Kind=" ++ gvk.kind

/-- `GroupKind.String()`: the Kind, then a dot and the Group when the Group is not empty. -/
def GroupKind.string (gk : GroupKind) : String :=
  if gk.group = "" then gk.kind else gk.kind ++ "." ++ gk.group

/-- The causes of a `CRDConversionError`. -/
inductive CRDConversionErrorCause
  | invalidArgs
  | convertTo
  | convertFrom
  | schemeSetup

/-- The errors of the convertor. -/
inductive ConvertError
  /-- An error from a call outside `convertor.go`, by its text. -/
  | other (msg : String)
  /-- `NewCRDConversionError(gvk, cause, err)`. -/
  | crd (gvk : Option GroupVersionKind) (cause : CRDConversionErrorCause)
      (err : Option ConvertError)

/-- A `runtime.Scheme` with the methods of the types registered in it: what the convertor calls
outside `convertor.go`, over objects of type `Object`. -/
structure Scheme (Object : Type) where
  /-- The keys of `AllKnownTypes()`, in the order in which `range` visits them. -/
  allKnownTypes : List GroupVersionKind
  allKnownTypes_nodup : allKnownTypes.Nodup
  /-- `New(gvk)`. -/
  new : GroupVersionKind → Except String Object
  /-- `ConvertToVersion(in, runtime.InternalGroupVersioner)`. -/
  convertToInternal : Object → Except String Object
  /-- `Convert(in, out, context)`, as the object `out` becomes. -/
  convert : Object → Object → Except String Object
  /-- `gvkForObject(scheme, obj)`. -/
  gvkForObject : Object → Except String GroupVersionKind
  /-- `webhookconversion.IsConvertible(scheme, obj)`. -/
  isConvertibleInScheme : Object → Except String Bool
  /-- The type assertion `obj.(conversion.Hub)` succeeds. -/
  isHub : Object → Bool
  /-- The type assertion `obj.(conversion.Convertible)` succeeds. -/
  isConvertible : Object → Bool
  /-- `in.ConvertTo(hub)`, as the object `hub` becomes. -/
  convertTo : Object → Object → Except String Object
  /-- `out.ConvertFrom(hub)`, as the object `out` becomes. -/
  convertFrom : Object → Object → Except String Object
  /-- `obj.DeepCopyObject()`. -/
  deepCopyObject : Object → Object
  /-- `obj.GetObjectKind().GroupVersionKind()`. -/
  groupVersionKind : Object → GroupVersionKind
  /-- `obj.GetObjectKind().SetGroupVersionKind(gvk)`. -/
  setGroupVersionKind : Object → GroupVersionKind → Object
  /-- `SetGroupVersionKind` stores the Group and Version as one `apiVersion` string, joined by a
  '/', and `GroupVersionKind` splits it at the '/' again: the GroupVersionKind comes back when
  neither its Group nor its Version holds a '/'. -/
  groupVersionKind_set : ∀ obj gvk, '/' ∉ gvk.group.data → '/' ∉ gvk.version.data →
    groupVersionKind (setGroupVersionKind obj gvk) = gvk

variable {Object : Type}

/-- `validateConvertible`. -/
def validateConvertible (in_ : Object) (scheme : Scheme Object) :
    Except ConvertError GroupVersionKind :=
  match scheme.gvkForObject in_ with
  | .error err => .error (.other err)
  | .ok gvk =>
    match scheme.isConvertibleInScheme in_ with
    | .error err => .error (.crd (some gvk) .schemeSetup (some (.other err)))
    | .ok false => .error (.crd (some gvk) .schemeSetup none)
    | .ok true => .ok gvk

/-- The body of the loop of `findHubType` for the known type `gvk`: `some` where it returns. -/
def hubCandidate (currentGVK : GroupVersionKind) (scheme : Scheme Object) (gvk : GroupVersionKind) :
    Option (Object × GroupVersionKind) :=
  if gvk.groupKind.string ≠ currentGVK.groupKind.string then none
  else if gvk.version = currentGVK.version then none
  else
    match scheme.new gvk with
    | .error _ => none
    | .ok obj => if scheme.isHub obj then some (obj, gvk) else none

/-- `findHubType`: the first known type whose loop body returns. -/
def findHubType (currentGVK : GroupVersionKind) (scheme : Scheme Object) :
    Except ConvertError (Object × GroupVersionKind) :=
  match scheme.allKnownTypes.findSome? (hubCandidate currentGVK scheme) with
  | some r => .ok r
  | none =>
    .error (.other ("no matching Hub target type for convertible of gvk " ++ currentGVK.string))

/-- `populateGVK`. -/
def populateGVK (obj : Object) (scheme : Scheme Object) : Except ConvertError Object :=
  match scheme.gvkForObject obj with
  | .error err => .error (.other err)
  | .ok gvk => .ok (scheme.setGroupVersionKind obj gvk)

/-- `objectConvertor`. -/
structure ObjectConvertor (Object : Type) where
  scheme : Scheme Object
  doConvertToHub : Bool

/-- `newObjectConvertor`. -/
def newObjectConvertor (scheme : Scheme Object) (convertToHub : Bool) : ObjectConvertor Object :=
  ⟨scheme, convertToHub⟩

namespace ObjectConvertor

variable (c : ObjectConvertor Object)

/-- `convertIntoHub`, as the object `out` becomes. -/
def convertIntoHub (in_ out : Object) : Except ConvertError Object :=
  match validateConvertible in_ c.scheme with
  | .error err => .error err
  | .ok inGVK =>
    match c.scheme.convertTo in_ out with
    | .error err => .error (.crd (some inGVK) .convertTo (some (.other err)))
    | .ok out => populateGVK out c.scheme

/-- `convertFromHub`, as the object `out` becomes. -/
def convertFromHub (in_ out : Object) : Except ConvertError Object :=
  match validateConvertible out c.scheme with
  | .error err => .error err
  | .ok outGVK =>
    match c.scheme.convertFrom out in_ with
    | .error err => .error (.crd (some outGVK) .convertFrom (some (.other err)))
    | .ok out => populateGVK out c.scheme

/-- `Convert`, as the object `out` becomes. -/
def convert (in_ out : Object) : Except ConvertError Object :=
  if c.scheme.isConvertible in_ then
    if c.scheme.isHub out then c.convertIntoHub in_ out
    else
      .error (.crd none .invalidArgs (some (.other "if in object is Convertible, out must be Hub")))
  else if c.scheme.isConvertible out then
    if c.scheme.isHub in_ then c.convertFromHub in_ out
    else
      .error (.crd none .invalidArgs (some (.other "if out object is Convertible, in must be Hub")))
  else
    match c.scheme.convert in_ out with
    | .error err => .error (.other err)
    | .ok out => .ok out

/-- `convertToHub`. On an error of `findHubType` the target is the zero GroupVersionKind that
`findHubType` returns with it. -/
def convertToHub (in_ : Object) : Except ConvertError Object :=
  match validateConvertible in_ c.scheme with
  | .error err => .error err
  | .ok currentGVK =>
    match findHubType currentGVK c.scheme with
    | .error err => .error (.crd (some ⟨"", "", ""⟩) .schemeSetup (some err))
    | .ok (hub, targetGVK) =>
      match c.scheme.convertTo in_ hub with
      | .error err => .error (.crd (some targetGVK) .convertTo (some (.other err)))
      | .ok hub => .ok (c.scheme.setGroupVersionKind hub targetGVK)

/-- `ConvertToVersion` (its `GroupVersioner` argument is unused). -/
def convertToVersion (in_ : Object) : Except ConvertError Object :=
  if !c.doConvertToHub then .ok (c.scheme.deepCopyObject in_)
  else if c.scheme.isConvertible in_ then c.convertToHub in_
  else
    match c.scheme.convertToInternal in_ with
    | .error err => .error (.other err)
    | .ok out => .ok out

end ObjectConvertor

/-- `converter`. -/
structure Converter (Object : Type) where
  scheme : Scheme Object
  convertor : ObjectConvertor Object

/-- `newConverter`: its `objectConvertor` converts Convertibles to their Hubs. -/
def newConverter (scheme : Scheme Object) : Converter Object :=
  ⟨scheme, newObjectConvertor scheme true⟩

namespace Converter

variable (c : Converter Object)

/-- `Convert`, as the object `out` becomes. -/
def convert (in_ out : Object) : Except ConvertError Object := c.convertor.convert in_ out

/-- `ConvertIntoNew`. -/
def convertIntoNew (in_ : Object) (gvk : GroupVersionKind) : Except ConvertError Object :=
  match c.scheme.new gvk with
  | .error err => .error (.other err)
  | .ok obj => c.convert in_ obj

/-- `ConvertToHub`. -/
def convertToHub (in_ : Object) : Except ConvertError Object := c.convertor.convertToVersion in_

end Converter

/-! ## The GroupKind string -/

theorem append_dot_inj {x₁ x₂ z₁ z₂ : List Char} (h₁ : '.' ∉ x₁) (h₂ : '.' ∉ x₂)
    (h : x₁ ++ '.' :: z₁ = x₂ ++ '.' :: z₂) : x₁ = x₂ ∧ z₁ = z₂ := by
  induction x₁ generalizing x₂ with
  | nil =>
    cases x₂ with
    | nil => exact ⟨rfl, (List.cons.inj h).2⟩
    | cons b x₂ =>
      rw [List.nil_append, List.cons_append] at h
      exact absurd (by rw [← (List.cons.inj h).1]; exact List.mem_cons_self _ _) h₂
  | cons b x₁ ih =>
    cases x₂ with
    | nil =>
      rw [List.nil_append, List.cons_append] at h
      exact absurd (by rw [(List.cons.inj h).1]; exact List.mem_cons_self _ _) h₁
    | cons b' x₂ =>
      rw [List.cons_append, List.cons_append] at h
      obtain ⟨rfl, h'⟩ := List.cons.inj h
      obtain ⟨rfl, rfl⟩ := ih (fun m => h₁ (List.mem_cons_of_mem _ m))
        (fun m => h₂ (List.mem_cons_of_mem _ m)) h'
      exact ⟨rfl, rfl⟩

theorem data_append_dot (k g : String) : (k ++ "." ++ g).data = k.data ++ '.' :: g.data := by
  simp only [String.data_append, List.append_assoc]
  rfl

/-- `GroupKind.String()` tells GroupKinds apart when their Kinds have no dot. -/
theorem GroupKind.eq_of_string_eq {gk gk' : GroupKind} (hk : '.' ∉ gk.kind.data)
    (hk' : '.' ∉ gk'.kind.data) (h : gk.string = gk'.string) : gk = gk' := by
  obtain ⟨g, k⟩ := gk
  obtain ⟨g', k'⟩ := gk'
  simp only [GroupKind.string] at h hk hk'
  split_ifs at h with hg hg' hg'
  · subst hg hg' h
    rfl
  · rw [String.ext_iff, data_append_dot] at h
    exact absurd (h ▸ List.mem_append_right _ (List.mem_cons_self _ _)) hk
  · rw [String.ext_iff, data_append_dot] at h
    exact absurd (h ▸ List.mem_append_right _ (List.mem_cons_self _ _)) hk'
  · rw [String.ext_iff, data_append_dot, data_append_dot] at h
    obtain ⟨hk, hg⟩ := append_dot_inj hk hk' h
    rw [String.ext hk, String.ext hg]

/-- A scheme with the one known type `known`, whose objects are Hubs and Convertibles; an object
is its `TypeMeta`, and every call succeeds. -/
def singleTypeScheme (known : GroupVersionKind) : Scheme GroupVersionKind where
  allKnownTypes := [known]
  allKnownTypes_nodup := List.nodup_singleton known
  new gvk := .ok gvk
  convertToInternal obj := .ok obj
  convert _ out := .ok out
  gvkForObject obj := .ok obj
  isConvertibleInScheme _ := .ok true
  isHub _ := true
  isConvertible _ := true
  convertTo _ hub := .ok hub
  convertFrom out _ := .ok out
  deepCopyObject obj := obj
  groupVersionKind obj := obj
  setGroupVersionKind _ gvk := gvk
  groupVersionKind_set _ _ _ _ := rfl

/-! ## `findHubType` -/

section FindHubType

variable (scheme : Scheme Object) (currentGVK : GroupVersionKind)

theorem hubCandidate_eq_some {gvk hubGVK : GroupVersionKind} {hub : Object} :
    hubCandidate currentGVK scheme gvk = some (hub, hubGVK) ↔
      hubGVK = gvk ∧ gvk.groupKind.string = currentGVK.groupKind.string ∧
        gvk.version ≠ currentGVK.version ∧ scheme.new gvk = .ok hub ∧
        scheme.isHub hub = true := by
  unfold hubCandidate
  split_ifs with hs hv
  · simp [hs]
  · simp [hv]
  · cases hn : scheme.new gvk with
    | error => simp
    | ok obj =>
      by_cases hh : scheme.isHub obj
      · simp only [hh, if_true, Option.some.injEq, Prod.mk.injEq, Except.ok.injEq]
        constructor
        · rintro ⟨rfl, rfl⟩
          exact ⟨rfl, not_not.1 hs, hv, rfl, hh⟩
        · rintro ⟨rfl, -, -, rfl, -⟩
          exact ⟨rfl, rfl⟩
      · simp only [hh, Bool.false_eq_true, if_false, reduceCtorEq, false_iff]
        rintro ⟨-, -, -, hn', h⟩
        exact hh (Except.ok.inj hn' ▸ h)

theorem findHubType_eq_ok {r : Object × GroupVersionKind} :
    findHubType currentGVK scheme = .ok r ↔
      scheme.allKnownTypes.findSome? (hubCandidate currentGVK scheme) = some r := by
  unfold findHubType
  cases scheme.allKnownTypes.findSome? (hubCandidate currentGVK scheme) <;> simp

theorem mem_of_findHubType_eq_ok {hub : Object} {hubGVK : GroupVersionKind}
    (h : findHubType currentGVK scheme = .ok (hub, hubGVK)) :
    hubGVK ∈ scheme.allKnownTypes ∧ hubGVK.groupKind.string = currentGVK.groupKind.string ∧
      hubGVK.version ≠ currentGVK.version ∧ scheme.new hubGVK = .ok hub ∧
      scheme.isHub hub = true := by
  obtain ⟨gvk, hm, hc⟩ := List.exists_of_findSome?_eq_some ((findHubType_eq_ok ..).1 h)
  obtain ⟨rfl, hs, hv, hn, hh⟩ := (hubCandidate_eq_some ..).1 hc
  exact ⟨hm, hs, hv, hn, hh⟩

/-- **What `findHubType` finds**, for every scheme and every iteration order of its known types:
it succeeds exactly when some known type at another version, with the GroupKind string of
`currentGVK`, makes Hubs; it then returns such a type, with the Hub `New` made for it. -/
theorem findHubType_eq_ok_iff :
    ((∃ r, findHubType currentGVK scheme = .ok r) ↔
      ∃ gvk ∈ scheme.allKnownTypes, gvk.groupKind.string = currentGVK.groupKind.string ∧
        gvk.version ≠ currentGVK.version ∧ ∃ hub, scheme.new gvk = .ok hub ∧ scheme.isHub hub = true) ∧
    ∀ hub hubGVK, findHubType currentGVK scheme = .ok (hub, hubGVK) →
      hubGVK ∈ scheme.allKnownTypes ∧ hubGVK.groupKind.string = currentGVK.groupKind.string ∧
        hubGVK.version ≠ currentGVK.version ∧ scheme.new hubGVK = .ok hub ∧
        scheme.isHub hub = true := by
  refine ⟨⟨fun ⟨⟨hub, hubGVK⟩, h⟩ => ?_, fun ⟨gvk, hm, hs, hv, hub, hn, hh⟩ => ?_⟩,
    fun _ _ => mem_of_findHubType_eq_ok scheme currentGVK⟩
  · obtain ⟨hm, hs, hv, hn, hh⟩ := mem_of_findHubType_eq_ok scheme currentGVK h
    exact ⟨hubGVK, hm, hs, hv, hub, hn, hh⟩
  · have hc := (hubCandidate_eq_some scheme currentGVK).2 ⟨rfl, hs, hv, hn, hh⟩
    obtain ⟨r, hr⟩ := Option.isSome_iff_exists.1 <|
      (List.findSome?_isSome_iff (f := hubCandidate currentGVK scheme)).2
        ⟨gvk, hm, by rw [hc]; rfl⟩
    exact ⟨r, (findHubType_eq_ok ..).2 hr⟩

end FindHubType

/-! ## `ConvertToVersion` -/

section ConvertToVersion

variable (c : ObjectConvertor Object) {in_ hub : Object}

theorem gvkForObject_of_validateConvertible {gvk : GroupVersionKind}
    (h : validateConvertible in_ c.scheme = .ok gvk) : c.scheme.gvkForObject in_ = .ok gvk := by
  unfold validateConvertible at h
  cases hg : c.scheme.gvkForObject in_ with
  | error => simp [hg] at h
  | ok gvk' =>
    simp only [hg] at h
    cases hc : c.scheme.isConvertibleInScheme in_ with
    | error => simp [hc] at h
    | ok b => cases b <;> simp_all

/-- Inversion of `convertToHub`: the Hub is stamped with the type `findHubType` found for the
GroupVersionKind of the Convertible. -/
theorem convertToHub_eq_ok (h : c.convertToHub in_ = .ok hub) :
    ∃ currentGVK hub₀ hub₁ targetGVK, c.scheme.gvkForObject in_ = .ok currentGVK ∧
      findHubType currentGVK c.scheme = .ok (hub₀, targetGVK) ∧
      hub = c.scheme.setGroupVersionKind hub₁ targetGVK := by
  unfold ObjectConvertor.convertToHub at h
  split at h
  · cases h
  · rename_i currentGVK hv
    split at h
    · cases h
    · rename_i hub₀ targetGVK hf
      split at h
      · cases h
      · cases h
        exact ⟨currentGVK, hub₀, _, targetGVK, gvkForObject_of_validateConvertible c hv, hf, rfl⟩

/-- **With no dot in a Kind, the Hub has the Convertible's Group and Kind.** When neither the
Kind of the Convertible nor a Kind of a known type has a dot, and no known type has a '/' in
its Group or Version, the Hub that `ConvertToVersion` returns has the Group and Kind of the
Convertible. -/
theorem convertToVersion_hub_groupKind {gvk : GroupVersionKind} (hto : c.doConvertToHub = true)
    (hin : c.scheme.isConvertible in_ = true) (hgvk : c.scheme.gvkForObject in_ = .ok gvk)
    (hdot : '.' ∉ gvk.kind.data) (hdots : ∀ known ∈ c.scheme.allKnownTypes, '.' ∉ known.kind.data)
    (hslash : ∀ known ∈ c.scheme.allKnownTypes, '/' ∉ known.group.data ∧ '/' ∉ known.version.data)
    (h : c.convertToVersion in_ = .ok hub) :
    (c.scheme.groupVersionKind hub).groupKind = gvk.groupKind := by
  simp only [ObjectConvertor.convertToVersion, hto, hin, Bool.not_true, Bool.false_eq_true,
    if_false, if_true] at h
  obtain ⟨cur, hub₀, hub₁, target, hcur, hf, rfl⟩ := convertToHub_eq_ok c h
  obtain rfl : cur = gvk := Except.ok.inj (hcur.symm.trans hgvk)
  obtain ⟨hm, hs, -⟩ := mem_of_findHubType_eq_ok _ _ hf
  rw [c.scheme.groupVersionKind_set _ _ (hslash _ hm).1 (hslash _ hm).2]
  exact GroupKind.eq_of_string_eq (hdots _ hm) hdot hs

theorem convertToVersion_hub_groupKind_single_type :
    (newObjectConvertor (singleTypeScheme ⟨"b", "v1", "A"⟩) true).convertToVersion ⟨"b", "v2", "A"⟩ =
        .ok ⟨"b", "v1", "A"⟩ ∧
      GroupVersionKind.groupKind ⟨"b", "v1", "A"⟩ = GroupVersionKind.groupKind ⟨"b", "v2", "A"⟩ := by
  have h : (newObjectConvertor (singleTypeScheme ⟨"b", "v1", "A"⟩) true).convertToVersion
      ⟨"b", "v2", "A"⟩ = .ok ⟨"b", "v1", "A"⟩ := rfl
  exact ⟨h, convertToVersion_hub_groupKind _ rfl rfl rfl (by decide) (by decide) (by decide) h⟩

/-- A Convertible of Kind `A` in group `b` converts to a Hub of Kind `A.b` in the core group:
`findHubType` takes the known type because both GroupKinds print as `A.b`. -/
theorem convertToVersion_dotted_kind :
    findHubType ⟨"b", "v2", "A"⟩ (singleTypeScheme ⟨"", "v1", "A.b"⟩) =
        .ok (⟨"", "v1", "A.b"⟩, ⟨"", "v1", "A.b"⟩) ∧
      (newObjectConvertor (singleTypeScheme ⟨"", "v1", "A.b"⟩) true).convertToVersion
        ⟨"b", "v2", "A"⟩ = .ok ⟨"", "v1", "A.b"⟩ :=
  ⟨rfl, rfl⟩

end ConvertToVersion

/-! ## The GroupVersionKind a failed `ConvertTo` names -/

section ConvertToErrors

variable (c : ObjectConvertor Object) {in_ out : Object} {g : GroupVersionKind}
  {e : Option ConvertError}

theorem validateConvertible_error_crd {s : Scheme Object} {g : Option GroupVersionKind}
    {cause : CRDConversionErrorCause} (h : validateConvertible in_ s = .error (.crd g cause e)) :
    cause = .schemeSetup := by
  unfold validateConvertible at h
  split at h
  · cases h
  · split at h <;> cases h <;> rfl

theorem populateGVK_ne_crd {s : Scheme Object} {g : Option GroupVersionKind}
    {cause : CRDConversionErrorCause} : populateGVK in_ s ≠ .error (.crd g cause e) := by
  unfold populateGVK
  split <;> exact fun h => by cases h

/-- Inversion of a failed `ConvertTo` in `Convert`: `in` is the Convertible, and the error names
the GroupVersionKind `gvkForObject` gives it. -/
theorem convert_convertTo_error_inv (h : c.convert in_ out = .error (.crd (some g) .convertTo e)) :
    c.scheme.gvkForObject in_ = .ok g := by
  unfold ObjectConvertor.convert at h
  split_ifs at h
  · unfold ObjectConvertor.convertIntoHub at h
    split at h
    · rename_i hv
      cases h
      cases validateConvertible_error_crd hv
    · rename_i inGVK hv
      split at h
      · cases h
        exact gvkForObject_of_validateConvertible c hv
      · exact absurd h populateGVK_ne_crd
  · cases h
  · unfold ObjectConvertor.convertFromHub at h
    split at h
    · rename_i hv
      cases h
      cases validateConvertible_error_crd hv
    · split at h
      · cases h
      · exact absurd h populateGVK_ne_crd
  · cases h
  · split at h <;> cases h

/-- Inversion of a failed `ConvertTo` in `ConvertToVersion`: the error names the type
`findHubType` found for the Convertible's GroupVersionKind. -/
theorem convertToVersion_convertTo_error_inv
    (h : c.convertToVersion in_ = .error (.crd (some g) .convertTo e)) :
    ∃ cur hub, c.scheme.gvkForObject in_ = .ok cur ∧
      findHubType cur c.scheme = .ok (hub, g) := by
  unfold ObjectConvertor.convertToVersion at h
  split_ifs at h
  · unfold ObjectConvertor.convertToHub at h
    split at h
    · rename_i hv
      cases h
      cases validateConvertible_error_crd hv
    · rename_i cur hv
      split at h
      · cases h
      · rename_i hub target hf
        split at h
        · cases h
          exact ⟨cur, hub, gvkForObject_of_validateConvertible c hv, hf⟩
        · cases h
  · split at h <;> cases h

/-- **A failed `ConvertTo` is reported under two GroupVersionKinds.** `Convert` and
`ConvertToVersion` both turn a Convertible into a Hub with `in.ConvertTo`. When it fails,
`Convert` wraps the error with the Convertible's own GroupVersionKind and `ConvertToVersion` with
the Hub's, a known type at another version: never the same one. -/
theorem convertTo_errors_name_different_gvks {g' : GroupVersionKind} {e' : Option ConvertError}
    (h : c.convert in_ out = .error (.crd (some g) .convertTo e))
    (h' : c.convertToVersion in_ = .error (.crd (some g') .convertTo e')) :
    c.scheme.gvkForObject in_ = .ok g ∧ g' ∈ c.scheme.allKnownTypes ∧ g'.version ≠ g.version := by
  have hg := convert_convertTo_error_inv c h
  obtain ⟨cur, hub, hcur, hf⟩ := convertToVersion_convertTo_error_inv c h'
  obtain rfl : cur = g := Except.ok.inj (hcur.symm.trans hg)
  obtain ⟨hm, -, hv, -⟩ := mem_of_findHubType_eq_ok _ _ hf
  exact ⟨hg, hm, hv⟩

/-- `singleTypeScheme known`, except that every `ConvertTo` fails. -/
def failingConvertToScheme (known : GroupVersionKind) : Scheme GroupVersionKind :=
  { singleTypeScheme known with convertTo := fun _ _ => .error "conversion failed" }

theorem convertTo_errors_name_different_gvks_one_kind :
    let c := newObjectConvertor (failingConvertToScheme ⟨"b", "v1", "A"⟩) true
    c.convert ⟨"b", "v2", "A"⟩ ⟨"b", "v1", "A"⟩ =
        .error (.crd (some ⟨"b", "v2", "A"⟩) .convertTo (some (.other "conversion failed"))) ∧
      c.convertToVersion ⟨"b", "v2", "A"⟩ =
        .error (.crd (some ⟨"b", "v1", "A"⟩) .convertTo (some (.other "conversion failed"))) ∧
      c.scheme.gvkForObject ⟨"b", "v2", "A"⟩ = .ok ⟨"b", "v2", "A"⟩ ∧
      (⟨"b", "v1", "A"⟩ : GroupVersionKind) ∈ c.scheme.allKnownTypes ∧ "v1" ≠ "v2" := by
  intro c
  have h : c.convert ⟨"b", "v2", "A"⟩ ⟨"b", "v1", "A"⟩ =
      .error (.crd (some ⟨"b", "v2", "A"⟩) .convertTo
        (some (.other "conversion failed"))) := rfl
  have h' : c.convertToVersion ⟨"b", "v2", "A"⟩ =
      .error (.crd (some ⟨"b", "v1", "A"⟩) .convertTo
        (some (.other "conversion failed"))) := rfl
  exact ⟨h, h', convertTo_errors_name_different_gvks c h h'⟩

end ConvertToErrors

end GitopsToolkit
