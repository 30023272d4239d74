/-
  Stdiolink.Meta.UnknownFields — where `rejectUnknownFields` looks.

  The walk goes from an object to the objects of its object fields and to the objects that are
  items of its array fields.  An array that is itself an item of an array is passed over.

  Main results:
    * `rejectUnknownFields_valid_iff` — a config passes exactly if every object on the walk has
      declared names only;
    * `unknown_fields_rejected` — what an accepted config is, in these terms;
    * `matrix_unknown_accepted` — an unknown name in an array of arrays is accepted.
-/
import Stdiolink.Meta.ServiceConfig

namespace Stdiolink.Meta

open Stdiolink.Protocol
open Stdiolink.Server
open ValidationResult

/-! ## §1. The objects of a config -/

/-- The objects that an array holds, with the field list that the declaration of its items gives
them: items of the array, or items of arrays inside it.  The flag says which. -/
inductive InArray : FieldMeta → List Json → Bool →
    List FieldMeta → List (String × Json) → Prop where
  | item {item : FieldMeta} {l : List Json} {u : List (String × Json)} :
      item.fields ≠ [] → Json.obj u ∈ l → InArray item l false item.fields u
  | inner {item item' : FieldMeta} {l l' : List Json} {nested : Bool} {fields : List FieldMeta}
      {u : List (String × Json)} :
      item.type = .array → item.items = some item' → Json.arr l' ∈ l →
        InArray item' l' nested fields u → InArray item l true fields u

/-- The objects reachable in an object with a field list, through object fields that have a field
list and through the items of array fields, at any depth.  The flag tells those that are reached
through an array inside an array. -/
inductive Reach : List FieldMeta → List (String × Json) → Bool →
    List FieldMeta → List (String × Json) → Prop where
  | here (fields : List FieldMeta) (m : List (String × Json)) : Reach fields m false fields m
  | member {fields fields' : List FieldMeta} {m u u' : List (String × Json)} {key : String}
      {f : FieldMeta} {nested : Bool} :
      (ServiceConfigSchema.mk fields).findField key = some f → f.type = .object →
        f.fields ≠ [] → (key, Json.obj u) ∈ m → Reach f.fields u nested fields' u' →
        Reach fields m nested fields' u'
  | item {fields fields₁ fields' : List FieldMeta} {m u₁ u' : List (String × Json)} {key : String}
      {f item : FieldMeta} {l : List Json} {nested nested' : Bool} :
      (ServiceConfigSchema.mk fields).findField key = some f → f.type = .array →
        f.items = some item → (key, Json.arr l) ∈ m → InArray item l nested fields₁ u₁ →
        Reach fields₁ u₁ nested' fields' u' → Reach fields m (nested || nested') fields' u'

/-- Every name of the object is the name of a field. -/
def OnlyDeclared (fields : List FieldMeta) (m : List (String × Json)) : Prop :=
  ∀ key v, (key, v) ∈ m → ((ServiceConfigSchema.mk fields).findField key).isSome = true

/-! ## §2. One turn of the walk -/

/-- The path of a member. -/
def memberPath (pre key : String) : String := if pre.isEmpty then key else pre ++ "." ++ key

/-- An object passes if its members do. -/
theorem rejectUnknownFields_valid (schema : ServiceConfigSchema) (m : List (String × Json))
    (pre : String) :
    (rejectUnknownFields schema m pre).valid = true ↔
      ∀ key v, (key, v) ∈ m → ∃ f, schema.findField key = some f ∧
        (rejectInValue f v (memberPath pre key)).valid = true := by
  induction m with
  | nil =>
    unfold rejectUnknownFields
    simp
  | cons member rest ih =>
    obtain ⟨key, v⟩ := member
    unfold rejectUnknownFields
    dsimp only
    cases hfield : schema.findField key with
    | none =>
      constructor
      · intro h
        cases h
      · intro h
        obtain ⟨f, hf, -⟩ := h key v (by simp)
        rw [hfield] at hf
        cases hf
    | some f =>
      dsimp only
      rw [andThen_valid, Bool.and_eq_true, ih]
      constructor
      · intro h key' v' hmem
        obtain heq | hmem := List.mem_cons.mp hmem
        · obtain ⟨rfl, rfl⟩ := Prod.mk.inj heq
          exact ⟨f, hfield, h.1⟩
        · exact h.2 key' v' hmem
      · intro h
        refine ⟨?_, fun key' v' hmem => h key' v' (List.mem_cons_of_mem _ hmem)⟩
        obtain ⟨f', hf', hvalid⟩ := h key v (by simp)
        rw [hfield] at hf'
        rw [Option.some.inj hf']
        exact hvalid

/-- The items of an array pass if those that are objects do. -/
theorem rejectInItems_valid (schema : ServiceConfigSchema) (l : List Json) (fullPath : String)
    (i : Nat) :
    (rejectInItems schema l fullPath i).valid = true ↔
      ∀ k v, l[k]? = some v →
        (rejectInItem schema v (fullPath ++ "[" ++ toString (i + k) ++ "]")).valid = true := by
  induction l generalizing i with
  | nil =>
    unfold rejectInItems
    simp
  | cons v rest ih =>
    unfold rejectInItems
    rw [andThen_valid, Bool.and_eq_true, ih]
    constructor
    · intro h k w hk
      cases k with
      | zero =>
        obtain rfl := Option.some.inj hk
        exact h.1
      | succ k =>
        have hplace : i + 1 + k = i + (k + 1) := by omega
        rw [← hplace]
        exact h.2 k w hk
    · intro h
      refine ⟨h 0 v rfl, ?_⟩
      intro k w hk
      have hplace : i + 1 + k = i + (k + 1) := by omega
      rw [hplace]
      exact h (k + 1) w hk

/-! ## §3. The walk -/

/-- What passes has declared names only, wherever the walk gets to. -/
theorem onlyDeclared_of_valid {fields fields' : List FieldMeta} {m u : List (String × Json)}
    {pre : String} (h : (rejectUnknownFields { fields := fields } m pre).valid = true)
    (hreach : Reach fields m false fields' u) : OnlyDeclared fields' u := by
  -- by induction on the way to the object, on which no array is inside an array
  generalize hnested : false = nested at hreach
  induction hreach generalizing pre with
  | here fields m =>
    intro key v hmem
    obtain ⟨f, hf, -⟩ := (rejectUnknownFields_valid _ m pre).mp h key v hmem
    rw [hf]
    rfl
  | member hfield htype hlist hmem _ ih =>
    obtain ⟨f, hf, hvalid⟩ := (rejectUnknownFields_valid _ _ pre).mp h _ _ hmem
    rw [hfield] at hf
    obtain rfl := Option.some.inj hf
    unfold rejectInValue at hvalid
    rw [if_pos (by simp [htype, hlist])] at hvalid
    exact ih hvalid hnested
  | @item fields fields₁ fields' m u₁ u' key f item l nested nested' hfield htype hitems hmem
      harray _ ih =>
    have hsplit : nested = false ∧ nested' = false := by simpa using hnested.symm
    obtain ⟨rfl, rfl⟩ := hsplit
    obtain ⟨f', hf, hvalid⟩ := (rejectUnknownFields_valid _ _ pre).mp h _ _ hmem
    rw [hfield] at hf
    obtain rfl := Option.some.inj hf
    cases harray with
    | item hlist hu =>
      unfold rejectInValue at hvalid
      rw [hitems] at hvalid
      dsimp only at hvalid
      rw [if_pos (by simp [htype, hlist]), rejectInItems_valid] at hvalid
      obtain ⟨k, hk⟩ := List.mem_iff_getElem?.mp hu
      exact ih (hvalid k _ hk) rfl

/-- The objects in a value: the value itself, or the items of an array. -/
def Json.HoldsObject (v : Json) (u : List (String × Json)) : Prop :=
  v = .obj u ∨ ∃ l, v = .arr l ∧ Json.obj u ∈ l

/-- An object passes if all that the walk gets to has declared names only. -/
theorem valid_of_onlyDeclared (v : Json) :
    ∀ u, Json.HoldsObject v u → ∀ fields pre,
      (∀ fields' u', Reach fields u false fields' u' → OnlyDeclared fields' u') →
      (rejectUnknownFields { fields := fields } u pre).valid = true := by
  induction v using Json.ind with
  | arr items ih =>
    intro u hu
    obtain hu | ⟨l, hl, hmem⟩ := hu
    · cases hu
    · obtain rfl := Json.arr.inj hl
      exact ih _ hmem u (Or.inl rfl)
  | obj members ih =>
    intro u hu
    obtain hu | ⟨l, hl, -⟩ := hu
    · obtain rfl := Json.obj.inj hu
      intro fields pre h
      rw [rejectUnknownFields_valid]
      intro key v hmem
      obtain ⟨f, hf⟩ := Option.isSome_iff_exists.mp (h _ _ (.here fields members) key v hmem)
      refine ⟨f, hf, ?_⟩
      unfold rejectInValue
      cases v with
      | obj u =>
        dsimp only
        split
        · rename_i hcond
          have hcond : f.type = .object ∧ f.fields ≠ [] := by simpa using hcond
          apply ih key _ hmem u (Or.inl rfl)
          intro fields' u' hreach
          exact h _ _ (.member hf hcond.1 hcond.2 hmem hreach)
        · rfl
      | arr l =>
        dsimp only
        cases hitems : f.items with
        | none => rfl
        | some item =>
          dsimp only
          split
          · rename_i hcond
            have hcond : f.type = .array ∧ item.fields ≠ [] := by simpa using hcond
            rw [rejectInItems_valid]
            intro k w hk
            cases w with
            | obj u =>
              have hu : Json.obj u ∈ l := List.mem_of_getElem? hk
              apply ih key _ hmem u (Or.inr ⟨l, rfl, hu⟩)
              intro fields' u' hreach
              exact h _ _ (.item hf hcond.1 hitems hmem (.item hcond.2 hu) hreach)
            | _ => rfl
          · rfl
      | _ => rfl
    · cases hl
  | _ =>
    intro u hu
    obtain hu | ⟨l, hl, -⟩ := hu
    · cases hu
    · cases hl

/-- **Where `rejectUnknownFields` looks.** -/
theorem rejectUnknownFields_valid_iff (fields : List FieldMeta) (m : List (String × Json))
    (pre : String) :
    (rejectUnknownFields { fields := fields } m pre).valid = true ↔
      ∀ fields' u, Reach fields m false fields' u → OnlyDeclared fields' u := by
  constructor
  · intro h fields' u hreach
    exact onlyDeclared_of_valid h hreach
  · intro h
    exact valid_of_onlyDeclared (.obj m) m (Or.inl rfl) fields pre h

/-- **Unknown fields are rejected** outside arrays that are items of arrays: a config is accepted
exactly if every object reached otherwise has declared names only, and the config is valid. -/
theorem unknown_fields_rejected (qt : ValidatorQt) (schema : ServiceConfigSchema)
    (fileConfig cliConfig out m : List (String × Json)) :
    mergeAndValidate qt schema fileConfig cliConfig .reject out = (ok, m) ↔
      fillDefaults (deepMerge fileConfig cliConfig) schema.fields = m ∧
      (∀ fields u, Reach schema.fields m false fields u → OnlyDeclared fields u) ∧
      (validate qt schema m).valid = true := by
  rw [mergeAndValidate_accepted, ← rejectUnknownFields_valid_iff schema.fields m ""]
  constructor
  · intro h
    exact ⟨h.1, h.2.1 rfl, h.2.2⟩
  · intro h
    exact ⟨h.1, fun _ => h.2.1, h.2.2⟩

/-- A matrix of objects, declared as an array of arrays. -/
def matrixItem : FieldMeta :=
  { type := .object, fields := [{ name := "value", type := .int }] }

def matrixSchema : ServiceConfigSchema where
  fields := [{
    name := "matrix"
    type := .array
    items := some { type := .array, items := some matrixItem } }]

/-- **An unknown name in an array of arrays.**  The config is accepted. -/
theorem matrix_unknown_accepted :
    let u := [("bad_key", Json.str "x"), ("value", Json.num 2)]
    let m := [("matrix", Json.arr [.arr [.obj u]])]
    mergeAndValidate plainQt matrixSchema [] m .reject [] = (ok, m) ∧
      Reach matrixSchema.fields m true matrixItem.fields u ∧
      ¬ OnlyDeclared matrixItem.fields u := by
  intro u m
  refine ⟨by rw [mergeAndValidate_accepted]; decide +kernel, ?_, ?_⟩
  · have hrow : InArray matrixItem [.obj u] false matrixItem.fields u :=
      .item (by simp [matrixItem]) (List.mem_singleton_self _)
    have hrows : InArray { type := .array, items := some matrixItem } [.arr [.obj u]] true
        matrixItem.fields u := .inner rfl rfl (List.mem_singleton_self _) hrow
    have hmem : ("matrix", Json.arr [.arr [.obj u]]) ∈ m := List.mem_singleton_self _
    exact Reach.item (rfl : matrixSchema.findField "matrix" = some _) rfl rfl hmem hrows
      (.here matrixItem.fields u)
  · intro h
    have hbad : ((ServiceConfigSchema.mk matrixItem.fields).findField "bad_key").isSome = true :=
      h _ _ List.mem_cons_self
    exact absurd hbad (by decide)

end Stdiolink.Meta
