/-
  Stdiolink.Meta.Defaults — `DefaultFiller`, `protocol/meta_validator.cpp`.

  The fields are gone through in order.  A missing field gets its default, and a field
  that declares fields of its own is filled inside and written back as an object,
  whatever was there.

  Main results:
    * `fillDefaults_onlyAdds_iff` — where filling only adds;
    * `filled_accepted_iff`       — where filling keeps an accepted object accepted;
    * `fillDefaults_twice`        — filling twice is filling once.
-/
import Stdiolink.Meta.Validator

namespace Stdiolink.Meta

open Stdiolink.Protocol

/-! ## §1. The filler -/

/-- One turn of the loop, given the filling of a nested object. -/
def fillOne (field : FieldMeta)
    (fillNested : List (String × Json) → List (String × Json))
    (result : List (String × Json)) : List (String × Json) :=
  let result :=
    if !Json.hasKey result field.name && !field.defaultValue.isNullish then
      Json.insert result field.name field.defaultValue
    else result
  if field.isNested then
    let nested :=
      if Json.hasKey result field.name then (Json.value result field.name).toObject else []
    Json.insert result field.name (.obj (fillNested nested))
  else result

mutual

/-- The loop body of `fillDefaults`. -/
def fillField (result : List (String × Json)) (field : FieldMeta) : List (String × Json) :=
  match field with
  | { fields, .. } => fillOne field (fun nested => fillDefaults nested fields) result
termination_by structural field

/-- `fillDefaults`. -/
def fillDefaults (data : List (String × Json)) (fields : List FieldMeta) :
    List (String × Json) :=
  match fields with
  | [] => data
  | field :: rest => fillDefaults (fillField data field) rest
termination_by structural fields

end

/-- The default, unless it is null or undefined. -/
def FieldMeta.default? (field : FieldMeta) : Option Json :=
  if field.defaultValue.isNullish then none else some field.defaultValue

/-! ## §2. What one turn does -/

theorem fillField_eq (result : List (String × Json)) (field : FieldMeta) :
    fillField result field =
      fillOne field (fun nested => fillDefaults nested field.fields) result := by
  rw [fillField.eq_def]
  cases field
  rfl

/-- **One turn.**  Only the field's own name changes: to what is there or else the default, and
for a nested field to the object filled inside. -/
theorem lookup_fillField (result : List (String × Json)) (field : FieldMeta) (key : String) :
    (fillField result field).lookup key =
      if key = field.name then
        if field.isNested then
          some (.obj (fillDefaults
            (((result.lookup field.name).or field.default?).getD .undefined).toObject
            field.fields))
        else (result.lookup field.name).or field.default?
      else result.lookup key := by
  -- the default is written only where nothing is there
  have hdefault : ∀ key, (if !Json.hasKey result field.name && !field.defaultValue.isNullish then
      Json.insert result field.name field.defaultValue else result).lookup key =
      if key = field.name then (result.lookup field.name).or field.default?
      else result.lookup key := by
    intro key
    by_cases hkey : key = field.name
    · subst hkey
      rw [if_pos rfl]
      cases hr : result.lookup field.name with
      | some w => simp [Json.hasKey, hr]
      | none =>
        cases hd : field.defaultValue.isNullish with
        | true => simp [Json.hasKey, hr, FieldMeta.default?, hd]
        | false => simp [Json.hasKey, hr, FieldMeta.default?, hd, Json.lookup_insert_self]
    · rw [if_neg hkey]
      split
      · rw [Json.lookup_insert_of_ne _ _ hkey]
      · rfl
  rw [fillField_eq, fillOne]
  dsimp only
  generalize (if !Json.hasKey result field.name && !field.defaultValue.isNullish then
      Json.insert result field.name field.defaultValue else result) = started at hdefault
  have hown := hdefault field.name
  rw [if_pos rfl] at hown
  cases hnested : field.isNested with
  | false => exact hdefault key
  | true =>
    have hnestedObject : (if Json.hasKey started field.name then
        (Json.value started field.name).toObject else []) =
        (((result.lookup field.name).or field.default?).getD .undefined).toObject := by
      rw [← hown, Json.hasKey, Json.value]
      cases started.lookup field.name <;> simp [Json.toObject]
    rw [if_pos rfl, if_pos rfl, hnestedObject, Json.lookup_insert]
    by_cases hkey : key = field.name
    · rw [if_pos hkey, if_pos hkey]
    · rw [if_neg hkey, if_neg hkey, hdefault key, if_neg hkey]

theorem fillDefaults_append (data : List (String × Json)) (fields fields' : List FieldMeta) :
    fillDefaults data (fields ++ fields') = fillDefaults (fillDefaults data fields) fields' := by
  induction fields generalizing data with
  | nil => rfl
  | cons field rest ih =>
    show fillDefaults (fillField data field) (rest ++ fields') = _
    rw [ih]
    rfl

variable {fields : List FieldMeta} {d : List (String × Json)} {name : String}

/-- The loop rule: what each turn keeps, the loop keeps. -/
theorem fillDefaults_rule {P : List (String × Json) → Prop} {data : List (String × Json)}
    (hdata : P data) (hturn : ∀ field ∈ fields, ∀ result, P result → P (fillField result field)) :
    P (fillDefaults data fields) := by
  induction fields generalizing data with
  | nil => exact hdata
  | cons field rest ih =>
    show P (fillDefaults (fillField data field) rest)
    apply ih
    · exact hturn field (by simp) data hdata
    · intro f hf
      exact hturn f (List.mem_cons_of_mem _ hf)

/-! ## §3. Filling only adds -/

/-- The value at a path of keys. -/
def atPath : Json → List String → Option Json
  | v, [] => some v
  | .obj m, key :: path => (m.lookup key).bind fun w => atPath w path
  | _, _ :: _ => none

/-- A value is the same; an object is an object with at least the same entries. -/
def Keeps (v v' : Json) : Prop :=
  (∀ m, v = .obj m → ∃ m', v' = .obj m' ∧
    ∀ key, Json.hasKey m key = true → Json.hasKey m' key = true) ∧
  ((∀ m, v ≠ .obj m) → v' = v)

/-- Every value at a path of keys is kept there. -/
def OnlyAdds (v v' : Json) : Prop :=
  ∀ path w, atPath v path = some w → ∃ w', atPath v' path = some w' ∧ Keeps w w'

/-- A present value of a nested object field, at some depth, is not an object. -/
inductive Clash : List FieldMeta → List (String × Json) → Prop where
  | here {fields : List FieldMeta} {d : List (String × Json)} {f : FieldMeta} {w : Json} :
      f ∈ fields → f.isNested = true → d.lookup f.name = some w → (∀ m, w ≠ .obj m) →
        Clash fields d
  | inside {fields : List FieldMeta} {d m : List (String × Json)} {f : FieldMeta} :
      f ∈ fields → f.isNested = true → d.lookup f.name = some (.obj m) → Clash f.fields m →
        Clash fields d

variable (qt : ValidatorQt) (m : List (String × Json))

theorem atPath_cons (key : String) (path : List String) :
    atPath (.obj m) (key :: path) = (m.lookup key).bind fun w => atPath w path := rfl

theorem OnlyAdds.refl (v : Json) : OnlyAdds v v := by
  intro path w hw
  exact ⟨w, hw, fun m hm => ⟨m, hm, fun _ h => h⟩, fun _ => rfl⟩

/-- Between objects, entry by entry. -/
theorem onlyAdds_obj {m m' : List (String × Json)} :
    OnlyAdds (.obj m) (.obj m') ↔
      ∀ key w, m.lookup key = some w → ∃ w', m'.lookup key = some w' ∧ OnlyAdds w w' := by
  constructor
  · intro h key w hw
    have hentry : atPath (.obj m) [key] = some w := by
      rw [atPath_cons, hw]
      rfl
    obtain ⟨w', hw', -⟩ := h [key] w hentry
    cases hkey : m'.lookup key with
    | none =>
      rw [atPath_cons, hkey] at hw'
      cases hw'
    | some u =>
      refine ⟨u, rfl, ?_⟩
      intro path x hx
      have hpath : atPath (.obj m) (key :: path) = some x := by
        rw [atPath_cons, hw]
        exact hx
      have hkept := h (key :: path) x hpath
      rw [atPath_cons, hkey] at hkept
      exact hkept
  · intro h path w hw
    cases path with
    | nil =>
      obtain rfl := Option.some.inj hw
      refine ⟨.obj m', rfl, ?_, fun hno => absurd rfl (hno m)⟩
      intro m₀ hm₀
      obtain rfl := Json.obj.inj hm₀
      refine ⟨m', rfl, ?_⟩
      intro key hkey
      obtain ⟨u, hu⟩ := Option.isSome_iff_exists.mp hkey
      obtain ⟨u', hu', -⟩ := h key u hu
      rw [Json.hasKey, hu', Option.isSome_some]
    | cons key path =>
      rw [atPath_cons] at hw
      obtain ⟨u, hu, hw⟩ := Option.bind_eq_some_iff.mp hw
      obtain ⟨u', hu', hadds⟩ := h key u hu
      rw [atPath_cons, hu']
      exact hadds path w hw

/-- Without a clash every entry of `d` survives any filling of what grew out of `d`. -/
theorem onlyAdds_of_not_clash (fields : List FieldMeta) (d r : List (String × Json))
    (hclash : ¬ Clash fields d) (hadds : OnlyAdds (.obj d) (.obj r)) :
    OnlyAdds (.obj d) (.obj (fillDefaults r fields)) := by
  induction fields using FieldMeta.listInd generalizing d r with
  | fields fields ih =>
    apply fillDefaults_rule (P := fun result => OnlyAdds (.obj d) (.obj result)) hadds
    intro f hf result hresult
    rw [onlyAdds_obj] at hresult ⊢
    intro key w hw
    obtain ⟨w', hw', hkept⟩ := hresult key w hw
    rw [lookup_fillField]
    by_cases hkey : key = f.name
    · subst hkey
      rw [if_pos rfl, hw']
      cases hnested : f.isNested with
      | false => exact ⟨w', rfl, hkept⟩
      | true =>
        -- what is there is an object, or there would be a clash
        rw [if_pos rfl]
        have hobj : ∃ m, w = .obj m := by
          by_contra hno
          exact hclash (.here hf hnested hw fun m hm => hno ⟨m, hm⟩)
        obtain ⟨m, rfl⟩ := hobj
        obtain ⟨m', rfl, -⟩ : ∃ m', w' = .obj m' ∧ _ := by
          obtain ⟨u, hu, hkeeps, -⟩ := hkept [] (.obj m) rfl
          obtain rfl := Option.some.inj hu
          exact hkeeps m rfl
        refine ⟨_, rfl, ?_⟩
        exact ih f hf m m' (fun h => hclash (.inside hf hnested hw h)) hkept
    · rw [if_neg hkey]
      exact ⟨w', hw', hkept⟩

/-- A value that is no object is kept as it is. -/
theorem OnlyAdds.eq {v v' : Json} (h : OnlyAdds v v') (hv : ∀ m, v ≠ .obj m) : v' = v := by
  obtain ⟨w, hw, -, hkept⟩ := h [] v rfl
  rw [← hkept hv]
  exact Option.some.inj hw

/-- An object is kept as an object. -/
theorem OnlyAdds.obj {m : List (String × Json)} {v' : Json} (h : OnlyAdds (.obj m) v') :
    ∃ m', v' = .obj m' := by
  obtain ⟨w, hw, hobject, -⟩ := h [] (.obj m) rfl
  obtain ⟨m', hm', -⟩ := hobject m rfl
  exact ⟨m', (Option.some.inj hw).trans hm'⟩

/-- Where only entries were added, every place is still there. -/
theorem Place.onlyAdds {f g : FieldMeta} {v v' w : Json} (h : Place f v g w)
    (hadds : OnlyAdds v v') : ∃ w', Place f v' g w' ∧ OnlyAdds w w' := by
  induction h generalizing v' with
  | here f v => exact ⟨v', .here f v', hadds⟩
  | member ht hf hw _ ih =>
    obtain ⟨m', rfl⟩ := hadds.obj
    obtain ⟨u, hu, hkept⟩ := onlyAdds_obj.mp hadds _ _ hw
    obtain ⟨w', hplace, hadds'⟩ := ih hkept
    exact ⟨w', .member ht hf hu hplace, hadds'⟩
  | item ht hitem hw hplace _ =>
    obtain rfl := hadds.eq (by simp)
    exact ⟨_, .item ht hitem hw hplace, OnlyAdds.refl _⟩

/-- A type is not made right by what is added. -/
theorem TypeChecked.of_onlyAdds {type : FieldType} {w w' : Json} (h : TypeChecked type w')
    (hadds : OnlyAdds w w') : TypeChecked type w := by
  by_cases hobject : ∃ m, w = .obj m
  · obtain ⟨m, rfl⟩ := hobject
    obtain ⟨m', rfl⟩ := hadds.obj
    cases type <;> simp_all [TypeChecked, TypeDescribed]
  · rw [hadds.eq fun m hm => hobject ⟨m, hm⟩] at h
    exact h

/-- There is an object at the path. -/
def ObjectAt (m : List (String × Json)) (path : List String) : Prop :=
  ∃ u, atPath (.obj m) path = some (.obj u)

theorem objectAt_cons {m : List (String × Json)} {key : String} {path : List String} :
    ObjectAt m (key :: path) ↔ ∃ u, m.lookup key = some (.obj u) ∧ ObjectAt u path := by
  constructor
  · intro h
    obtain ⟨u, hu⟩ := h
    rw [atPath_cons] at hu
    obtain ⟨w, hw, hrest⟩ := Option.bind_eq_some_iff.mp hu
    -- a value that has a path below it, or is the object itself, is an object
    cases w with
    | obj members => exact ⟨members, hw, u, hrest⟩
    | _ => cases path <;> cases hrest
  · intro h
    obtain ⟨u, hu, v, hv⟩ := h
    exact ⟨v, by rw [atPath_cons, hu]; exact hv⟩

/-- Objects stay objects. -/
theorem ObjectAt.fillDefaults {m : List (String × Json)} {path : List String}
    (h : ObjectAt m path) (fields : List FieldMeta) : ObjectAt (fillDefaults m fields) path := by
  induction fields using FieldMeta.listInd generalizing m path with
  | fields fields ih =>
    apply fillDefaults_rule (P := fun result => ObjectAt result path) h
    intro f hf result hresult
    cases path with
    | nil => exact ⟨_, rfl⟩
    | cons key path =>
      obtain ⟨u, hu, hrest⟩ := objectAt_cons.mp hresult
      rw [objectAt_cons, lookup_fillField]
      by_cases hkey : key = f.name
      · subst hkey
        rw [if_pos rfl, hu]
        cases hnested : f.isNested with
        | false => exact ⟨u, rfl, hrest⟩
        | true => exact ⟨_, rfl, ih f hf hrest⟩
      · rw [if_neg hkey]
        exact ⟨u, hu, hrest⟩

/-- A clash names a path where `d` has no object and every filling puts one. -/
theorem Clash.overwritten (h : Clash fields d) :
    ∃ path w, atPath (.obj d) path = some w ∧ (∀ m, w ≠ .obj m) ∧
      ∀ r, ObjectAt (fillDefaults r fields) path := by
  -- the turn of the clashing field puts the object there, the later turns keep it
  have hturn : ∀ {fields : List FieldMeta} {f : FieldMeta} {path : List String}, f ∈ fields →
      f.isNested = true → (∀ r, ObjectAt (Meta.fillDefaults r f.fields) path) →
        ∀ r, ObjectAt (Meta.fillDefaults r fields) (f.name :: path) := by
    intro fields f path hf hnested hpath r
    obtain ⟨before, after, rfl⟩ := List.append_of_mem hf
    rw [fillDefaults_append]
    show ObjectAt (Meta.fillDefaults (fillField (Meta.fillDefaults r before) f) after) _
    apply ObjectAt.fillDefaults
    rw [objectAt_cons, lookup_fillField, if_pos rfl, hnested, if_pos rfl]
    exact ⟨_, rfl, hpath _⟩
  induction h with
  | here hf hnested hw hno =>
    refine ⟨[_], _, ?_, hno, hturn hf hnested fun r => ⟨_, rfl⟩⟩
    rw [atPath_cons, hw]
    rfl
  | inside hf hnested hw _ ih =>
    obtain ⟨path, w, hpath, hno, hall⟩ := ih
    refine ⟨_ :: path, w, ?_, hno, hturn hf hnested hall⟩
    rw [atPath_cons, hw]
    exact hpath

/-- **Where filling only adds.**  Everything that the object holds is kept unless a field that
declares fields of its own has a value that is no object. -/
theorem fillDefaults_onlyAdds_iff (fields : List FieldMeta) (d : List (String × Json)) :
    OnlyAdds (.obj d) (.obj (fillDefaults d fields)) ↔ ¬ Clash fields d := by
  constructor
  · intro h hclash
    obtain ⟨path, w, hw, hno, hall⟩ := hclash.overwritten
    obtain ⟨w', hw', hkeeps⟩ := h path w hw
    obtain ⟨u, hu⟩ := hall d
    obtain rfl := Option.some.inj (hw'.symm.trans hu)
    exact hno u (hkeeps.2 hno).symm
  · intro hclash
    exact onlyAdds_of_not_clash fields d d hclash (OnlyAdds.refl _)

/-- A text where the object of host and port should be is replaced by the object of defaults,
which validation then accepts. -/
theorem text_replaced_by_defaults :
    (let host : FieldMeta := { name := "host", type := .string, defaultValue := .str "localhost" }
     let db : FieldMeta := { name := "db", type := .object, fields := [host] }
     ¬ OnlyAdds (.obj [("db", .str "x")]) (.obj (fillDefaults [("db", .str "x")] [db])) ∧
      (validateObject plainQt [("db", .str "x")] [db] [] true).valid = false ∧
      (validateObject plainQt (fillDefaults [("db", .str "x")] [db]) [db] [] true).valid
        = true) := by
  refine ⟨?_, by decide +kernel, by decide +kernel⟩
  intro h
  obtain ⟨w', hw', hkeeps⟩ := h ["db"] (.str "x") rfl
  have hsame := hkeeps.2 (by intro m hm; cases hm)
  subst hsame
  revert hw'
  decide +kernel

/-! ## §4. What the filled object holds -/

/-- What filling makes of a missing name: the first default, or before any default an object for
the first nested field. -/
def made : List FieldMeta → String → Option Json
  | [], _ => none
  | f :: rest, name =>
      if f.name = name then
        match f.default? with
        | some v => some v
        | none => if f.isNested then some (.obj []) else made rest name
      else made rest name

/-- What stands at a name before the inside of an object is filled. -/
def started (fields : List FieldMeta) (d : List (String × Json)) (name : String) : Option Json :=
  (d.lookup name).or (made fields name)

/-- Some declaration of the name is nested. -/
def nestedName (fields : List FieldMeta) (name : String) : Bool :=
  fields.any fun f => f.name = name && f.isNested

/-- The fields declared inside the name, by all its declarations in order. -/
def innerFields (fields : List FieldMeta) (name : String) : List FieldMeta :=
  (fields.filter fun f => f.name = name && f.isNested).flatMap FieldMeta.fields

theorem mem_innerFields {g : FieldMeta} :
    g ∈ innerFields fields name ↔
      ∃ f ∈ fields, f.name = name ∧ f.isNested = true ∧ g ∈ f.fields := by
  simp only [innerFields, List.mem_flatMap, List.mem_filter, Bool.and_eq_true, decide_eq_true_eq]
  constructor
  · intro h
    obtain ⟨f, ⟨hf, hname, hnested⟩, hg⟩ := h
    exact ⟨f, hf, hname, hnested, hg⟩
  · intro h
    obtain ⟨f, hf, hname, hnested, hg⟩ := h
    exact ⟨f, ⟨hf, hname, hnested⟩, hg⟩

theorem nestedName_iff :
    nestedName fields name = true ↔ ∃ f ∈ fields, f.name = name ∧ f.isNested = true := by
  simp [nestedName]

theorem innerFields_eq_nil (h : nestedName fields name = false) : innerFields fields name = [] := by
  rw [nestedName, List.any_eq_false] at h
  rw [innerFields, List.filter_eq_nil_iff.mpr h]
  rfl

/-- A nested declaration leaves something behind. -/
theorem started_isSome (d : List (String × Json)) (h : nestedName fields name = true) :
    ∃ v, started fields d name = some v := by
  have hmade : ∃ v, made fields name = some v := by
    induction fields with
    | nil => cases h
    | cons f rest ih =>
      rw [made]
      by_cases hname : f.name = name
      · rw [if_pos hname]
        cases hdefault : f.default? with
        | some v => exact ⟨v, rfl⟩
        | none =>
          cases hnested : f.isNested with
          | true => exact ⟨_, rfl⟩
          | false =>
            have hrest : nestedName rest name = true := by
              simpa [nestedName, hnested] using h
            obtain ⟨v, hv⟩ := ih hrest
            exact ⟨v, by simpa using hv⟩
      · have hrest : nestedName rest name = true := by
          simpa [nestedName, hname] using h
        rw [if_neg hname]
        exact ih hrest
  obtain ⟨v, hv⟩ := hmade
  rw [started, hv]
  cases d.lookup name with
  | none => exact ⟨v, rfl⟩
  | some w => exact ⟨w, rfl⟩

/-- **The filled object**, name by name. -/
theorem lookup_fillDefaults (fields : List FieldMeta) (d : List (String × Json)) (name : String) :
    (fillDefaults d fields).lookup name =
      if nestedName fields name then
        (started fields d name).map fun v =>
          .obj (fillDefaults v.toObject (innerFields fields name))
      else started fields d name := by
  induction fields generalizing d with
  | nil => simp [fillDefaults, nestedName, started, made]
  | cons f rest ih =>
    show (fillDefaults (fillField d f) rest).lookup name = _
    rw [ih]
    by_cases hname : f.name = name
    · subst hname
      have hinner : innerFields (f :: rest) f.name =
          (if f.isNested then f.fields else []) ++ innerFields rest f.name := by
        cases hnested : f.isNested <;> simp [innerFields, hnested]
      have hany : nestedName (f :: rest) f.name = (f.isNested || nestedName rest f.name) := by
        simp [nestedName]
      rw [hinner, hany, started, started, lookup_fillField, if_pos rfl, made, if_pos rfl]
      cases hnested : f.isNested with
      | false =>
        simp only [Bool.false_eq_true, if_false, Bool.false_or, List.nil_append]
        cases d.lookup f.name <;> cases f.default? <;> rfl
      | true =>
        -- the turn of `f` puts an object there; the later ones fill it further
        simp only [if_true, Bool.true_or, Option.some_or, Option.map_some]
        have hbase : (((d.lookup f.name).or f.default?).getD .undefined).toObject =
            (((d.lookup f.name).or (match f.default? with
              | some v => some v
              | none => some (.obj []))).getD .undefined).toObject := by
          cases d.lookup f.name <;> cases f.default? <;> rfl
        have hsome : ∃ v, (d.lookup f.name).or (match f.default? with
              | some v => some v
              | none => some (.obj [])) = some v := by
          cases d.lookup f.name <;> cases f.default? <;> exact ⟨_, rfl⟩
        obtain ⟨v, hv⟩ := hsome
        rw [hbase, hv, Option.map_some, Option.getD_some, fillDefaults_append]
        cases hrest : nestedName rest f.name with
        | true => rfl
        | false =>
          rw [innerFields_eq_nil hrest]
          rfl
    · have hinner : innerFields (f :: rest) name = innerFields rest name := by
        simp [innerFields, hname]
      have hany : nestedName (f :: rest) name = nestedName rest name := by
        simp [nestedName, hname]
      rw [hinner, hany, started, started, lookup_fillField, if_neg (Ne.symm hname), made,
        if_neg hname]

/-! ## §5. Filling keeps an object accepted -/

/-- What `validateObject` asks for one field. -/
structure FieldAccepted (qt : ValidatorQt) (m : List (String × Json)) (f : FieldMeta) : Prop where
  required : f.required = true → Json.hasKey m f.name = true
  present : ∀ w, m.lookup f.name = some w → (validateField qt w f).valid = true

theorem validateObject_valid (fields : List FieldMeta) (requiredKeys : List String)
    (allowUnknown : Bool) :
    (validateObject qt m fields requiredKeys allowUnknown).valid = true ↔
      (∀ f ∈ fields, FieldAccepted qt m f) ∧
      (∀ key ∈ requiredKeys, Json.hasKey m key = true) ∧
      (allowUnknown = false → ∀ key, Json.hasKey m key = true → ∃ f ∈ fields, f.name = key) := by
  rw [validateObject, checkObject_valid, validateFields_valid]
  constructor
  · intro h
    obtain ⟨hrequired, hkeys, hpresent, hknown⟩ := h
    exact ⟨fun f hf => ⟨hrequired f hf, hpresent f hf⟩, hkeys, hknown⟩
  · intro h
    obtain ⟨hfields, hkeys, hknown⟩ := h
    exact ⟨fun f hf => (hfields f hf).required, hkeys, fun f hf => (hfields f hf).present, hknown⟩

/-- The rules that are checked of an object in a field of another kind than nested. -/
theorem validateField_obj (f : FieldMeta) :
    (validateField qt (.obj m) f).valid = true ↔
      (f.type = .object ∨ f.type = .any) ∧
      (f.isNested = true → (validateObject qt m f.fields f.requiredKeys true).valid = true) := by
  have htype : TypeChecked f.type (.obj m) ↔ f.type = .object ∨ f.type = .any := by
    cases f.type <;> simp [TypeChecked, TypeDescribed]
  have hconstraints : f.type = .object ∨ f.type = .any → ConstraintsHold qt f asDouble (.obj m) := by
    intro hkind
    constructor <;> intros <;> simp_all
  rw [validateField_valid, checkType_valid, checkConstraints_valid, htype]
  constructor
  · intro h
    obtain ⟨hkind, -, hobject, -⟩ := h
    refine ⟨hkind, ?_⟩
    intro hnested
    rw [FieldMeta.isNested, Bool.and_eq_true, decide_eq_true_eq, Bool.not_eq_true',
      List.isEmpty_eq_false_iff] at hnested
    exact hobject hnested.1 hnested.2
  · intro h
    obtain ⟨hkind, hobject⟩ := h
    refine ⟨hkind, hconstraints hkind, ?_, fun _ _ _ w hw => by cases hw⟩
    intro ht hne
    apply hobject
    rw [FieldMeta.isNested, Bool.and_eq_true, decide_eq_true_eq, Bool.not_eq_true',
      List.isEmpty_eq_false_iff]
    exact ⟨ht, hne⟩

/-- The declarations at every depth of nested fields. -/
inductive Declared : List FieldMeta → FieldMeta → Prop where
  | here {fields : List FieldMeta} {f : FieldMeta} : f ∈ fields → Declared fields f
  | inside {fields : List FieldMeta} {f g : FieldMeta} :
      f ∈ fields → f.isNested = true → Declared f.fields g → Declared fields g

/-- Every declared default satisfies its own field. -/
def DefaultsFit (qt : ValidatorQt) (fields : List FieldMeta) : Prop :=
  ∀ f, Declared fields f → ∀ v, f.default? = some v → (validateField qt v f).valid = true

/-- **What filling leaves wanting**, somewhere in the object: a required field or key that
nothing supplies, or among several declarations of a name one that does not take what the others
put there. -/
inductive Wanting (qt : ValidatorQt) : List FieldMeta → List (String × Json) → Prop where
  | missing {fields : List FieldMeta} {d : List (String × Json)} {f : FieldMeta} :
      f ∈ fields → f.required = true → started fields d f.name = none → Wanting qt fields d
  | missingKey {fields : List FieldMeta} {d : List (String × Json)} {f : FieldMeta} {v : Json}
      {key : String} :
      f ∈ fields → f.isNested = true → started fields d f.name = some v →
        key ∈ f.requiredKeys → started (innerFields fields f.name) v.toObject key = none →
          Wanting qt fields d
  | otherDefault {fields : List FieldMeta} {d : List (String × Json)} {f : FieldMeta} {v : Json} :
      f ∈ fields → nestedName fields f.name = false → started fields d f.name = some v →
        f.default? ≠ some v → (validateField qt v f).valid = false → Wanting qt fields d
  | otherObject {fields : List FieldMeta} {d : List (String × Json)} {f : FieldMeta} :
      f ∈ fields → nestedName fields f.name = true → f.type ≠ .object → f.type ≠ .any →
        Wanting qt fields d
  | inside {fields : List FieldMeta} {d : List (String × Json)} {f : FieldMeta} {v : Json} :
      f ∈ fields → f.isNested = true → started fields d f.name = some v →
        Wanting qt (innerFields fields f.name) v.toObject → Wanting qt fields d

/-- Induction on lists of declarations: the fields declared inside a name are smaller. -/
theorem innerInd {P : List FieldMeta → Prop}
    (fields : ∀ fields : List FieldMeta,
      (∀ name, nestedName fields name = true → P (innerFields fields name)) → P fields)
    (fields₀ : List FieldMeta) : P fields₀ := by
  have hsize : ∀ {f g : FieldMeta}, g ∈ f.fields → sizeOf g < sizeOf f := by
    intro f g hg
    have hlt := List.sizeOf_lt_of_mem hg
    cases f
    simp only [FieldMeta.mk.sizeOf_spec] at hlt ⊢
    omega
  -- the induction is on a bound of the sizes of the members
  have hbound : ∀ n, ∀ fields : List FieldMeta, (∀ f ∈ fields, sizeOf f < n) → P fields := by
    intro n
    induction n with
    | zero =>
      intro fs hfs
      apply fields
      intro name hname
      obtain ⟨f, hf, -⟩ := nestedName_iff.mp hname
      exact absurd (hfs f hf) (by omega)
    | succ n ih =>
      intro fs hfs
      apply fields
      intro name _
      apply ih
      intro g hg
      obtain ⟨f, hf, -, -, hgf⟩ := mem_innerFields.mp hg
      have hlt := hsize hgf
      have hle := hfs f hf
      omega
  apply hbound (sizeOf fields₀)
  intro f hf
  exact List.sizeOf_lt_of_mem hf

theorem DefaultsFit.innerFields {qt : ValidatorQt} {fields : List FieldMeta}
    (h : DefaultsFit qt fields) (name : String) : DefaultsFit qt (innerFields fields name) := by
  intro g hg
  apply h
  cases hg with
  | here hmem =>
    obtain ⟨f, hf, -, hnested, hgf⟩ := mem_innerFields.mp hmem
    exact .inside hf hnested (.here hgf)
  | inside hmem hnested' hrest =>
    obtain ⟨f, hf, -, hnested, hgf⟩ := mem_innerFields.mp hmem
    exact .inside hf hnested (.inside hgf hnested' hrest)

/-- A nested field makes its name nested. -/
theorem nestedName_of_mem {f : FieldMeta} (hf : f ∈ fields) (hnested : f.isNested = true) :
    nestedName fields f.name = true :=
  nestedName_iff.mpr ⟨f, hf, rfl, hnested⟩

/-- Under a nested name stands the filled object of what was there. -/
theorem lookup_fillDefaults_nested {v : Json} (hname : nestedName fields name = true)
    (hv : started fields d name = some v) : (fillDefaults d fields).lookup name =
      some (.obj (fillDefaults v.toObject (innerFields fields name))) := by
  rw [lookup_fillDefaults, if_pos hname, hv]
  rfl

/-- What is left wanting is refused, in the object or inside it. -/
theorem Wanting.not_accepted {qt : ValidatorQt} (h : Wanting qt fields d) :
    ¬ ∀ f ∈ fields, FieldAccepted qt (fillDefaults d fields) f := by
  induction h with
  | missing hf hrequired hnone =>
    intro hall
    have hkey := (hall _ hf).required hrequired
    rw [Json.hasKey, lookup_fillDefaults, hnone] at hkey
    simp at hkey
  | missingKey hf hnested hv hkey hnone =>
    intro hall
    have hname := nestedName_of_mem hf hnested
    have hvalid := (hall _ hf).present _ (lookup_fillDefaults_nested hname hv)
    rw [validateField_obj] at hvalid
    obtain ⟨-, hkeys, -⟩ := (validateObject_valid qt _ _ _ _).mp (hvalid.2 hnested)
    have hhas := hkeys _ hkey
    rw [Json.hasKey, lookup_fillDefaults, hnone] at hhas
    simp at hhas
  | otherDefault hf hflat hv _ hbad =>
    intro hall
    have hvalid := (hall _ hf).present _ (by rw [lookup_fillDefaults, hflat]; exact hv)
    rw [hbad] at hvalid
    cases hvalid
  | @otherObject fields d f hf hname hobject hany =>
    intro hall
    obtain ⟨v, hv⟩ := started_isSome d hname
    have hvalid := (hall _ hf).present _ (lookup_fillDefaults_nested hname hv)
    rw [validateField_obj] at hvalid
    exact hvalid.1.elim hobject hany
  | inside hf hnested hv _ ih =>
    intro hall
    apply ih
    intro g hg
    -- the declarations of the name accept the same object
    obtain ⟨f', hf', hname, hnested', hg'⟩ := mem_innerFields.mp hg
    have hvalid := (hall f' hf').present _
      (by rw [hname]; exact lookup_fillDefaults_nested (nestedName_of_mem hf hnested) hv)
    rw [validateField_obj] at hvalid
    exact ((validateObject_valid qt _ _ _ _).mp (hvalid.2 hnested')).1 g hg'

/-- When nothing is left wanting, every field is accepted. -/
theorem filled_fields_accepted (fields : List FieldMeta) (hfit : DefaultsFit qt fields)
    (d : List (String × Json)) (hno : ¬ Wanting qt fields d) :
    ∀ f ∈ fields, FieldAccepted qt (fillDefaults d fields) f := by
  induction fields using innerInd generalizing d with
  | fields fields ih =>
    intro f hf
    refine ⟨?_, ?_⟩
    · intro hrequired
      cases hv : started fields d f.name with
      | none => exact absurd (.missing hf hrequired hv) hno
      | some v =>
        rw [Json.hasKey, lookup_fillDefaults, hv]
        cases nestedName fields f.name <;> rfl
    · intro w hw
      cases hname : nestedName fields f.name with
      | false =>
        -- the value is the field's own default, or another declaration put it there
        rw [lookup_fillDefaults, hname] at hw
        by_cases hown : f.default? = some w
        · exact hfit f (.here hf) w hown
        · by_contra hbad
          exact hno (.otherDefault hf hname hw hown (by simpa using hbad))
      | true =>
        obtain ⟨v, hv⟩ := started_isSome d hname
        rw [lookup_fillDefaults_nested hname hv] at hw
        obtain rfl := Option.some.inj hw
        rw [validateField_obj]
        refine ⟨?_, ?_⟩
        · by_contra hkind
          exact hno (.otherObject hf hname (fun h => hkind (Or.inl h)) fun h => hkind (Or.inr h))
        · intro hnested
          rw [validateObject_valid]
          refine ⟨?_, ?_, fun h => by cases h⟩
          · intro g hg
            have hinner : ¬ Wanting qt (innerFields fields f.name) v.toObject :=
              fun h => hno (.inside hf hnested hv h)
            exact ih _ hname (hfit.innerFields _) _ hinner g
              (mem_innerFields.mpr ⟨f, hf, rfl, hnested, hg⟩)
          · intro key hkey
            cases hstart : started (innerFields fields f.name) v.toObject key with
            | none => exact absurd (.missingKey hf hnested hv hkey hstart) hno
            | some u =>
              rw [Json.hasKey, lookup_fillDefaults, hstart]
              cases nestedName (innerFields fields f.name) key <;> rfl

/-- The fields of a filled object are accepted when filling left nothing wanting. -/
theorem filled_fields_accepted_iff (fields : List FieldMeta) (hfit : DefaultsFit qt fields)
    (d : List (String × Json)) :
    (∀ f ∈ fields, FieldAccepted qt (fillDefaults d fields) f) ↔ ¬ Wanting qt fields d := by
  constructor
  · intro hall hwanting
    exact hwanting.not_accepted hall
  · exact filled_fields_accepted qt fields hfit d

/-- Filling removes no key and adds only declared ones. -/
theorem hasKey_fillDefaults (fields : List FieldMeta) (d : List (String × Json)) (key : String) :
    (Json.hasKey d key = true → Json.hasKey (fillDefaults d fields) key = true) ∧
    (Json.hasKey (fillDefaults d fields) key = true →
      Json.hasKey d key = true ∨ ∃ f ∈ fields, f.name = key) := by
  refine ⟨?_, ?_⟩
  · intro h
    obtain ⟨w, hw⟩ := Option.isSome_iff_exists.mp h
    rw [Json.hasKey, lookup_fillDefaults, started, hw]
    cases nestedName fields key <;> rfl
  · apply fillDefaults_rule (P := fun result => Json.hasKey result key = true →
      Json.hasKey d key = true ∨ ∃ f ∈ fields, f.name = key) Or.inl
    intro f hf result hresult hkey
    by_cases hname : key = f.name
    · exact Or.inr ⟨f, hf, hname.symm⟩
    · rw [Json.hasKey, lookup_fillField, if_neg hname] at hkey
      exact hresult hkey

/-- **Where an accepted object is still accepted once filled.**  Where filling leaves nothing
wanting. -/
theorem filled_accepted_iff (qt : ValidatorQt) (fields : List FieldMeta)
    (d : List (String × Json)) (requiredKeys : List String) (allowUnknown : Bool)
    (hfit : DefaultsFit qt fields)
    (hd : (validateObject qt d fields requiredKeys allowUnknown).valid = true) :
    (validateObject qt (fillDefaults d fields) fields requiredKeys allowUnknown).valid = true ↔
      ¬ Wanting qt fields d := by
  rw [validateObject_valid] at hd
  obtain ⟨-, hkeys, hknown⟩ := hd
  rw [validateObject_valid, filled_fields_accepted_iff qt fields hfit]
  constructor
  · intro h
    exact h.1
  · intro h
    refine ⟨h, ?_, ?_⟩
    · intro key hkey
      exact (hasKey_fillDefaults fields d key).1 (hkeys key hkey)
    · intro hstrict key hkey
      obtain hold | hnew := (hasKey_fillDefaults fields d key).2 hkey
      · exact hknown hstrict key hold
      · exact hnew

/-- A host with a default, and a port that is required. -/
def hostField : FieldMeta := { name := "host", type := .string, defaultValue := .str "localhost" }

def portField : FieldMeta := { name := "port", type := .int, required := true }

/-- An object field that need not be there. -/
def dbField (fields : List FieldMeta) : FieldMeta :=
  { name := "db", type := .object, fields := fields }

theorem defaultsFit_db (fields : List FieldMeta) (h : ∀ f ∈ fields, f = hostField ∨ f = portField) :
    DefaultsFit plainQt [dbField fields] := by
  have hhost : ∀ v, hostField.default? = some v → (validateField plainQt v hostField).valid = true := by
    intro v hv
    obtain rfl := Option.some.inj (show some (Json.str "localhost") = some v from hv)
    decide +kernel
  have hport : ∀ v, portField.default? ≠ some v := by
    intro v hv
    cases hv
  intro f hf v hv
  cases hf with
  | here hmem =>
    obtain rfl := List.mem_singleton.mp hmem
    cases hv
  | inside hmem _ hbelow =>
    obtain rfl := List.mem_singleton.mp hmem
    -- neither the host nor the port declares fields
    cases hbelow with
    | here hmem =>
      obtain rfl | rfl := h f hmem
      · exact hhost v hv
      · exact absurd hv (hport v)
    | inside hmem hnested _ =>
      obtain rfl | rfl := h _ hmem <;> cases hnested

/-- With the host alone the object that filling makes lacks nothing. -/
theorem host_filled :
    (validateObject plainQt (fillDefaults [] [dbField [hostField]]) [dbField [hostField]] []
        true).valid = true ∧ ¬ Wanting plainQt [dbField [hostField]] [] := by
  have hvalid : (validateObject plainQt (fillDefaults [] [dbField [hostField]])
      [dbField [hostField]] [] true).valid = true := by decide +kernel
  exact ⟨hvalid, (filled_accepted_iff plainQt [dbField [hostField]] [] [] true
    (defaultsFit_db [hostField] (by simp)) (by decide +kernel)).mp hvalid⟩

/-- The empty object is accepted, and rejected once filling has made `"db"` without its port. -/
theorem empty_rejected_once_filled :
    DefaultsFit plainQt [dbField [hostField, portField]] ∧
    (validateObject plainQt [] [dbField [hostField, portField]] [] true).valid = true ∧
    (validateObject plainQt (fillDefaults [] [dbField [hostField, portField]])
      [dbField [hostField, portField]] [] true).valid = false :=
  ⟨defaultsFit_db _ (by simp), by decide +kernel, by decide +kernel⟩

/-! ## §6. Filling twice -/

/-- There is nothing left to fill for the field. -/
inductive Settled : FieldMeta → List (String × Json) → Prop where
  | plain {f : FieldMeta} {m : List (String × Json)} (hnested : f.isNested = false)
      (hthere : m.lookup f.name = none → f.default? = none) : Settled f m
  | nested {f : FieldMeta} {m u : List (String × Json)} (hnested : f.isNested = true)
      (hthere : m.lookup f.name = some (.obj u)) (hinside : ∀ g ∈ f.fields, Settled g u) :
      Settled f m

/-- Then the turn of the field changes nothing. -/
theorem Settled.fillField_eq {f : FieldMeta} {m : List (String × Json)} (h : Settled f m) :
    fillField m f = m := by
  induction h with
  | @plain f m hnested hthere =>
    have hno : (!Json.hasKey m f.name && !f.defaultValue.isNullish) = false := by
      cases hm : m.lookup f.name with
      | some w => simp [Json.hasKey, hm]
      | none =>
        have hdefault := hthere hm
        unfold FieldMeta.default? at hdefault
        split_ifs at hdefault with hnull
        rw [hnull, Bool.not_true, Bool.and_false]
    rw [Meta.fillField_eq]
    unfold fillOne
    simp only [hno, hnested, Bool.false_eq_true, if_false]
  | @nested f m u hnested hthere hinside ih =>
    have hkey : Json.hasKey m f.name = true := by rw [Json.hasKey, hthere, Option.isSome_some]
    have hvalue : Json.value m f.name = .obj u := by rw [Json.value, hthere, Option.getD_some]
    have hfill : fillDefaults u f.fields = u := by
      refine fillDefaults_rule (P := fun result => result = u) rfl ?_
      intro g hg result hresult
      rw [hresult]
      exact ih g hg
    rw [Meta.fillField_eq]
    unfold fillOne
    simp only [hkey, hvalue, hnested, Json.toObject, hfill, Bool.not_true, Bool.false_and,
      Bool.false_eq_true, if_false, if_true]
    exact Json.insert_same hthere

/-- No turn of another field undoes it. -/
theorem settled_fillField (fields : List FieldMeta) :
    ∀ f ∈ fields, ∀ m g, Settled f m → Settled f (fillField m g) := by
  induction fields using FieldMeta.listInd with
  | fields fields ih =>
    intro f hf m g h
    have hlookup := lookup_fillField m g f.name
    by_cases hname : f.name = g.name
    · rw [if_pos hname, ← hname] at hlookup
      cases h with
      | plain hnested hthere =>
        refine .plain hnested fun hnone => hthere ?_
        rw [hlookup] at hnone
        split_ifs at hnone
        exact (Option.or_eq_none_iff.mp hnone).1
      | nested hnested hthere hinside =>
        rw [hthere] at hlookup
        split_ifs at hlookup
        · -- it is filled for the other field as well
          refine .nested hnested hlookup ?_
          intro f' hf'
          refine fillDefaults_rule (P := Settled f') (hinside f' hf') ?_
          intro g' _ result hresult
          exact ih f hf f' hf' result g' hresult
        · exact .nested hnested hlookup hinside
    · rw [if_neg hname] at hlookup
      cases h with
      | plain hnested hthere => exact .plain hnested (by rwa [hlookup])
      | nested hnested hthere hinside => exact .nested hnested (hlookup.trans hthere) hinside

/-- Filling settles every field. -/
theorem settled_fillDefaults (fields : List FieldMeta) :
    ∀ d, ∀ f ∈ fields, Settled f (fillDefaults d fields) := by
  induction fields using FieldMeta.listInd with
  | fields fields ih =>
    intro d f hf
    -- the turn of the field, and the turns after it
    obtain ⟨before, after, rfl⟩ := List.append_of_mem hf
    rw [fillDefaults_append]
    show Settled f (fillDefaults (fillField (fillDefaults d before) f) after)
    refine fillDefaults_rule (P := Settled f) ?_ fun g _ result hresult =>
      settled_fillField [f] f (by simp) result g hresult
    have hlookup := lookup_fillField (fillDefaults d before) f f.name
    rw [if_pos rfl] at hlookup
    cases hnested : f.isNested with
    | false =>
      rw [hnested, if_neg (by simp)] at hlookup
      refine .plain hnested fun hnone => ?_
      rw [hlookup] at hnone
      exact (Option.or_eq_none_iff.mp hnone).2
    | true =>
      rw [hnested, if_pos rfl] at hlookup
      exact .nested hnested hlookup (ih f hf _)

/-- Where every field is settled there is nothing to do. -/
theorem fillDefaults_of_settled {fields : List FieldMeta} {m : List (String × Json)}
    (h : ∀ f ∈ fields, Settled f m) : fillDefaults m fields = m := by
  refine fillDefaults_rule (P := fun result => result = m) rfl ?_
  intro f hf result hresult
  rw [hresult]
  exact (h f hf).fillField_eq

/-- **Filling twice** is filling once, whatever the fields and the object. -/
theorem fillDefaults_twice (fields : List FieldMeta) (d : List (String × Json)) :
    fillDefaults (fillDefaults d fields) fields = fillDefaults d fields :=
  fillDefaults_of_settled (settled_fillDefaults fields d)

end Stdiolink.Meta
