/-
  Stdiolink.Meta.FilledConfig — a config checked as it is, and checked after it was filled.

  The checks look for unknown fields, for required ones that are missing and for values that do
  not fit, in the config and in the objects of its nested fields.  Filling leaves some of the
  faults that they find, cures others, and brings in new ones with the defaults.

  Main results:
    * `passes_iff`        — a config passes as it is if it has no fault that stays or is cured;
    * `passes_filled_iff` — it passes filled if it has no fault that stays or is brought in;
    * `fromObject_of_read` — what a schema read from a JSON object is like.
-/
import Stdiolink.Meta.ConfigPrecedence
import Stdiolink.Meta.UnknownFields
import Stdiolink.Meta.ServiceSchema

namespace Stdiolink.Meta

open Stdiolink.Protocol
open Stdiolink.Server
open ValidationResult

/-! ## §1. Schemas read from JSON -/

/-- Every object in the value has its members in key order. -/
def OrderedValue (v : Json) : Prop := ∀ path u, atPath v path = some (.obj u) → Json.Sorted u

/-- The declarations are read from a JSON object: no level has a name twice, and the defaults are
JSON values. -/
structure FromObject (fields : List FieldMeta) : Prop where
  distinct : (fields.map FieldMeta.name).Nodup
  inside : ∀ f, Declared fields f → (f.fields.map FieldMeta.name).Nodup
  defaults : ∀ f, Declared fields f → ∀ v, f.default? = some v → OrderedValue v

theorem OrderedValue.ordered {v : Json} (h : OrderedValue v) : Ordered v.toObject := by
  cases v with
  | obj m => exact h
  | _ =>
    intro path u hu
    cases path with
    | nil =>
      obtain rfl := Json.obj.inj (Option.some.inj hu)
      exact List.Pairwise.nil
    | cons key path => cases hu

namespace FromObject

variable {fields : List FieldMeta}

variable {f : FieldMeta}

theorem nested (h : FromObject fields) (hf : f ∈ fields) (hnested : f.isNested = true) :
    FromObject f.fields where
  distinct := h.inside f (.here hf)
  inside g hg := h.inside g (.inside hf hnested hg)
  defaults g hg := h.defaults g (.inside hf hnested hg)

/-- A name belongs to one field. -/
theorem eq_of_name (h : FromObject fields) {g : FieldMeta} (hf : f ∈ fields) (hg : g ∈ fields)
    (hname : f.name = g.name) : f = g :=
  List.inj_on_of_nodup_map h.distinct hf hg hname

theorem findField (h : FromObject fields) (hf : f ∈ fields) :
    (ServiceConfigSchema.mk fields).findField f.name = some f := by
  unfold ServiceConfigSchema.findField
  cases hfound : fields.find? fun g => g.name = f.name with
  | none =>
    have := List.find?_eq_none.mp hfound f hf
    simp at this
  | some g =>
    have hname : g.name = f.name := by simpa using List.find?_some hfound
    rw [h.eq_of_name (List.mem_of_find?_eq_some hfound) hf hname]

theorem nestedName_eq (h : FromObject fields) (hf : f ∈ fields) :
    nestedName fields f.name = f.isNested := by
  rw [Bool.eq_iff_iff, nestedName_iff]
  constructor
  · intro hnested
    obtain ⟨g, hg, hname, hnested⟩ := hnested
    rw [← h.eq_of_name hg hf hname]
    exact hnested
  · intro hnested
    exact ⟨f, hf, rfl, hnested⟩

/-- No other declaration has the name of a field. -/
theorem split (h : FromObject fields) (hf : f ∈ fields) :
    ∃ before after, fields = before ++ f :: after ∧
      (∀ g ∈ before, g.name ≠ f.name) ∧ ∀ g ∈ after, g.name ≠ f.name := by
  obtain ⟨before, after, rfl⟩ := List.append_of_mem hf
  have hdistinct := h.distinct
  rw [List.map_append, List.map_cons, List.nodup_append] at hdistinct
  obtain ⟨-, hafter, hbefore⟩ := hdistinct
  refine ⟨before, after, rfl, ?_, ?_⟩
  · intro g hg
    exact hbefore _ (List.mem_map_of_mem hg) _ List.mem_cons_self
  · intro g hg heq
    exact (List.nodup_cons.mp hafter).1 (by rw [← heq]; exact List.mem_map_of_mem hg)

theorem innerFields_eq (h : FromObject fields) (hf : f ∈ fields) (hnested : f.isNested = true) :
    innerFields fields f.name = f.fields := by
  obtain ⟨before, after, rfl, hbefore, hafter⟩ := h.split hf
  have hnone : ∀ {rest : List FieldMeta}, (∀ g ∈ rest, g.name ≠ f.name) →
      (rest.filter fun g => g.name = f.name && g.isNested) = [] := by
    intro rest hrest
    rw [List.filter_eq_nil_iff]
    intro g hg
    simp [hrest g hg]
  unfold innerFields
  rw [List.filter_append, List.filter_cons, hnone hbefore, hnone hafter]
  simp [hnested]

end FromObject

/-- What a nested field is filled from: the object that is there, else that of its default. -/
def startOf (d : List (String × Json)) (f : FieldMeta) : List (String × Json) :=
  (((d.lookup f.name).or f.default?).getD .undefined).toObject

variable {fields : List FieldMeta} {f : FieldMeta} {qt : ValidatorQt} {keys : List String}
  {d : List (String × Json)}

theorem made_eq (h : FromObject fields) (hf : f ∈ fields) :
    made fields f.name = f.default?.or (if f.isNested then some (.obj []) else none) := by
  have hrest : ∀ {rest : List FieldMeta} {name : String}, (∀ g ∈ rest, g.name ≠ name) →
      made rest name = none := by
    intro rest name hno
    induction rest with
    | nil => rfl
    | cons g rest ih =>
      unfold made
      rw [if_neg (hno g List.mem_cons_self)]
      exact ih fun g hg => hno g (List.mem_cons_of_mem _ hg)
  obtain ⟨before, after, rfl, hbefore, hafter⟩ := h.split hf
  have hskip : ∀ {before : List FieldMeta}, (∀ g ∈ before, g.name ≠ f.name) →
      made (before ++ f :: after) f.name = made (f :: after) f.name := by
    intro before hno
    induction before with
    | nil => rfl
    | cons g before ih =>
      show made (g :: (before ++ f :: after)) f.name = _
      unfold made
      rw [if_neg (hno g List.mem_cons_self)]
      exact ih fun g hg => hno g (List.mem_cons_of_mem _ hg)
  rw [hskip hbefore]
  unfold made
  rw [if_pos rfl, hrest hafter]
  cases f.default? <;> rfl

/-- **The filled object under the name of a field.** -/
theorem lookup_filled (h : FromObject fields) (hf : f ∈ fields) (d : List (String × Json)) :
    (fillDefaults d fields).lookup f.name =
      if f.isNested then some (.obj (fillDefaults (startOf d f) f.fields))
      else (d.lookup f.name).or f.default? := by
  rw [lookup_fillDefaults, h.nestedName_eq hf, started, made_eq h hf]
  cases hnested : f.isNested with
  | false => simp
  | true =>
    rw [h.innerFields_eq hf hnested]
    unfold startOf
    cases d.lookup f.name <;> cases f.default? <;> rfl

/-! ## §2. What both checks ask -/

/-- A value that is accepted for a field, by both checks. -/
def Fits (qt : ValidatorQt) (f : FieldMeta) (v : Json) : Prop :=
  (validateField qt v f).valid = true ∧ (rejectInValue f v "").valid = true

/-- What the two checks ask of an object with a list of fields and of required keys. -/
structure Passes (qt : ValidatorQt) (keys : List String) (fields : List FieldMeta)
    (d : List (String × Json)) : Prop where
  known : ∀ key v, d.lookup key = some v → ∃ f ∈ fields, f.name = key
  required : ∀ f ∈ fields, f.required = true → Json.hasKey d f.name = true
  fits : ∀ f ∈ fields, ∀ v, d.lookup f.name = some v → Fits qt f v
  keys : ∀ key ∈ keys, Json.hasKey d key = true

/-- The path is for the message only. -/
theorem rejectInValue_path (f : FieldMeta) (v : Json) (path path' : String) :
    (rejectInValue f v path).valid = (rejectInValue f v path').valid := by
  have hobject : ∀ (fields : List FieldMeta) (m : List (String × Json)) (pre pre' : String),
      (rejectUnknownFields { fields := fields } m pre).valid =
        (rejectUnknownFields { fields := fields } m pre').valid := by
    intro fields m pre pre'
    rw [Bool.eq_iff_iff, rejectUnknownFields_valid_iff, rejectUnknownFields_valid_iff]
  unfold rejectInValue
  cases v with
  | obj m =>
    dsimp only
    split
    · exact hobject _ _ _ _
    · rfl
  | arr l =>
    dsimp only
    cases f.items with
    | none => rfl
    | some item =>
      dsimp only
      split
      · rw [Bool.eq_iff_iff, rejectInItems_valid, rejectInItems_valid]
        have hitem : ∀ (w : Json) (pre pre' : String),
            (rejectInItem { fields := item.fields } w pre).valid =
              (rejectInItem { fields := item.fields } w pre').valid := by
          intro w pre pre'
          cases w with
          | obj m => exact hobject _ _ _ _
          | _ => rfl
        constructor
        · intro h k w hk
          rw [hitem w _ (path ++ "[" ++ toString (0 + k) ++ "]")]
          exact h k w hk
        · intro h k w hk
          rw [hitem w _ (path' ++ "[" ++ toString (0 + k) ++ "]")]
          exact h k w hk
      · rfl
  | _ => rfl

/-- The checks of the fields and the search for unknown names, together. -/
theorem passes_of_checks (h : FromObject fields) (hsorted : Json.Sorted d) (pre : String) :
    Passes qt keys fields d ↔
      (∀ f ∈ fields, FieldAccepted qt d f) ∧ (∀ key ∈ keys, Json.hasKey d key = true) ∧
      (rejectUnknownFields { fields := fields } d pre).valid = true := by
  rw [rejectUnknownFields_valid]
  constructor
  · intro hp
    refine ⟨fun f hf => ⟨hp.required f hf, fun v hv => (hp.fits f hf v hv).1⟩, hp.keys, ?_⟩
    intro key v hmem
    have hkey := hsorted.lookup_of_mem hmem
    obtain ⟨f, hf, rfl⟩ := hp.known key v hkey
    refine ⟨f, h.findField hf, ?_⟩
    rw [rejectInValue_path f v _ ""]
    exact (hp.fits f hf v hkey).2
  · intro hc
    obtain ⟨hfields, hkeys, hknown⟩ := hc
    refine ⟨?_, fun f hf => (hfields f hf).required, ?_, hkeys⟩
    · intro key v hkey
      obtain ⟨f, hf, -⟩ := hknown key v (Json.mem_of_lookup hkey)
      refine ⟨f, List.mem_of_find?_eq_some hf, ?_⟩
      simpa using List.find?_some hf
    · intro f hf v hkey
      obtain ⟨f', hf', hvalid⟩ := hknown f.name v (Json.mem_of_lookup hkey)
      rw [h.findField hf] at hf'
      obtain rfl := Option.some.inj hf'
      rw [rejectInValue_path f v _ ""] at hvalid
      exact ⟨(hfields f hf).present v hkey, hvalid⟩

/-- An object fits a nested field if it passes with the fields and the keys of that field. -/
theorem fits_object (hnested : f.isNested = true) (h : FromObject f.fields)
    {u : List (String × Json)} (hsorted : Json.Sorted u) :
    Fits qt f (.obj u) ↔ Passes qt f.requiredKeys f.fields u := by
  have htype : f.type = .object ∧ f.fields ≠ [] := by
    simpa [FieldMeta.isNested] using hnested
  unfold Fits rejectInValue
  rw [validateField_obj, if_pos (by simp [htype.1, htype.2]), passes_of_checks h hsorted "",
    validateObject_valid]
  constructor
  · intro hfits
    obtain ⟨⟨-, hobject⟩, hknown⟩ := hfits
    obtain ⟨hfields, hkeys, -⟩ := hobject hnested
    exact ⟨hfields, hkeys, hknown⟩
  · intro hpasses
    obtain ⟨hfields, hkeys, hknown⟩ := hpasses
    exact ⟨⟨.inl htype.1, fun _ => ⟨hfields, hkeys, fun h => by cases h⟩⟩, hknown⟩

/-- Nothing but an object fits a nested field. -/
theorem not_fits_of_not_obj (hnested : f.isNested = true) {v : Json} (hv : ∀ u, v ≠ .obj u) :
    ¬ Fits qt f v := by
  have htype : f.type = .object ∧ f.fields ≠ [] := by
    simpa [FieldMeta.isNested] using hnested
  intro h
  have hvalid := ((validateField_valid qt v f).mp h.1).1
  rw [checkType_valid, htype.1] at hvalid
  obtain ⟨u, hu⟩ : ∃ u, v = .obj u := hvalid
  exact hv u hu

/-! ## §3. Faults -/

/-- A fault of the config that filling leaves: an unknown name, a required field or key that
nothing supplies, a value that does not fit; in the config or in the object of a nested field. -/
inductive Stays (qt : ValidatorQt) :
    List String → List FieldMeta → List (String × Json) → Prop where
  | unknown {keys : List String} {fields : List FieldMeta} {d : List (String × Json)}
      {key : String} {v : Json} :
      d.lookup key = some v → (∀ f ∈ fields, f.name ≠ key) → Stays qt keys fields d
  | missing {keys : List String} {fields : List FieldMeta} {d : List (String × Json)}
      {f : FieldMeta} :
      f ∈ fields → f.required = true → d.lookup f.name = none → f.default? = none →
        f.isNested = false → Stays qt keys fields d
  | missingKey {keys : List String} {fields : List FieldMeta} {d : List (String × Json)}
      {key : String} :
      key ∈ keys → d.lookup key = none → made fields key = none → Stays qt keys fields d
  | refused {keys : List String} {fields : List FieldMeta} {d : List (String × Json)}
      {f : FieldMeta} {v : Json} :
      f ∈ fields → f.isNested = false → d.lookup f.name = some v → ¬ Fits qt f v →
        Stays qt keys fields d
  | inside {keys : List String} {fields : List FieldMeta} {d u : List (String × Json)}
      {f : FieldMeta} :
      f ∈ fields → f.isNested = true → d.lookup f.name = some (.obj u) →
        Stays qt f.requiredKeys f.fields u → Stays qt keys fields d

/-- A fault that filling cures: a required field or key that filling supplies, or a nested field
whose value, which is no object, filling replaces. -/
inductive Cured : List String → List FieldMeta → List (String × Json) → Prop where
  | missing {keys : List String} {fields : List FieldMeta} {d : List (String × Json)}
      {f : FieldMeta} :
      f ∈ fields → f.required = true → d.lookup f.name = none →
        f.default? ≠ none ∨ f.isNested = true → Cured keys fields d
  | missingKey {keys : List String} {fields : List FieldMeta} {d : List (String × Json)}
      {key : String} :
      key ∈ keys → d.lookup key = none → made fields key ≠ none → Cured keys fields d
  | clash {keys : List String} {fields : List FieldMeta} {d : List (String × Json)}
      {f : FieldMeta} {v : Json} :
      f ∈ fields → f.isNested = true → d.lookup f.name = some v → (∀ u, v ≠ .obj u) →
        Cured keys fields d
  | inside {keys : List String} {fields : List FieldMeta} {d u : List (String × Json)}
      {f : FieldMeta} :
      f ∈ fields → f.isNested = true → d.lookup f.name = some (.obj u) →
        Cured f.requiredKeys f.fields u → Cured keys fields d

/-- A fault that filling brings in: a default that does not fit, or the object that is made for a
nested field has a fault. -/
inductive Brought (qt : ValidatorQt) : List FieldMeta → List (String × Json) → Prop where
  | default {fields : List FieldMeta} {d : List (String × Json)} {f : FieldMeta} {v : Json} :
      f ∈ fields → f.isNested = false → d.lookup f.name = none → f.default? = some v →
        ¬ Fits qt f v → Brought qt fields d
  | object {fields : List FieldMeta} {d : List (String × Json)} {f : FieldMeta} :
      f ∈ fields → f.isNested = true → (∀ u, d.lookup f.name ≠ some (.obj u)) →
        Stays qt f.requiredKeys f.fields (startOf d f) → Brought qt fields d
  | inside {fields : List FieldMeta} {d : List (String × Json)} {f : FieldMeta} :
      f ∈ fields → f.isNested = true → Brought qt f.fields (startOf d f) → Brought qt fields d

theorem hasKey_iff {key : String} : Json.hasKey d key = true ↔ d.lookup key ≠ none := by
  rw [Json.hasKey, Option.isSome_iff_ne_none]

/-- **A config passes as it is** if it has no fault, of those that stay and of those that filling
would cure. -/
theorem passes_iff (h : FromObject fields) (hd : Ordered d) :
    Passes qt keys fields d ↔ ¬ Stays qt keys fields d ∧ ¬ Cured keys fields d := by
  induction fields using FieldMeta.listInd generalizing keys d with
  | fields fields ih =>
    -- the objects of the nested fields, one level down
    have hinside : ∀ {f : FieldMeta} {u : List (String × Json)}, f ∈ fields →
        f.isNested = true → d.lookup f.name = some (.obj u) →
        (Fits qt f (.obj u) ↔ ¬ Stays qt f.requiredKeys f.fields u ∧
          ¬ Cured f.requiredKeys f.fields u) := by
      intro f u hf hnested hu
      have hordered := hd.inside hu
      rw [fits_object hnested (h.nested hf hnested) hordered.sorted,
        ih f hf (h.nested hf hnested) hordered]
    constructor
    · intro hp
      constructor
      · intro hstays
        cases hstays with
        | unknown hkey hno =>
          obtain ⟨f, hf, hname⟩ := hp.known _ _ hkey
          exact hno f hf hname
        | missing hf hrequired hnone _ _ => exact hasKey_iff.mp (hp.required _ hf hrequired) hnone
        | missingKey hkey hnone _ => exact hasKey_iff.mp (hp.keys _ hkey) hnone
        | refused hf _ hv hno => exact hno (hp.fits _ hf _ hv)
        | inside hf hnested hu hrest =>
          exact ((hinside hf hnested hu).mp (hp.fits _ hf _ hu)).1 hrest
      · intro hcured
        cases hcured with
        | missing hf hrequired hnone _ => exact hasKey_iff.mp (hp.required _ hf hrequired) hnone
        | missingKey hkey hnone _ => exact hasKey_iff.mp (hp.keys _ hkey) hnone
        | clash hf hnested hv hno => exact not_fits_of_not_obj hnested hno (hp.fits _ hf _ hv)
        | inside hf hnested hu hrest =>
          exact ((hinside hf hnested hu).mp (hp.fits _ hf _ hu)).2 hrest
    · intro hno
      obtain ⟨hstays, hcured⟩ := hno
      constructor
      · intro key v hkey
        by_contra hunknown
        exact hstays (.unknown hkey fun f hf hname => hunknown ⟨f, hf, hname⟩)
      · intro f hf hrequired
        rw [hasKey_iff]
        intro hnone
        by_cases hsupplied : f.default? ≠ none ∨ f.isNested = true
        · exact hcured (.missing hf hrequired hnone hsupplied)
        · exact hstays (.missing hf hrequired hnone
            (by_contra fun hdefault => hsupplied (.inl hdefault))
            (by simpa using fun hnested => hsupplied (.inr hnested)))
      · intro f hf v hv
        cases hnested : f.isNested with
        | false =>
          by_contra hfits
          exact hstays (.refused hf hnested hv hfits)
        | true =>
          by_cases hobject : ∃ u, v = .obj u
          · obtain ⟨u, rfl⟩ := hobject
            exact (hinside hf hnested hv).mpr ⟨fun hrest => hstays (.inside hf hnested hv hrest),
              fun hrest => hcured (.inside hf hnested hv hrest)⟩
          · exact absurd (.clash hf hnested hv fun u hu => hobject ⟨u, hu⟩) hcured
      · intro key hkey
        rw [hasKey_iff]
        intro hnone
        by_cases hmade : made fields key = none
        · exact hstays (.missingKey hkey hnone hmade)
        · exact hcured (.missingKey hkey hnone hmade)

theorem startOf_obj {u : List (String × Json)} (h : d.lookup f.name = some (.obj u)) :
    startOf d f = u := by
  unfold startOf
  rw [h]
  rfl

theorem startOf_ordered (h : FromObject fields) (hf : f ∈ fields) (hd : Ordered d) :
    Ordered (startOf d f) := by
  have hempty : Ordered [] := OrderedValue.ordered (v := .null) fun path u hu => by
    cases path <;> cases hu
  unfold startOf
  cases hkey : d.lookup f.name with
  | none =>
    cases hdefault : f.default? with
    | none => exact hempty
    | some v => exact (h.defaults f (.here hf) v hdefault).ordered
  | some v =>
    rw [Option.some_or, Option.getD_some]
    cases v with
    | obj u => exact hd.inside hkey
    | _ => exact hempty

/-- A name is missing after filling if it was missing and nothing supplies it. -/
theorem lookup_filled_eq_none {key : String} :
    (fillDefaults d fields).lookup key = none ↔ d.lookup key = none ∧ made fields key = none := by
  rw [lookup_fillDefaults, started]
  cases hname : nestedName fields key <;> cases d.lookup key <;> cases made fields key <;> simp

/-- **A config passes filled** if it has no fault, of those that stay and of those that filling
brings in. -/
theorem passes_filled_iff (h : FromObject fields) (hd : Ordered d) :
    Passes qt keys fields (fillDefaults d fields) ↔
      ¬ Stays qt keys fields d ∧ ¬ Brought qt fields d := by
  induction fields using FieldMeta.listInd generalizing keys d with
  | fields fields ih =>
    have hflat : ∀ {f : FieldMeta}, f ∈ fields → f.isNested = false →
        (fillDefaults d fields).lookup f.name = (d.lookup f.name).or f.default? := by
      intro f hf hnested
      rw [lookup_filled h hf, hnested]
      rfl
    have hnest : ∀ {f : FieldMeta}, f ∈ fields → f.isNested = true →
        (fillDefaults d fields).lookup f.name =
          some (.obj (fillDefaults (startOf d f) f.fields)) := by
      intro f hf hnested
      rw [lookup_filled h hf, hnested]
      rfl
    -- the objects that filling makes, one level down
    have hinside : ∀ {f : FieldMeta}, f ∈ fields → f.isNested = true →
        (Fits qt f (.obj (fillDefaults (startOf d f) f.fields)) ↔
          ¬ Stays qt f.requiredKeys f.fields (startOf d f) ∧
            ¬ Brought qt f.fields (startOf d f)) := by
      intro f hf hnested
      have hordered := startOf_ordered h hf hd
      rw [fits_object hnested (h.nested hf hnested) (fillDefaults_sorted hordered.sorted _),
        ih f hf (h.nested hf hnested) hordered]
    constructor
    · intro hp
      constructor
      · intro hstays
        cases hstays with
        | @unknown _ _ _ key v hkey hno =>
          have hhas : Json.hasKey d key = true := by rw [Json.hasKey, hkey]; rfl
          obtain ⟨w, hw⟩ := Option.isSome_iff_exists.mp ((hasKey_fillDefaults fields d key).1 hhas)
          obtain ⟨f, hf, hname⟩ := hp.known key w hw
          exact hno f hf hname
        | missing hf hrequired hnone hdefault hflat' =>
          apply hasKey_iff.mp (hp.required _ hf hrequired)
          rw [hflat hf hflat', hnone, hdefault]
          rfl
        | missingKey hkey hnone hmade =>
          exact hasKey_iff.mp (hp.keys _ hkey) (lookup_filled_eq_none.mpr ⟨hnone, hmade⟩)
        | refused hf hflat' hv hno =>
          apply hno
          apply hp.fits _ hf
          rw [hflat hf hflat', hv]
          rfl
        | inside hf hnested hu hrest =>
          have hfits := (hinside hf hnested).mp (hp.fits _ hf _ (hnest hf hnested))
          rw [startOf_obj hu] at hfits
          exact hfits.1 hrest
      · intro hbrought
        cases hbrought with
        | default hf hflat' hnone hdefault hno =>
          apply hno
          apply hp.fits _ hf
          rw [hflat hf hflat', hnone, hdefault]
          rfl
        | object hf hnested _ hrest =>
          exact ((hinside hf hnested).mp (hp.fits _ hf _ (hnest hf hnested))).1 hrest
        | inside hf hnested hrest =>
          exact ((hinside hf hnested).mp (hp.fits _ hf _ (hnest hf hnested))).2 hrest
    · intro hno
      obtain ⟨hstays, hbrought⟩ := hno
      constructor
      · intro key v hkey
        have hhas : Json.hasKey (fillDefaults d fields) key = true := by
          rw [Json.hasKey, hkey]
          rfl
        obtain hold | hnew := (hasKey_fillDefaults fields d key).2 hhas
        · obtain ⟨w, hw⟩ := Option.isSome_iff_exists.mp hold
          by_contra hunknown
          exact hstays (.unknown hw fun f hf hname => hunknown ⟨f, hf, hname⟩)
        · exact hnew
      · intro f hf hrequired
        rw [hasKey_iff, ne_eq, lookup_filled_eq_none]
        intro hnone
        have hmade := hnone.2
        rw [made_eq h hf] at hmade
        cases hnested : f.isNested with
        | true =>
          rw [hnested] at hmade
          cases hdefault : f.default? <;> rw [hdefault] at hmade <;> cases hmade
        | false =>
          rw [hnested] at hmade
          exact hstays (.missing hf hrequired hnone.1 (by simpa using hmade) hnested)
      · intro f hf v hv
        cases hnested : f.isNested with
        | false =>
          rw [hflat hf hnested] at hv
          cases hkey : d.lookup f.name with
          | none =>
            rw [hkey] at hv
            by_contra hfits
            exact hbrought (.default hf hnested hkey hv hfits)
          | some w =>
            rw [hkey] at hv
            obtain rfl := Option.some.inj hv
            by_contra hfits
            exact hstays (.refused hf hnested hkey hfits)
        | true =>
          rw [hnest hf hnested] at hv
          obtain rfl := Option.some.inj hv
          refine (hinside hf hnested).mpr ⟨?_, fun hrest => hbrought (.inside hf hnested hrest)⟩
          intro hrest
          by_cases hobject : ∃ u, d.lookup f.name = some (.obj u)
          · obtain ⟨u, hu⟩ := hobject
            rw [startOf_obj hu] at hrest
            exact hstays (.inside hf hnested hu hrest)
          · exact hbrought (.object hf hnested (fun u hu => hobject ⟨u, hu⟩) hrest)
      · intro key hkey
        rw [hasKey_iff, ne_eq, lookup_filled_eq_none]
        intro hnone
        exact hstays (.missingKey hkey hnone.1 hnone.2)

/-! ## §4. What is read from a JSON object -/

/-- The nested fields of a descriptor are those of its member `fields`. -/
theorem parseNested_ok {fieldPath : String} {desc : List (String × Json)}
    (h : parseNested true fieldPath desc = .ok fields) :
    fields = [] ∨ ∃ obj, ("fields", Json.obj obj) ∈ desc ∧
      parseObject true fieldPath obj = .ok fields := by
  induction desc with
  | nil =>
    unfold parseNested at h
    exact .inl (Except.ok.inj h).symm
  | cons member rest ih =>
    obtain ⟨key, v⟩ := member
    unfold parseNested at h
    split at h
    next hkey =>
      subst hkey
      cases v with
      | obj obj => exact .inr ⟨obj, List.mem_cons_self, h⟩
      | _ => cases h
    next =>
      obtain hnil | ⟨obj, hmem, hobj⟩ := ih h
      · exact .inl hnil
      · exact .inr ⟨obj, List.mem_cons_of_mem _ hmem, hobj⟩

/-- Each field comes from a member. -/
theorem parseObject_members {pathPrefix : String} {obj : List (String × Json)}
    (h : parseObject true pathPrefix obj = .ok fields) :
    ∀ f ∈ fields, ∃ key v path, (key, v) ∈ obj ∧ parseFieldMeta true key path v = .ok f := by
  induction obj generalizing fields with
  | nil =>
    unfold parseObject at h
    obtain rfl := Except.ok.inj h
    intro f hf
    cases hf
  | cons member rest ih =>
    unfold parseObject at h
    split_ifs at h with hobject
    split at h
    next => cases h
    next field hfield =>
      split at h
      next => cases h
      next others hothers =>
        obtain rfl := Except.ok.inj h
        intro f hf
        obtain rfl | hf := List.mem_cons.mp hf
        · exact ⟨member.1, member.2, _, List.mem_cons_self, hfield⟩
        · obtain ⟨key, v, path, hmem, hread⟩ := ih hothers f hf
          exact ⟨key, v, path, List.mem_cons_of_mem _ hmem, hread⟩

/-- What the reader makes of one descriptor. -/
structure FieldRead (f : FieldMeta) : Prop where
  fields : FromObject f.fields
  default : ∀ v, f.default? = some v → OrderedValue v

/-- Fields that were read, under different names. -/
theorem FromObject.of_fields (hdistinct : (fields.map FieldMeta.name).Nodup)
    (h : ∀ f ∈ fields, FieldRead f) :
    FromObject fields where
  distinct := hdistinct
  inside f hf := by
    cases hf with
    | here hmem => exact (h f hmem).fields.distinct
    | inside hmem _ hrest => exact (h _ hmem).fields.inside f hrest
  defaults f hf := by
    cases hf with
    | here hmem => exact (h f hmem).default
    | inside hmem _ hrest => exact (h _ hmem).fields.defaults f hrest

theorem OrderedValue.member {m : List (String × Json)} (h : OrderedValue (.obj m)) {key : String}
    {v : Json} (hkey : m.lookup key = some v) : OrderedValue v := by
  intro path u hu
  apply h (key :: path)
  rw [atPath_cons, hkey]
  exact hu

/-- A descriptor that is a JSON value is read to such a field, and a schema to such fields. -/
theorem read_ordered (v : Json) : OrderedValue v →
    (∀ name fieldPath field, parseFieldMeta true name fieldPath v = .ok field →
      FieldRead field) ∧
    ∀ obj pathPrefix fields, v = .obj obj → parseObject true pathPrefix obj = .ok fields →
      FromObject fields := by
  have hempty : FromObject [] := .of_fields List.nodup_nil fun f hf => by cases hf
  have hother : ∀ {v : Json}, (∀ obj, v ≠ .obj obj) →
      (∀ name fieldPath field, parseFieldMeta true name fieldPath v = .ok field →
        FieldRead field) ∧
      ∀ obj pathPrefix fields, v = .obj obj → parseObject true pathPrefix obj = .ok fields →
        FromObject fields := by
    intro v hno
    refine ⟨?_, fun obj _ _ hv => absurd hv (hno obj)⟩
    intro name fieldPath field hread
    unfold parseFieldMeta at hread
    cases v with
    | obj obj => exact absurd rfl (hno obj)
    | _ =>
      obtain rfl := Except.ok.inj hread
      exact ⟨hempty, fun v hv => by cases hv⟩
  induction v using Json.ind with
  | obj members ih =>
    intro hordered
    have hsorted : Json.Sorted members := hordered [] members rfl
    have hmember : ∀ {key : String} {w : Json}, (key, w) ∈ members → OrderedValue w :=
      fun hmem => hordered.member (hsorted.lookup_of_mem hmem)
    constructor
    · intro name fieldPath field hread
      unfold parseFieldMeta at hread
      split_ifs at hread
      split at hread
      next => cases hread
      next fields hfields =>
        split at hread
        next => cases hread
        next items hitems =>
          obtain rfl := Except.ok.inj hread
          constructor
          · show FromObject fields
            obtain rfl | ⟨obj, hmem, hobj⟩ := parseNested_ok hfields
            · exact hempty
            · exact (ih _ _ hmem (hmember hmem)).2 obj _ fields rfl hobj
          · intro v hv
            have hdefault : v = (descriptorField name members fields items).defaultValue := by
              unfold FieldMeta.default? at hv
              split_ifs at hv
              exact (Option.some.inj hv).symm
            rw [hdefault]
            show OrderedValue (if Json.hasKey members "default" then
              Json.value members "default" else .null)
            cases hkey : members.lookup "default" with
            | none =>
              rw [Json.hasKey, hkey]
              intro path u hu
              cases path <;> cases hu
            | some w =>
              have hvalue : (if Json.hasKey members "default" then
                  Json.value members "default" else .null) = w := by
                rw [Json.hasKey, Json.value, hkey]
                rfl
              rw [hvalue]
              exact hordered.member hkey
    · intro obj pathPrefix fields hobj hread
      obtain rfl := Json.obj.inj hobj
      apply FromObject.of_fields
      · have hnames := (parseObject_accepted hread).1
        have hmap : fields.map FieldMeta.name = members.map Prod.fst := hnames
        rw [hmap]
        exact hsorted.nodup_keys
      · intro f hf
        obtain ⟨key, w, path, hmem, hfield⟩ := parseObject_members hread f hf
        exact (ih key w hmem (hmember hmem)).1 key path f hfield
  | _ =>
    intro _
    apply hother
    intro obj hobj
    cases hobj

/-- **A schema read from a JSON object.** -/
theorem fromObject_of_read {obj : List (String × Json)} {schema : ServiceConfigSchema}
    (hobj : Ordered obj) (h : ServiceConfigSchema.fromJsonObject obj = .ok schema) :
    FromObject schema.fields := by
  unfold ServiceConfigSchema.fromJsonObject at h
  split at h
  next => cases h
  next fields hfields =>
    obtain rfl := Except.ok.inj h
    exact (read_ordered (.obj obj) hobj).2 obj "" fields rfl hfields

/-! ## §5. The checks of the config validator -/

theorem validateEach_valid (qt : ValidatorQt) (config : List (String × Json))
    (fields : List FieldMeta) :
    (validateEach qt config fields).valid = true ↔
      ∀ f ∈ fields, ∀ v, config.lookup f.name = some v → (validateField qt v f).valid = true := by
  induction fields with
  | nil =>
    unfold validateEach
    simp
  | cons f rest ih =>
    unfold validateEach
    rw [List.forall_mem_cons, ← ih]
    cases hkey : config.lookup f.name with
    | none => simp [Json.hasKey, hkey]
    | some v =>
      have hvalue : Json.value config f.name = v := by rw [Json.value, hkey]; rfl
      cases hvr : (validateField qt v f).valid with
      | false =>
        simp only [Json.hasKey, hkey, hvalue, hvr, Option.isSome_some, Bool.not_true,
          Bool.false_eq_true, if_false, Bool.not_false, if_true]
        split <;> simp [hvr]
      | true => simp [Json.hasKey, hkey, hvalue, hvr]

theorem validate_valid (qt : ValidatorQt) (schema : ServiceConfigSchema)
    (config : List (String × Json)) :
    (validate qt schema config).valid = true ↔
      ∀ f ∈ schema.fields, FieldAccepted qt config f := by
  have hmissing : (schema.fields.find? fun f => f.required && !Json.hasKey config f.name) = none ↔
      ∀ f ∈ schema.fields, f.required = true → Json.hasKey config f.name = true := by
    simp
  have hsplit : (validate qt schema config).valid = true ↔
      (schema.fields.find? fun f => f.required && !Json.hasKey config f.name) = none ∧
        (validateEach qt config schema.fields).valid = true := by
    unfold validate
    cases schema.fields.find? fun f => f.required && !Json.hasKey config f.name <;> simp
  rw [hsplit, hmissing, validateEach_valid]
  constructor
  · intro h f hf
    exact ⟨h.1 f hf, h.2 f hf⟩
  · intro h
    exact ⟨fun f hf => (h f hf).required, fun f hf => (h f hf).present⟩

end Stdiolink.Meta
