/-
  Stdiolink.Meta.ServiceConfig — `ServiceConfigValidator`, `config/service_config_validator.cpp`.

  A service's config is merged from the file and the command line, filled from the schema,
  searched for unknown fields and validated.  The server does this when it validates a
  project and stores the result, the service process does it again when it starts.

  Main result: `accepted_config_stable` — an accepted config stays as it is.
-/
import Stdiolink.Meta.Defaults
import Stdiolink.Server.Model
import Mathlib.Logic.Relation

namespace Stdiolink.Meta

open Stdiolink.Protocol
open Stdiolink.Server
open ValidationResult

/-! ## §1. The validator -/

/-- `ServiceConfigSchema`. -/
structure ServiceConfigSchema where
  fields : List FieldMeta := []

/-- `findField`: the first field of the name. -/
def ServiceConfigSchema.findField (schema : ServiceConfigSchema) (name : String) :
    Option FieldMeta :=
  schema.fields.find? fun field => field.name = name

inductive UnknownFieldPolicy where
  | reject
  | allow
  deriving Repr, DecidableEq

mutual

/-- `deepMerge`: objects are merged, everything else is overridden. -/
def deepMerge (base : List (String × Json)) (override : List (String × Json)) :
    List (String × Json) :=
  match override with
  | [] => base
  | (key, v) :: rest => deepMerge (Json.insert base key (mergeValue (base.lookup key) v)) rest

/-- One entry of the override over what is there. -/
def mergeValue (old : Option Json) (v : Json) : Json :=
  match v with
  | .obj m =>
      match old with
      | some (.obj base) => .obj (deepMerge base m)
      | _ => .obj m
  | v => v

end

mutual

/-- `rejectUnknownFields`. -/
def rejectUnknownFields (schema : ServiceConfigSchema) (config : List (String × Json))
    (pre : String) : ValidationResult :=
  match config with
  | [] => ok
  | (key, v) :: rest =>
      let fullPath := if pre.isEmpty then key else pre ++ "." ++ key
      match schema.findField key with
      | none => fail fullPath "unknown configuration field"
      | some field =>
          (rejectInValue field v fullPath).andThen (rejectUnknownFields schema rest pre)

/-- The two recursions of one entry: an object field and an array of objects. -/
def rejectInValue (field : FieldMeta) (v : Json) (fullPath : String) : ValidationResult :=
  match v with
  | .obj m =>
      if field.type = .object && !field.fields.isEmpty then
        rejectUnknownFields { fields := field.fields } m fullPath
      else ok
  | .arr l =>
      match field.items with
      | some item =>
          if field.type = .array && !item.fields.isEmpty then
            rejectInItems { fields := item.fields } l fullPath 0
          else ok
      | none => ok
  | _ => ok

/-- The items of an array that are objects. -/
def rejectInItems (schema : ServiceConfigSchema) (l : List Json) (fullPath : String) (i : Nat) :
    ValidationResult :=
  match l with
  | [] => ok
  | v :: rest =>
      (rejectInItem schema v (fullPath ++ "[" ++ toString i ++ "]")).andThen
        (rejectInItems schema rest fullPath (i + 1))

def rejectInItem (schema : ServiceConfigSchema) (v : Json) (itemPath : String) :
    ValidationResult :=
  match v with
  | .obj m => rejectUnknownFields schema m itemPath
  | _ => ok

end

/-- The loop of `validate` over the fields that are present. -/
def validateEach (qt : ValidatorQt) (config : List (String × Json)) :
    List FieldMeta → ValidationResult
  | [] => ok
  | field :: rest =>
      if !Json.hasKey config field.name then validateEach qt config rest
      else
        let vr := validateField qt (Json.value config field.name) field
        if !vr.valid then
          if vr.errorField.isEmpty then { vr with errorField := field.name } else vr
        else validateEach qt config rest

/-- `validate`. -/
def validate (qt : ValidatorQt) (schema : ServiceConfigSchema) (config : List (String × Json)) :
    ValidationResult :=
  match schema.fields.find? fun field => field.required && !Json.hasKey config field.name with
  | some field => fail field.name ("required field '" ++ field.name ++ "' is missing")
  | none => validateEach qt config schema.fields

/-- `mergeAndValidate`: the result, and what `mergedOut` holds afterwards. -/
def mergeAndValidate (qt : ValidatorQt) (schema : ServiceConfigSchema)
    (fileConfig cliConfig : List (String × Json)) (policy : UnknownFieldPolicy)
    (mergedOut : List (String × Json)) : ValidationResult × List (String × Json) :=
  -- cli > file > defaults
  let merged := fillDefaults (deepMerge fileConfig cliConfig) schema.fields
  let unknownResult :=
    if policy = .reject then rejectUnknownFields schema merged "" else ok
  if !unknownResult.valid then (unknownResult, mergedOut)
  else
    let vr := validate qt schema merged
    if !vr.valid then (vr, mergedOut) else (ok, merged)

/-- The validation that `ProjectManager::validateProject` makes of a project's config. -/
def configValidator (qt : ValidatorQt) (configSchema : ServiceInfo → ServiceConfigSchema) :
    ConfigValidator := fun service config =>
  let (result, merged) :=
    mergeAndValidate qt (configSchema service) [] config.toObject .reject []
  if !result.valid then .error result.text else .ok (.obj merged)

/-! ## §2. Merging with an empty side -/

/-- Members behind all of the base are appended. -/
theorem deepMerge_append (base m : List (String × Json)) (h : Json.Sorted (base ++ m)) :
    deepMerge base m = base ++ m := by
  induction m generalizing base with
  | nil =>
    rw [List.append_nil]
    rfl
  | cons member rest ih =>
    obtain ⟨key, v⟩ := member
    obtain ⟨-, -, hbefore⟩ := List.pairwise_append.mp h
    have hlast : ∀ member ∈ base, member.1 < key :=
      fun member hmember => hbefore member hmember (key, v) (by simp)
    have hnone : base.lookup key = none := by
      rw [List.lookup_eq_none_iff]
      intro member hmember
      exact bne_iff_ne.mpr (ne_of_gt (hlast member hmember))
    have hvalue : mergeValue (base.lookup key) v = v := by
      rw [hnone]
      cases v <;> rfl
    show deepMerge (Json.insert base key (mergeValue (base.lookup key) v)) rest = _
    rw [hvalue, Json.insert_last hlast, ih, List.append_assoc]
    · rfl
    · rw [List.append_assoc]
      exact h

theorem deepMerge_empty_base (m : List (String × Json)) (h : Json.Sorted m) :
    deepMerge [] m = m :=
  deepMerge_append [] m h

theorem deepMerge_empty_override (m : List (String × Json)) : deepMerge m [] = m := rfl

theorem deepMerge_sorted {base : List (String × Json)} (h : Json.Sorted base)
    (m : List (String × Json)) : Json.Sorted (deepMerge base m) := by
  induction m generalizing base with
  | nil => exact h
  | cons member rest ih => exact ih (h.insert _ _)

theorem fillDefaults_sorted {d : List (String × Json)} (h : Json.Sorted d)
    (fields : List FieldMeta) : Json.Sorted (fillDefaults d fields) := by
  apply fillDefaults_rule (P := fun result => Json.Sorted result) h
  intro f _ result hresult
  -- both writes of a turn keep the order
  have hdefault : Json.Sorted (if !Json.hasKey result f.name && !f.defaultValue.isNullish then
      Json.insert result f.name f.defaultValue else result) := by
    split
    · exact hresult.insert _ _
    · exact hresult
  rw [fillField_eq, fillOne]
  dsimp only
  split
  · exact hdefault.insert _ _
  · exact hdefault

/-! ## §3. An accepted config -/

/-- **What is accepted, and what it becomes**: the filled merge, if it has no unknown fields
and is valid. -/
theorem mergeAndValidate_accepted (qt : ValidatorQt) (schema : ServiceConfigSchema)
    (fileConfig cliConfig : List (String × Json)) (policy : UnknownFieldPolicy)
    (out m : List (String × Json)) :
    mergeAndValidate qt schema fileConfig cliConfig policy out = (ok, m) ↔
      fillDefaults (deepMerge fileConfig cliConfig) schema.fields = m ∧
      (policy = .reject → (rejectUnknownFields schema m "").valid = true) ∧
      (validate qt schema m).valid = true := by
  unfold mergeAndValidate
  dsimp only
  generalize fillDefaults (deepMerge fileConfig cliConfig) schema.fields = merged
  have hfailed : ∀ {r : ValidationResult} {x y : List (String × Json)}, r.valid = false →
      (r, x) ≠ (ok, y) := by
    intro r x y hr heq
    rw [(Prod.mk.inj heq).1] at hr
    cases hr
  have hpolicy : (if policy = .reject then rejectUnknownFields schema merged "" else ok).valid
      = true ↔ (policy = .reject → (rejectUnknownFields schema merged "").valid = true) := by
    cases policy <;> simp
  cases hunknown : (if policy = .reject then rejectUnknownFields schema merged "" else ok).valid with
  | false =>
    rw [hunknown] at hpolicy
    constructor
    · intro h
      exact absurd h (hfailed hunknown)
    · intro h
      obtain ⟨rfl, hok, -⟩ := h
      exact absurd (hpolicy.mpr hok) (by simp)
  | true =>
    have hok := hpolicy.mp hunknown
    cases hvr : (validate qt schema merged).valid with
    | false =>
      constructor
      · intro h
        exact absurd h (hfailed hvr)
      · intro h
        obtain ⟨rfl, -, hvalid⟩ := h
        rw [hvr] at hvalid
        cases hvalid
    | true =>
      simp only [Bool.not_true, Bool.false_eq_true, if_false, Prod.mk.injEq, true_and]
      constructor
      · intro h
        subst h
        exact ⟨rfl, hok, hvr⟩
      · intro h
        exact h.1

section Again

variable {qt : ValidatorQt} {schema : ServiceConfigSchema} {c m out : List (String × Json)}

/-- A config accepted once has keys in order and nothing left to fill. -/
theorem accepted_filled (h : mergeAndValidate qt schema [] c .reject out = (ok, m)) :
    Json.Sorted m ∧ fillDefaults m schema.fields = m := by
  obtain ⟨hm, -, -⟩ := (mergeAndValidate_accepted qt schema [] c .reject out m).mp h
  subst hm
  exact ⟨fillDefaults_sorted (deepMerge_sorted List.Pairwise.nil c) _,
    fillDefaults_of_settled (settled_fillDefaults _ _)⟩

/-- An accepted config given again on the command line is given out as it is. -/
theorem accepted_again_cli (h : mergeAndValidate qt schema [] c .reject out = (ok, m))
    (out' : List (String × Json)) : mergeAndValidate qt schema [] m .reject out' = (ok, m) := by
  obtain ⟨hsorted, hfill⟩ := accepted_filled h
  obtain ⟨-, hrest⟩ := (mergeAndValidate_accepted qt schema [] c .reject out m).mp h
  rw [mergeAndValidate_accepted, deepMerge_empty_base m hsorted]
  exact ⟨hfill, hrest⟩

/-- So is one given again in the file. -/
theorem accepted_again_file (h : mergeAndValidate qt schema [] c .reject out = (ok, m))
    (out' : List (String × Json)) : mergeAndValidate qt schema m [] .reject out' = (ok, m) := by
  obtain ⟨-, hfill⟩ := accepted_filled h
  obtain ⟨-, hrest⟩ := (mergeAndValidate_accepted qt schema [] c .reject out m).mp h
  rw [mergeAndValidate_accepted, deepMerge_empty_override]
  exact ⟨hfill, hrest⟩

end Again

/-! ## §4. The life of a project's config -/

section Life

variable (qt : ValidatorQt) (configSchema : ServiceInfo → ServiceConfigSchema)
  (services : ServiceMap) (print : Json → String) (parse : String → Option Json)

/-- What happens to a stored project: it is validated again, or written to its file and read
from there, with whatever validity the reader starts from. -/
inductive Handled : Project → Project → Prop where
  | validated (p : Project) :
      Handled p (validateProject (configValidator qt configSchema) p services)
  | reloaded {p q : Project} : q.serviceId = p.serviceId →
      parse (print p.config) = some q.config → Handled p q

variable {qt configSchema services print parse}

/-- One step keeps an accepted config. -/
theorem Handled.config {service : ServiceInfo} {c m out : List (String × Json)}
    (haccepted : mergeAndValidate qt (configSchema service) [] c .reject out = (ok, m))
    (hreread : ∀ v w, parse (print v) = some w → w = v) {p q : Project}
    (hservice : services.find? p.serviceId = some service) (hp : p.config = .obj m)
    (h : Handled qt configSchema services print parse p q) :
    services.find? q.serviceId = some service ∧ q.config = .obj m := by
  cases h with
  | validated =>
    have hagain := accepted_again_cli haccepted []
    have hvalidate : configValidator qt configSchema service p.config = .ok (.obj m) := by
      rw [hp, configValidator, Json.toObject, hagain]
      rfl
    refine ⟨by rw [validateProject_serviceId]; exact hservice, ?_⟩
    unfold validateProject
    rw [hservice]
    dsimp only
    rw [hvalidate]
  | reloaded hid hread =>
    rw [hp] at hread
    exact ⟨by rw [hid]; exact hservice, hreread _ _ hread⟩

/-- **Accepted configs are stable.**  An accepted config is accepted again and given out
unchanged, from the command line or the file.  A project that holds it keeps it however often
it is validated, saved and loaded, each validation accepts it, and the service process that is
given it in its file merges it to itself. -/
theorem accepted_config_stable {service : ServiceInfo} {c m out : List (String × Json)}
    (haccepted : mergeAndValidate qt (configSchema service) [] c .reject out = (ok, m))
    (hreread : ∀ v w, parse (print v) = some w → w = v) :
    (∀ out', mergeAndValidate qt (configSchema service) [] m .reject out' = (ok, m)) ∧
    (∀ out', mergeAndValidate qt (configSchema service) m [] .reject out' = (ok, m)) ∧
    ∀ p, services.find? p.serviceId = some service → p.config = .obj m →
      ∀ q, Relation.ReflTransGen (Handled qt configSchema services print parse) p q →
        q.config = .obj m ∧
        (validateProject (configValidator qt configSchema) q services).valid = true ∧
        ∀ loaded, parse (print q.config) = some loaded →
          mergeAndValidate qt (configSchema service) loaded.toObject [] .reject [] = (ok, m) := by
  refine ⟨accepted_again_cli haccepted, accepted_again_file haccepted, ?_⟩
  intro p hservice hp q hrun
  have hkept : services.find? q.serviceId = some service ∧ q.config = .obj m := by
    -- by induction on the run, a step at a time
    induction hrun with
    | refl => exact ⟨hservice, hp⟩
    | tail _ hstep ih => exact hstep.config haccepted hreread ih.1 ih.2
  obtain ⟨hq, hconfig⟩ := hkept
  refine ⟨hconfig, ?_, ?_⟩
  · have hvalidate : configValidator qt configSchema service q.config = .ok (.obj m) := by
      rw [hconfig, configValidator, Json.toObject, accepted_again_cli haccepted []]
      rfl
    unfold validateProject
    rw [hq]
    dsimp only
    rw [hvalidate]
  · intro loaded hread
    rw [hconfig] at hread
    rw [hreread _ _ hread]
    exact accepted_again_file haccepted []

/-- A schema with a port that has a default, and the text of the config it fills to. -/
def portSchema : ServiceConfigSchema :=
  { fields := [{ name := "port", type := .int, defaultValue := .num 80 }] }

/-- The service of that schema. -/
def portService : ServiceInfo := { id := "s", name := "s", version := "1", serviceDir := "/s" }

/-- The empty config fills to port 80, and stays that when it is validated, written and read. -/
theorem port_stays :
    let services := Lib.SortedMap.empty.insert "s" portService
    let m := [("port", Json.num 80)]
    let print : Json → String := fun v => if v = .obj m then "\x7b\"port\":80\x7d" else ""
    let parse : String → Option Json := fun text =>
      if text = "\x7b\"port\":80\x7d" then some (.obj m) else none
    (∀ out', mergeAndValidate plainQt portSchema [] m .reject out' = (ok, m)) ∧
    (∀ out', mergeAndValidate plainQt portSchema m [] .reject out' = (ok, m)) ∧
    ∀ p : Project, services.find? p.serviceId = some portService → p.config = .obj m →
      ∀ q, Relation.ReflTransGen (Handled plainQt (fun _ => portSchema) services print parse) p q →
        q.config = .obj m ∧
        (validateProject (configValidator plainQt fun _ => portSchema) q services).valid = true ∧
        ∀ loaded, parse (print q.config) = some loaded →
          mergeAndValidate plainQt portSchema loaded.toObject [] .reject [] = (ok, m) := by
  intro services m print parse
  have haccepted : mergeAndValidate plainQt portSchema [] [] .reject [] = (ok, m) := by
    rw [mergeAndValidate_accepted]
    decide +kernel
  have hreread : ∀ v w, parse (print v) = some w → w = v := by
    intro v w h
    by_cases hv : v = .obj m
    · simp only [print, parse, if_pos hv, if_true, Option.some.injEq] at h
      rw [← h, hv]
    · simp only [print, parse, if_neg hv] at h
      cases h
  exact @accepted_config_stable plainQt (fun _ => portSchema) services print parse portService
    [] m [] haccepted hreread

end Life

end Stdiolink.Meta
