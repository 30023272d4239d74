/-
  Stdiolink.Server.ValidateConfig — `POST /api/services/<id>/validate-config` of
  `http/api_router.cpp`, beside the validation of a project.

  The endpoint searches the config for unknown fields and validates it as it is.  A project's
  config is merged and filled from the schema before the same two checks.

  Main results:
    * `validate_config_iff` — the endpoint and the creation of a project agree exactly if the
      config has a fault that filling leaves, or filling cures and brings in faults alike;
    * `default_port_refused` — a required field with a default is asked for by the endpoint only.
-/
import Stdiolink.Meta.FilledConfig
import Stdiolink.Server.ApiRouter

namespace Stdiolink.Server

open Stdiolink.Protocol
open Stdiolink.Meta
open ValidationResult

/-! ## §1. The endpoint -/

/-- What a request about a config answers. -/
inductive ConfigResponse where
  | error (status : Nat) (message : String)
  | json (obj : List (String × Json))
  deriving DecidableEq

/-- The answer says that the config is valid. -/
def ConfigResponse.valid : ConfigResponse → Bool
  | .json obj => (Json.value obj "valid").toBool
  | .error _ _ => false

section Endpoint

variable (qt : ValidatorQt) (configSchema : ServiceInfo → ServiceConfigSchema)

/-- The two checks of `handleValidateConfig`. -/
def checkConfig (schema : ServiceConfigSchema) (config : List (String × Json)) :
    ValidationResult :=
  let vr := rejectUnknownFields schema config ""
  if vr.valid then validate qt schema config else vr

/-- The last part of `handleValidateConfig`. -/
def configAnswer (vr : ValidationResult) : ConfigResponse :=
  if vr.valid then .json [("valid", .bool true)]
  else
    .json [
      ("errorField", .str vr.errorField),
      ("errorMessage", .str vr.errorMessage),
      ("errors", .arr [.obj [("field", .str vr.errorField), ("message", .str vr.errorMessage)]]),
      ("valid", .bool false)]

/-- `ApiRouter::handleValidateConfig`. -/
def handleValidateConfig (services : ServiceMap) (id : String)
    (body : Parsed (List (String × Json))) : ConfigResponse :=
  match services.find? id with
  | none => .error 404 "service not found"
  | some service =>
    match body with
    | .error (status, message) => .error status message
    | .ok body =>
      match body.lookup "config" with
      | some (.obj config) => configAnswer (checkConfig qt (configSchema service) config)
      | _ => .error 400 "missing required object field: config"

end Endpoint

/-! ## §2. The two answers -/

section Answers

variable {qt : ValidatorQt} {configSchema : ServiceInfo → ServiceConfigSchema}
  {services : ServiceMap} {service : ServiceInfo} {config : List (String × Json)}

theorem configAnswer_valid (vr : ValidationResult) : (configAnswer vr).valid = vr.valid := by
  unfold configAnswer
  cases vr.valid <;> rfl

/-- The endpoint asks what the checks ask of the config as it is. -/
theorem checkConfig_valid {schema : ServiceConfigSchema} (hfields : FromObject schema.fields)
    (hsorted : Json.Sorted config) :
    (checkConfig qt schema config).valid = true ↔ Passes qt [] schema.fields config := by
  have hboth : (checkConfig qt schema config).valid = true ↔
      (rejectUnknownFields schema config "").valid = true ∧
        (validate qt schema config).valid = true := by
    unfold checkConfig
    cases h : (rejectUnknownFields schema config "").valid <;> simp [h]
  rw [hboth, passes_of_checks hfields hsorted "", validate_valid]
  constructor
  · intro h
    exact ⟨h.2, fun key hkey => (List.not_mem_nil hkey).elim, h.1⟩
  · intro h
    exact ⟨h.2.2, h.1⟩

/-- The result of `mergeAndValidate` is that of its two checks. -/
theorem mergeAndValidate_valid (schema : ServiceConfigSchema)
    (fileConfig cliConfig out : List (String × Json)) :
    (mergeAndValidate qt schema fileConfig cliConfig .reject out).1.valid = true ↔
      (checkConfig qt schema
        (fillDefaults (deepMerge fileConfig cliConfig) schema.fields)).valid = true := by
  unfold mergeAndValidate checkConfig
  dsimp only
  generalize fillDefaults (deepMerge fileConfig cliConfig) schema.fields = merged
  rw [if_pos rfl]
  cases hunknown : (rejectUnknownFields schema merged "").valid with
  | false => simp [hunknown]
  | true => cases hvr : (validate qt schema merged).valid <;> simp [hvr]

/-- A project is valid if its config passes once it is filled. -/
theorem validateProject_valid {project : Project}
    (hservice : services.find? project.serviceId = some service)
    (hfields : FromObject (configSchema service).fields)
    (hproject : project.config = .obj config) (hconfig : Ordered config) :
    (validateProject (configValidator qt configSchema) project services).valid = true ↔
      Passes qt [] (configSchema service).fields
        (fillDefaults config (configSchema service).fields) := by
  have hresult : (validateProject (configValidator qt configSchema) project services).valid =
      (mergeAndValidate qt (configSchema service) [] config .reject []).1.valid := by
    unfold validateProject
    rw [hservice, hproject]
    dsimp only
    unfold configValidator
    rw [Json.toObject]
    dsimp only
    cases (mergeAndValidate qt (configSchema service) [] config .reject []).1.valid <;> rfl
  rw [hresult, mergeAndValidate_valid, deepMerge_empty_base config hconfig.sorted]
  exact checkConfig_valid hfields (fillDefaults_sorted hconfig.sorted _)

/-- **The endpoint tells the truth exactly** for the configs with a fault that filling leaves, and
for those in which filling cures a fault just if it brings one in. -/
theorem validate_config_iff {obj body : List (String × Json)} {project : Project}
    (hobj : Ordered obj)
    (hread : ServiceConfigSchema.fromJsonObject obj = .ok (configSchema service))
    (hservice : services.find? project.serviceId = some service)
    (hproject : project.config = .obj config) (hconfig : Ordered config)
    (hbody : body.lookup "config" = some (.obj config)) :
    ((handleValidateConfig qt configSchema services project.serviceId (.ok body)).valid = true ↔
        (validateProject (configValidator qt configSchema) project services).valid = true) ↔
      Stays qt [] (configSchema service).fields config ∨
        (Cured [] (configSchema service).fields config ↔
          Brought qt (configSchema service).fields config) := by
  have hfields := fromObject_of_read hobj hread
  have hanswer : (handleValidateConfig qt configSchema services project.serviceId
      (.ok body)).valid = true ↔ Passes qt [] (configSchema service).fields config := by
    unfold handleValidateConfig
    rw [hservice]
    dsimp only
    rw [hbody]
    dsimp only
    rw [configAnswer_valid, checkConfig_valid hfields hconfig.sorted]
  rw [hanswer, validateProject_valid hservice hfields hproject hconfig,
    passes_iff hfields hconfig, passes_filled_iff hfields hconfig]
  tauto

end Answers

/-! ## §3. A required field with a default -/

/-- The descriptor of a port that is required and has a default. -/
def portDescriptor : List (String × Json) :=
  [("port", .obj [("default", .num 80), ("required", .bool true), ("type", .str "int")])]

def portFields : ServiceConfigSchema where
  fields := [{ name := "port", type := .int, required := true, defaultValue := .num 80 }]

def portServices : ServiceMap := Lib.SortedMap.empty.insert "s" portService

def portProject : Project := { id := "p", name := "p", serviceId := "s" }

/-- **A default that the endpoint does not fill in.**  The empty config is refused by the endpoint,
and a project with it is valid. -/
theorem default_port_refused :
    ServiceConfigSchema.fromJsonObject portDescriptor = .ok portFields ∧
    handleValidateConfig plainQt (fun _ => portFields) portServices "s"
        (.ok [("config", .obj [])]) =
      .json [("errorField", .str "port"),
        ("errorMessage", .str "required field 'port' is missing"),
        ("errors", .arr [.obj [("field", .str "port"),
          ("message", .str "required field 'port' is missing")]]),
        ("valid", .bool false)] ∧
      (validateProject (configValidator plainQt fun _ => portFields) portProject
        portServices).valid = true :=
  ⟨rfl, by decide +kernel, by decide +kernel⟩

/-- An object of values that are no objects. -/
theorem ordered_flat {m : List (String × Json)} (h : Json.Sorted m)
    (hflat : ∀ key u, m.lookup key ≠ some (.obj u)) : Ordered m :=
  Ordered.of_members h fun key u hu => absurd hu (hflat key u)

/-- The port given as 81: filling has nothing to cure and brings in nothing. -/
theorem port_given_agrees :
    (handleValidateConfig plainQt (fun _ => portFields) portServices "s"
        (.ok [("config", .obj [("port", .num 81)])])).valid = true ↔
      (validateProject (configValidator plainQt fun _ => portFields)
        { portProject with config := .obj [("port", .num 81)] } portServices).valid = true := by
  have hconfig : Ordered [("port", .num 81)] := by
    apply ordered_flat (List.pairwise_singleton _ _)
    intro key u hu
    rw [Json.lookup_member] at hu
    split at hu <;> cases hu
  have hdescriptor : Ordered portDescriptor := by
    apply Ordered.of_members (List.pairwise_singleton _ _)
    intro key u hu
    rw [Json.lookup_member] at hu
    split at hu
    · obtain rfl := Json.obj.inj (Option.some.inj hu)
      apply ordered_flat
      · unfold Json.Sorted
        decide +kernel
      · intro key u hu
        simp only [Json.lookup_member] at hu
        split_ifs at hu <;> cases hu
    · cases hu
  apply (@validate_config_iff plainQt (fun _ => portFields) portServices portService
    [("port", .num 81)] portDescriptor _
    { portProject with config := .obj [("port", .num 81)] } hdescriptor rfl
    (Lib.SortedMap.find?_insert_self _ _ _)
    rfl hconfig rfl).mpr
  have hgiven : ∀ f ∈ portFields.fields, f.isNested = false ∧
      List.lookup f.name [("port", Json.num 81)] ≠ none := by
    intro f hf
    obtain rfl := List.mem_singleton.mp hf
    exact ⟨rfl, by decide⟩
  refine Or.inr (iff_of_false ?_ ?_)
  · intro h
    cases h with
    | missing hf _ hnone _ => exact (hgiven _ hf).2 hnone
    | missingKey hkey _ _ => cases hkey
    | clash hf hnested _ _ => rw [(hgiven _ hf).1] at hnested; cases hnested
    | inside hf hnested _ _ => rw [(hgiven _ hf).1] at hnested; cases hnested
  · intro h
    cases h with
    | default hf _ hnone _ _ => exact (hgiven _ hf).2 hnone
    | object hf hnested _ _ => rw [(hgiven _ hf).1] at hnested; cases hnested
    | inside hf hnested _ => rw [(hgiven _ hf).1] at hnested; cases hnested

end Stdiolink.Server
