/-
  Stdiolink.Meta.ServiceSchema — the two JSON files of a service, `config/service_manifest.cpp`
  and `config/service_config_schema.cpp`.

  A manifest has six members, all of them strings.  A config schema maps the names of fields to
  their descriptors, and a descriptor may hold a schema of its own and a descriptor for items.
  Both readers stop at the first thing they reject.

  Main results:
    * `parseObject_accepted` — an accepted schema has one field for each member, and every member
                               is a descriptor of a known type.
-/
import Stdiolink.Meta.ServiceConfig
import Stdiolink.Meta.DriverMeta

namespace Stdiolink.Meta

open Stdiolink.Lib
open Stdiolink.Protocol
open Stdiolink.Protocol.Json

/-! ## §1. The manifest -/

structure ServiceManifest where
  manifestVersion : String := ""
  id : String := ""
  name : String := ""
  version : String := ""
  description : String := ""
  author : String := ""
  deriving DecidableEq

namespace ServiceManifest

/-- `s_knownFields`. -/
def knownFields : List String := ["manifestVersion", "id", "name", "version", "description", "author"]

/-- `ServiceManifest::fromJson`. -/
def fromJson (obj : List (String × Json)) : Except String ServiceManifest :=
  match obj.find? fun member => !knownFields.contains member.1 with
  | some member => .error ("unknown field in manifest.json: \"" ++ member.1 ++ "\"")
  | none =>
    let manifestVersion := (value obj "manifestVersion").toStr
    if !hasKey obj "manifestVersion" then .error "missing required field: manifestVersion"
    else if manifestVersion ≠ "1" then
      .error ("unsupported manifestVersion: \"" ++ manifestVersion ++ "\" (expected \"1\")")
    else if !hasKey obj "id" || (value obj "id").toStr = "" then
      .error "missing required field: id"
    else if !hasKey obj "name" || (value obj "name").toStr = "" then
      .error "missing required field: name"
    else if !hasKey obj "version" || (value obj "version").toStr = "" then
      .error "missing required field: version"
    else .ok {
      manifestVersion := manifestVersion
      id := (value obj "id").toStr
      name := (value obj "name").toStr
      version := (value obj "version").toStr
      description := (value obj "description").toStr
      author := (value obj "author").toStr }

end ServiceManifest

/-! ## §2. The config schema -/

/-- `isKnownFieldType`. -/
def isKnownFieldType (typeStr : String) : Bool :=
  ["string", "int", "integer", "int64", "double", "number", "bool", "boolean", "object", "array",
    "enum", "any"].contains typeStr

/-- `QJsonValue::toBool`, with a default. -/
def toBoolOr (default : Bool) (v : Json) : Bool :=
  match v with
  | .bool b => b
  | _ => default

/-- The constraints of a descriptor, where `enumValues` is another name for `enum`. -/
def descriptorConstraints (desc : List (String × Json)) : Constraints :=
  let cObj := (value desc "constraints").toObject
  if !hasKey desc "constraints" then {}
  else if hasKey cObj "enumValues" then
    Constraints.fromJson
      (insert (cObj.filter fun member => member.1 ≠ "enumValues") "enum" (value cObj "enumValues"))
  else Constraints.fromJson cObj

/-- `QJsonValue::toString`, with a default. -/
def typeOf (desc : List (String × Json)) : String :=
  match value desc "type" with
  | .str typeStr => typeStr
  | _ => "any"

/-- `parseFieldMeta`, given the nested fields and the items. -/
def descriptorField (name : String) (desc : List (String × Json)) (fields : List FieldMeta)
    (items : Option FieldMeta) : FieldMeta where
  name := name
  type := fieldTypeFromString (typeOf desc)
  required := toBoolOr false (value desc "required")
  description := (value desc "description").toStr
  additionalProperties := toBoolOr true (value desc "additionalProperties")
  defaultValue := if hasKey desc "default" then value desc "default" else .null
  constraints := descriptorConstraints desc
  requiredKeys := ((toArray (value desc "requiredKeys")).filter isString).map toStr
  fields := fields
  items := items

/-- The path of a field of a schema. -/
def fieldPathOf (pathPrefix fieldName : String) : String :=
  if pathPrefix = "" then fieldName else pathPrefix ++ "." ++ fieldName

mutual
/-- `parseFieldMeta`. -/
def parseFieldMeta (strictTypeCheck : Bool) (name fieldPath : String) :
    Json → Except String FieldMeta
  | .obj desc =>
    if strictTypeCheck && !isKnownFieldType (typeOf desc) then
      .error ("unknown field type \"" ++ typeOf desc ++ "\" for field \"" ++ fieldPath ++ "\"")
    else
      match parseNested strictTypeCheck fieldPath desc with
      | .error error => .error error
      | .ok fields =>
        match parseItems strictTypeCheck name fieldPath desc with
        | .error error => .error error
        | .ok items => .ok (descriptorField name desc fields items)
  | _ => .ok (descriptorField name [] [] none)
/-- The block about `desc["fields"]`. -/
def parseNested (strictTypeCheck : Bool) (fieldPath : String) :
    List (String × Json) → Except String (List FieldMeta)
  | [] => .ok []
  | (key, v) :: rest =>
    if key = "fields" then
      match v with
      | .obj fieldsObj => parseObject strictTypeCheck fieldPath fieldsObj
      | _ => .error ("\"fields\" for field \"" ++ fieldPath ++ "\" must be a JSON object")
    else parseNested strictTypeCheck fieldPath rest
/-- The block about `desc["items"]`. -/
def parseItems (strictTypeCheck : Bool) (name fieldPath : String) :
    List (String × Json) → Except String (Option FieldMeta)
  | [] => .ok none
  | (key, v) :: rest =>
    if key = "items" then
      if !isObject v then
        .error ("\"items\" for field \"" ++ fieldPath ++ "\" must be a JSON object")
      else
        match parseFieldMeta strictTypeCheck name (fieldPath ++ ".items") v with
        | .error error => .error error
        | .ok item => .ok (some item)
    else parseItems strictTypeCheck name fieldPath rest
/-- `parseObject`. -/
def parseObject (strictTypeCheck : Bool) (pathPrefix : String) :
    List (String × Json) → Except String (List FieldMeta)
  | [] => .ok []
  | (fieldName, v) :: rest =>
    if !isObject v then
      .error ("field descriptor for \"" ++ fieldPathOf pathPrefix fieldName ++
        "\" must be a JSON object")
    else
      match parseFieldMeta strictTypeCheck fieldName (fieldPathOf pathPrefix fieldName) v with
      | .error error => .error error
      | .ok field =>
        match parseObject strictTypeCheck pathPrefix rest with
        | .error error => .error error
        | .ok fields => .ok (field :: fields)
end

/-- A descriptor that is read keeps the name it is read under, and its type is known. -/
theorem parseFieldMeta_accepted {name fieldPath : String} {v : Json} {field : FieldMeta}
    (hv : isObject v = true) (h : parseFieldMeta true name fieldPath v = .ok field) :
    field.name = name ∧ ∃ desc, v = .obj desc ∧ isKnownFieldType (typeOf desc) = true := by
  cases v with
  | obj desc =>
    unfold parseFieldMeta at h
    rw [Bool.true_and] at h
    split_ifs at h with hknown
    have htype : isKnownFieldType (typeOf desc) = true := by simpa using hknown
    split at h
    next => simp at h
    next =>
      split at h
      next => simp at h
      next =>
        obtain rfl := Except.ok.inj h
        exact ⟨rfl, desc, rfl, htype⟩
  | _ => simp [isObject] at hv

/-- **What an accepted schema says.**  There is a field for each member, in order and under its
name, and each member is a descriptor of a known type. -/
theorem parseObject_accepted {pathPrefix : String} {obj : List (String × Json)}
    {fields : List FieldMeta} (h : parseObject true pathPrefix obj = .ok fields) :
    fields.map (·.name) = obj.map Prod.fst ∧
      ∀ member ∈ obj, ∃ desc, member.2 = .obj desc ∧ isKnownFieldType (typeOf desc) = true := by
  induction obj generalizing fields with
  | nil =>
    unfold parseObject at h
    obtain rfl := Except.ok.inj h
    simp
  | cons member rest ih =>
    unfold parseObject at h
    split_ifs at h with hobj
    have hv : isObject member.2 = true := by simpa using hobj
    split at h
    next => simp at h
    next field hfield =>
      split at h
      next => simp at h
      next others hothers =>
        obtain rfl := Except.ok.inj h
        have hfirst := parseFieldMeta_accepted hv hfield
        have hrest := ih hothers
        constructor
        · rw [List.map_cons, List.map_cons, hfirst.1, hrest.1]
        · intro other hother
          rcases List.mem_cons.mp hother with rfl | hother
          · exact hfirst.2
          · exact hrest.2 other hother

namespace ServiceConfigSchema

/-- `ServiceConfigSchema::fromJsonObject`. -/
def fromJsonObject (obj : List (String × Json)) : Except String ServiceConfigSchema :=
  match parseObject true "" obj with
  | .error error => .error error
  | .ok fields => .ok { fields := fields }

end ServiceConfigSchema

end Stdiolink.Meta
