/-
  Stdiolink.Meta.DriverMeta — a driver's metadata as JSON, `protocol/meta_types.cpp`.

  Each record is written member by member, most members only where they say something, and read
  back with the defaults of the record.  Declarations nest, so their reader and writer recurse.

  Main results:
    * `FieldMeta.fromJson_toJson`    — a declaration comes back, to any depth;
    * `DriverMeta.survives_iff`      — metadata comes back exactly if the settings of how the
      config is applied go with a field or a method.
-/
import Stdiolink.Meta.Validator

namespace Stdiolink.Meta

open Stdiolink.Lib
open Stdiolink.Protocol
open Stdiolink.Protocol.Json

/-! ## §1. Writing and reading -/

def fieldTypeToString : FieldType → String
  | .string => "string"
  | .int => "int"
  | .int64 => "int64"
  | .double => "double"
  | .bool => "bool"
  | .object => "object"
  | .array => "array"
  | .enum => "enum"
  | .any => "any"

def fieldTypeFromString (str : String) : FieldType :=
  if str = "string" then .string
  else if str = "int" || str = "integer" then .int
  else if str = "int64" then .int64
  else if str = "double" || str = "number" then .double
  else if str = "bool" || str = "boolean" then .bool
  else if str = "object" then .object
  else if str = "array" then .array
  else if str = "enum" then .enum
  else .any

namespace UIHint

def isEmpty (hint : UIHint) : Bool :=
  hint.widget.isEmpty && hint.group.isEmpty && hint.order = 0 && hint.placeholder.isEmpty &&
    !hint.advanced && !hint.readonly && hint.visibleIf.isEmpty && hint.unit.isEmpty && hint.step = 0

def toJson (hint : UIHint) : List (String × Json) :=
  record [
    ("widget", given (!hint.widget.isEmpty) (.str hint.widget)),
    ("group", given (!hint.group.isEmpty) (.str hint.group)),
    ("order", given (hint.order ≠ 0) (.num hint.order)),
    ("placeholder", given (!hint.placeholder.isEmpty) (.str hint.placeholder)),
    ("advanced", given hint.advanced (.bool true)),
    ("readonly", given hint.readonly (.bool true)),
    ("visibleIf", given (!hint.visibleIf.isEmpty) (.str hint.visibleIf)),
    ("unit", given (!hint.unit.isEmpty) (.str hint.unit)),
    ("step", given (hint.step ≠ 0) (.num hint.step))]

def fromJson (obj : List (String × Json)) : UIHint where
  widget := (value obj "widget").toStr
  group := (value obj "group").toStr
  order := (value obj "order").toInt
  placeholder := (value obj "placeholder").toStr
  advanced := (value obj "advanced").toBool
  readonly := (value obj "readonly").toBool
  visibleIf := (value obj "visibleIf").toStr
  unit := (value obj "unit").toStr
  step := (value obj "step").toDouble

end UIHint

/-- `if (x.has_value()) obj[key] = *x`. -/
def givenSome {α : Type} (x : Option α) (f : α → Json) : Json :=
  match x with
  | some a => f a
  | none => .undefined

/-- `if (obj.contains(key)) x = f(obj[key])`. -/
def readSome {α : Type} (obj : List (String × Json)) (key : String) (f : Json → α) : Option α :=
  if hasKey obj key then some (f (value obj key)) else none

namespace Constraints

def toJson (c : Constraints) : List (String × Json) :=
  record [
    ("min", givenSome c.min .num),
    ("max", givenSome c.max .num),
    ("minLength", givenSome c.minLength fun n => .num n),
    ("maxLength", givenSome c.maxLength fun n => .num n),
    ("pattern", given (!c.pattern.isEmpty) (.str c.pattern)),
    ("enum", given (!c.enumValues.isEmpty) (.arr c.enumValues)),
    ("format", given (!c.format.isEmpty) (.str c.format)),
    ("minItems", givenSome c.minItems fun n => .num n),
    ("maxItems", givenSome c.maxItems fun n => .num n)]

def fromJson (obj : List (String × Json)) : Constraints where
  min := readSome obj "min" toDouble
  max := readSome obj "max" toDouble
  minLength := readSome obj "minLength" toInt
  maxLength := readSome obj "maxLength" toInt
  pattern := (value obj "pattern").toStr
  enumValues := toArray (value obj "enum")
  format := (value obj "format").toStr
  minItems := readSome obj "minItems" toInt
  maxItems := readSome obj "maxItems" toInt

end Constraints

/-- `QJsonArray::fromStringList`. -/
def fromStringList (l : List String) : Json := .arr (l.map Json.str)

/-- The loop over an array of strings. -/
def toStringList (v : Json) : List String := (toArray v).map toStr

/-- An array of objects. -/
def fromObjects (l : List (List (String × Json))) : Json := .arr (l.map Json.obj)

/-- The loop over an array of objects. -/
def toObjects (v : Json) : List (List (String × Json)) := (toArray v).map toObject

namespace FieldMeta

/-- `FieldMeta::toJson`, given the JSON of the nested fields and of the items. -/
def writeField (field : FieldMeta) (fields : List (List (String × Json))) (items : Json) :
    List (String × Json) :=
  let obj := record [
    ("name", given (!field.name.isEmpty) (.str field.name)),
    ("type", .str (fieldTypeToString field.type)),
    ("required", given field.required (.bool true)),
    ("default", given (field.defaultValue ≠ .null) field.defaultValue),
    ("description", given (!field.description.isEmpty) (.str field.description))]
  -- the constraints are members of the declaration itself
  let obj := putAll obj field.constraints.toJson
  putAll obj [
    ("ui", given (!field.ui.isEmpty) (.obj field.ui.toJson)),
    ("fields", given (!fields.isEmpty) (fromObjects fields)),
    ("items", items),
    ("requiredKeys", given (!field.requiredKeys.isEmpty) (fromStringList field.requiredKeys)),
    ("additionalProperties", given (!field.additionalProperties) (.bool false))]

mutual

/-- `FieldMeta::toJson`. -/
def toJson (field : FieldMeta) : List (String × Json) :=
  match field with
  | { fields, items, .. } =>
    writeField field (fieldsToJson fields)
      (match items with
        | some item => .obj (toJson item)
        | none => .undefined)
termination_by structural field

/-- The loop over the nested fields. -/
def fieldsToJson (fields : List FieldMeta) : List (List (String × Json)) :=
  match fields with
  | [] => []
  | field :: rest => toJson field :: fieldsToJson rest
termination_by structural fields

end

/-- `FieldMeta::fromJson`, given the nested fields and the items. -/
def readField (obj : List (String × Json)) (fields : List FieldMeta) (items : Option FieldMeta) :
    FieldMeta where
  name := (value obj "name").toStr
  type := fieldTypeFromString (value obj "type").toStr
  required := (value obj "required").toBool
  defaultValue := value obj "default"
  description := (value obj "description").toStr
  constraints := Constraints.fromJson obj
  ui := if hasKey obj "ui" then UIHint.fromJson (value obj "ui").toObject else {}
  fields := fields
  items := items
  requiredKeys := toStringList (value obj "requiredKeys")
  additionalProperties :=
    if hasKey obj "additionalProperties" then (value obj "additionalProperties").toBool else true

mutual

/-- `FieldMeta::fromJson(v.toObject())`. -/
def fromValue : Json → FieldMeta
  | .obj members => readField members (nestedFields members) (nestedItems members)
  | _ => readField [] [] none

/-- The loop over `obj["fields"]`. -/
def nestedFields : List (String × Json) → List FieldMeta
  | [] => []
  | (key, v) :: rest => if key = "fields" then fromArray v else nestedFields rest

/-- The items, if `obj` has any. -/
def nestedItems : List (String × Json) → Option FieldMeta
  | [] => none
  | (key, v) :: rest => if key = "items" then some (fromValue v) else nestedItems rest

def fromArray : Json → List FieldMeta
  | .arr l => fromValues l
  | _ => []

def fromValues : List Json → List FieldMeta
  | [] => []
  | v :: rest => fromValue v :: fromValues rest

end

/-- `FieldMeta::fromJson`. -/
def fromJson (obj : List (String × Json)) : FieldMeta := fromValue (.obj obj)

end FieldMeta

/-- An array of declarations. -/
def fromFields (fields : List FieldMeta) : Json := fromObjects (fields.map FieldMeta.toJson)

/-- The loop over an array of declarations. -/
def toFields (v : Json) : List FieldMeta := (toObjects v).map FieldMeta.fromJson

namespace EventMeta

def toJson (e : EventMeta) : List (String × Json) :=
  record [
    ("name", .str e.name),
    ("description", given (!e.description.isEmpty) (.str e.description)),
    ("fields", given (!e.fields.isEmpty) (fromFields e.fields))]

def fromJson (obj : List (String × Json)) : EventMeta where
  name := (value obj "name").toStr
  description := (value obj "description").toStr
  fields := toFields (value obj "fields")

end EventMeta

namespace ReturnMeta

def toJson (r : ReturnMeta) : List (String × Json) :=
  record [
    ("type", .str (fieldTypeToString r.type)),
    ("description", given (!r.description.isEmpty) (.str r.description)),
    ("fields", given (!r.fields.isEmpty) (fromFields r.fields))]

def fromJson (obj : List (String × Json)) : ReturnMeta where
  type := fieldTypeFromString (value obj "type").toStr
  description := (value obj "description").toStr
  fields := toFields (value obj "fields")

end ReturnMeta

namespace CommandMeta

def toJson (c : CommandMeta) : List (String × Json) :=
  record [
    ("name", .str c.name),
    ("description", given (!c.description.isEmpty) (.str c.description)),
    ("title", given (!c.title.isEmpty) (.str c.title)),
    ("summary", given (!c.summary.isEmpty) (.str c.summary)),
    ("params", given (!c.params.isEmpty) (fromFields c.params)),
    ("returns", .obj c.returns.toJson),
    ("events", given (!c.events.isEmpty) (fromObjects (c.events.map EventMeta.toJson))),
    ("errors", given (!c.errors.isEmpty) (fromObjects c.errors)),
    ("examples", given (!c.examples.isEmpty) (fromObjects c.examples)),
    ("ui", given (!c.ui.isEmpty) (.obj c.ui.toJson))]

def fromJson (obj : List (String × Json)) : CommandMeta where
  name := (value obj "name").toStr
  description := (value obj "description").toStr
  title := (value obj "title").toStr
  summary := (value obj "summary").toStr
  params := toFields (value obj "params")
  returns := if hasKey obj "returns" then ReturnMeta.fromJson (value obj "returns").toObject else {}
  events := (toObjects (value obj "events")).map EventMeta.fromJson
  errors := toObjects (value obj "errors")
  examples := toObjects (value obj "examples")
  ui := if hasKey obj "ui" then UIHint.fromJson (value obj "ui").toObject else {}

end CommandMeta

namespace ConfigApply

def toJson (a : ConfigApply) : List (String × Json) :=
  record [
    ("method", given (!a.method.isEmpty) (.str a.method)),
    ("envPrefix", given (!a.envPrefix.isEmpty) (.str a.envPrefix)),
    ("command", given (!a.command.isEmpty) (.str a.command)),
    ("fileName", given (!a.fileName.isEmpty) (.str a.fileName))]

def fromJson (obj : List (String × Json)) : ConfigApply where
  method := (value obj "method").toStr
  envPrefix := (value obj "envPrefix").toStr
  command := (value obj "command").toStr
  fileName := (value obj "fileName").toStr

end ConfigApply

namespace ConfigSchema

def toJson (s : ConfigSchema) : List (String × Json) :=
  record [
    ("fields", given (!s.fields.isEmpty) (fromFields s.fields)),
    ("apply", .obj s.apply.toJson)]

def fromJson (obj : List (String × Json)) : ConfigSchema where
  fields := toFields (value obj "fields")
  apply := if hasKey obj "apply" then ConfigApply.fromJson (value obj "apply").toObject else {}

end ConfigSchema

namespace DriverInfo

def toJson (i : DriverInfo) : List (String × Json) :=
  record [
    ("id", .str i.id),
    ("name", .str i.name),
    ("version", .str i.version),
    ("description", given (!i.description.isEmpty) (.str i.description)),
    ("vendor", given (!i.vendor.isEmpty) (.str i.vendor)),
    ("entry", given (!i.entry.isEmpty) (.obj i.entry)),
    ("capabilities", given (!i.capabilities.isEmpty) (fromStringList i.capabilities)),
    ("profiles", given (!i.profiles.isEmpty) (fromStringList i.profiles))]

def fromJson (obj : List (String × Json)) : DriverInfo where
  id := (value obj "id").toStr
  name := (value obj "name").toStr
  version := (value obj "version").toStr
  description := (value obj "description").toStr
  vendor := (value obj "vendor").toStr
  entry := (value obj "entry").toObject
  capabilities := toStringList (value obj "capabilities")
  profiles := toStringList (value obj "profiles")

end DriverInfo

namespace DriverMeta

/-- The declared types, one member for each name. -/
def typesToJson (types : SortedMap String FieldMeta) : List (String × Json) :=
  record (types.entries.map fun entry => (entry.1, .obj entry.2.toJson))

def typesFromJson (obj : List (String × Json)) : SortedMap String FieldMeta :=
  SortedMap.ofEntries (obj.map fun member => (member.1, FieldMeta.fromJson member.2.toObject))

def toJson (m : DriverMeta) : List (String × Json) :=
  record [
    ("schemaVersion", .str m.schemaVersion),
    ("info", .obj m.info.toJson),
    ("config", given (!m.config.fields.isEmpty || !m.config.apply.method.isEmpty)
      (.obj m.config.toJson)),
    ("commands", given (!m.commands.isEmpty) (fromObjects (m.commands.map CommandMeta.toJson))),
    ("types", given (!m.types.entries.isEmpty) (.obj (typesToJson m.types))),
    ("errors", given (!m.errors.isEmpty) (fromObjects m.errors)),
    ("examples", given (!m.examples.isEmpty) (fromObjects m.examples))]

def fromJson (obj : List (String × Json)) : DriverMeta where
  schemaVersion := (value obj "schemaVersion").toStr
  -- the older name of the member is read as well
  info :=
    if hasKey obj "info" then DriverInfo.fromJson (value obj "info").toObject
    else if hasKey obj "driver" then DriverInfo.fromJson (value obj "driver").toObject
    else {}
  config := if hasKey obj "config" then ConfigSchema.fromJson (value obj "config").toObject else {}
  commands := (toObjects (value obj "commands")).map CommandMeta.fromJson
  types :=
    if hasKey obj "types" then typesFromJson (value obj "types").toObject else SortedMap.empty
  errors := toObjects (value obj "errors")
  examples := toObjects (value obj "examples")

end DriverMeta

/-! ## §2. One member

What a member reads back as, when it is written only where it says something.
-/

/-- The values of an `int`. -/
def IsInt (n : Int) : Prop := -2147483648 ≤ n ∧ n ≤ 2147483647

instance (n : Int) : Decidable (IsInt n) := inferInstanceAs (Decidable (_ ∧ _))

/-- The values of a `double`. -/
def IsDouble (q : ℚ) : Prop := (Json.num q).toDouble = q

theorem fieldTypeFromString_toString (type : FieldType) :
    fieldTypeFromString (fieldTypeToString type) = type := by
  cases type <;> rfl

theorem toStr_str (s : String) : (Json.str s).toStr = s := rfl

theorem toStr_given (s : String) : (given (!s.isEmpty) (.str s)).toStr = s := by
  cases h : s.isEmpty with
  | true =>
    rw [String.isEmpty_iff] at h
    rw [h]
    rfl
  | false => rfl

theorem toBool_given (b : Bool) : (given b (.bool true)).toBool = b := by
  cases b <;> rfl

theorem toInt_num {n : Int} (h : IsInt n) : (Json.num n).toInt = n := by
  rw [toInt, if_pos]
  · exact Rat.num_intCast n
  · exact ⟨Rat.den_intCast n, h⟩

theorem toInt_given {n : Int} (h : IsInt n) : (given (n ≠ 0) (.num n)).toInt = n := by
  by_cases hn : n = 0
  · subst hn
    rfl
  · rw [given, decide_eq_true hn]
    exact toInt_num h

theorem toDouble_given {q : ℚ} (h : IsDouble q) : (given (q ≠ 0) (.num q)).toDouble = q := by
  by_cases hq : q = 0
  · subst hq
    rfl
  · rw [given, decide_eq_true hq]
    exact h

theorem toArray_given (l : List Json) : toArray (given (!l.isEmpty) (.arr l)) = l := by
  cases l <;> rfl

theorem toObject_given (obj : List (String × Json)) :
    (given (!obj.isEmpty) (.obj obj)).toObject = obj := by
  cases obj <;> rfl

theorem toStringList_given (l : List String) :
    toStringList (given (!l.isEmpty) (fromStringList l)) = l := by
  cases l with
  | nil => rfl
  | cons s rest =>
    show ((s :: rest).map Json.str).map toStr = s :: rest
    rw [List.map_map]
    exact List.map_id _

theorem toObjects_fromObjects (l : List (List (String × Json))) : toObjects (fromObjects l) = l := by
  show (l.map Json.obj).map toObject = l
  rw [List.map_map]
  exact List.map_id _

theorem toObjects_given (l : List (List (String × Json))) :
    toObjects (given (!l.isEmpty) (fromObjects l)) = l := by
  cases l with
  | nil => rfl
  | cons obj rest => exact toObjects_fromObjects (obj :: rest)

variable {α : Type} {obj : List (String × Json)} {key : String}

/-- Records in an array, each written by `f`. -/
theorem toObjects_given_map (l : List α) (f : α → List (String × Json)) :
    toObjects (given (!l.isEmpty) (fromObjects (l.map f))) = l.map f := by
  have h := toObjects_given (l.map f)
  rw [List.isEmpty_map] at h
  exact h

variable (fields : List FieldMeta) (field : FieldMeta)

theorem toFields_given :
    toFields (given (!fields.isEmpty) (fromFields fields)) =
      fields.map fun f => FieldMeta.fromJson f.toJson := by
  rw [toFields, fromFields, toObjects_given_map, List.map_map]
  rfl

/-- A member that is there only with a value. -/
theorem readSome_map {β : Type} {x : Option α} {f : α → Json} (g : Json → β) (hobj : Defined obj)
    (hvalue : value obj key = givenSome x f) (hf : ∀ a, f a ≠ .undefined) :
    readSome obj key g = x.map fun a => g (f a) := by
  rw [readSome, hobj key, hvalue]
  cases x with
  | none => rfl
  | some a =>
    rw [givenSome, decide_eq_true (hf a)]
    rfl

theorem readSome_given {x : Option α} {f : α → Json} {g : Json → α} (hobj : Defined obj)
    (hvalue : value obj key = givenSome x f) (hf : ∀ a, f a ≠ .undefined)
    (hg : ∀ a, x = some a → g (f a) = a) :
    readSome obj key g = x := by
  rw [readSome_map g hobj hvalue hf]
  cases x with
  | none => rfl
  | some a => rw [Option.map_some, hg a rfl]

/-- A record that is there only where it says something: the reader's default is the rest. -/
theorem record_given {c : Bool} {a b : α} {w : List (String × Json)} {g : List (String × Json) → α}
    (hobj : Defined obj) (hvalue : value obj key = given c (.obj w)) (hg : c = true → g w = a)
    (hb : c = false → b = a) :
    (if hasKey obj key then g (value obj key).toObject else b) = a := by
  rw [hobj key, hvalue]
  cases c with
  | false => exact hb rfl
  | true => exact hg rfl

/-- A record that is always there. -/
theorem record_written {b : α} {w : List (String × Json)} (g : List (String × Json) → α)
    (hobj : Defined obj) (hvalue : value obj key = .obj w) :
    (if hasKey obj key then g (value obj key).toObject else b) = g w := by
  rw [hobj key, hvalue]
  rfl

/-! ## §3. Hints, constraints and declarations -/

namespace UIHint

/-- The numbers are of their types. -/
structure Representable (hint : UIHint) : Prop where
  order : IsInt hint.order
  step : IsDouble hint.step

theorem isEmpty_iff (hint : UIHint) : hint.isEmpty = true ↔ hint = {} := by
  obtain ⟨widget, group, order, placeholder, advanced, readonly, visibleIf, unit, step⟩ := hint
  simp only [isEmpty, Bool.and_eq_true, String.isEmpty_iff, decide_eq_true_eq, Bool.not_eq_true',
    UIHint.mk.injEq]
  tauto

theorem fromJson_toJson {hint : UIHint} (h : hint.Representable) : fromJson hint.toJson = hint := by
  unfold toJson fromJson
  simp (disch := simp) only [value_record, value_cons, String.reduceEq, if_true, if_false,
    toStr_given, toBool_given, toInt_given h.order, toDouble_given h.step]

/-- A hint as a member of another record. -/
theorem read_given {obj : List (String × Json)} {hint : UIHint} (h : hint.Representable)
    (hobj : Defined obj) (hvalue : value obj "ui" = given (!hint.isEmpty) (.obj hint.toJson)) :
    (if hasKey obj "ui" then fromJson (value obj "ui").toObject else {}) = hint := by
  apply record_given hobj hvalue
  · intro _
    exact fromJson_toJson h
  · intro hempty
    rw [Bool.not_eq_false', isEmpty_iff] at hempty
    exact hempty.symm

end UIHint

namespace Constraints

structure Representable (c : Constraints) : Prop where
  min : ∀ q, c.min = some q → IsDouble q
  max : ∀ q, c.max = some q → IsDouble q
  minLength : ∀ n, c.minLength = some n → IsInt n
  maxLength : ∀ n, c.maxLength = some n → IsInt n
  minItems : ∀ n, c.minItems = some n → IsInt n
  maxItems : ∀ n, c.maxItems = some n → IsInt n

/-- The members that constraints are read from. -/
def keys : List String :=
  ["min", "max", "minLength", "maxLength", "pattern", "enum", "format", "minItems", "maxItems"]

/-- Constraints come back from any object that has their members, among others. -/
theorem fromJson_of_values {c : Constraints} (h : c.Representable) {obj : List (String × Json)}
    (hobj : Defined obj) (hvalue : ∀ key ∈ keys, value obj key = value c.toJson key) :
    fromJson obj = c := by
  have hint : ∀ (x : Option Int) (key : String), (∀ n, x = some n → IsInt n) →
      value obj key = givenSome x (fun n => .num n) → readSome obj key toInt = x := by
    intro x key hx hkey
    apply readSome_given hobj hkey
    · intro n
      simp
    · intro n hn
      exact toInt_num (hx n hn)
  have hdouble : ∀ (x : Option ℚ) (key : String), (∀ q, x = some q → IsDouble q) →
      value obj key = givenSome x .num → readSome obj key toDouble = x := by
    intro x key hx hkey
    apply readSome_given hobj hkey
    · intro q
      simp
    · intro q hq
      exact hx q hq
  unfold fromJson
  rw [hdouble c.min "min" h.min, hdouble c.max "max" h.max,
    hint c.minLength "minLength" h.minLength, hint c.maxLength "maxLength" h.maxLength,
    hint c.minItems "minItems" h.minItems, hint c.maxItems "maxItems" h.maxItems,
    hvalue "pattern" (by decide), hvalue "enum" (by decide), hvalue "format" (by decide)]
  · simp (disch := simp) only [toJson, value_record, value_cons, String.reduceEq, if_true, if_false,
      toStr_given, toArray_given]
  all_goals
    rw [hvalue _ (by decide)]
    simp (disch := simp) only [toJson, value_record, value_cons, String.reduceEq, if_true, if_false]

end Constraints

namespace FieldMeta

/-- The numbers are of their types, at every depth. -/
inductive Representable : FieldMeta → Prop where
  | intro {field : FieldMeta} : field.constraints.Representable → field.ui.Representable →
      (∀ f ∈ field.fields, Representable f) →
      (∀ item, field.items = some item → Representable item) → Representable field

mutual

/-- The same declaration with null for an absent default, at every depth. -/
def absentAsNull (field : FieldMeta) : FieldMeta :=
  match field with
  | { fields, items, .. } =>
    { field with
      defaultValue := if field.defaultValue.isNullish then .null else field.defaultValue
      fields := eachAbsentAsNull fields
      items :=
        match items with
        | some item => some (absentAsNull item)
        | none => none }
termination_by structural field

def eachAbsentAsNull (fields : List FieldMeta) : List FieldMeta :=
  match fields with
  | [] => []
  | field :: rest => absentAsNull field :: eachAbsentAsNull rest
termination_by structural fields

end

theorem eachAbsentAsNull_eq : eachAbsentAsNull fields = fields.map absentAsNull := by
  induction fields with
  | nil => rfl
  | cons field rest ih => rw [eachAbsentAsNull, ih, List.map_cons]

theorem absentAsNull_eq :
    field.absentAsNull =
      { field with
        defaultValue := if field.defaultValue.isNullish then .null else field.defaultValue
        fields := field.fields.map absentAsNull
        items := field.items.map absentAsNull } := by
  obtain ⟨name, type, required, defaultValue, description, constraints, ui, fields, items,
    requiredKeys, additionalProperties⟩ := field
  rw [absentAsNull.eq_def, ← eachAbsentAsNull_eq]
  cases items <;> rfl

theorem fieldsToJson_eq : fieldsToJson fields = fields.map toJson := by
  induction fields with
  | nil => rfl
  | cons field rest ih => rw [fieldsToJson, ih, List.map_cons]

/-- The writer, one level down. -/
theorem toJson_eq :
    field.toJson = writeField field (field.fields.map toJson)
      (givenSome field.items fun item => .obj item.toJson) := by
  obtain ⟨name, type, required, defaultValue, description, constraints, ui, fields, items,
    requiredKeys, additionalProperties⟩ := field
  rw [toJson.eq_def, ← fieldsToJson_eq]
  cases items <;> rfl

theorem fromValue_eq (v : Json) : fromValue v = fromJson v.toObject := by
  cases v <;> rfl

theorem fromValues_eq (l : List Json) : fromValues l = toFields (.arr l) := by
  induction l with
  | nil => rfl
  | cons v rest ih =>
    rw [fromValues, ih, fromValue_eq]
    rfl

theorem nestedFields_eq (members : List (String × Json)) :
    nestedFields members = toFields (value members "fields") := by
  induction members with
  | nil => rfl
  | cons member rest ih =>
    obtain ⟨k, v⟩ := member
    rw [nestedFields, value_cons]
    by_cases hk : k = "fields"
    · rw [if_pos hk, if_pos hk.symm]
      cases v with
      | arr l => exact fromValues_eq l
      | _ => rfl
    · rw [if_neg hk, if_neg (Ne.symm hk), ih]

theorem nestedItems_eq (members : List (String × Json)) :
    nestedItems members = readSome members "items" fun v => fromJson v.toObject := by
  induction members with
  | nil => rfl
  | cons member rest ih =>
    obtain ⟨k, v⟩ := member
    rw [nestedItems, readSome, hasKey, lookup_member, value_cons]
    by_cases hk : k = "items"
    · rw [if_pos hk, if_pos hk.symm, if_pos hk.symm, fromValue_eq]
      rfl
    · rw [if_neg hk, if_neg (Ne.symm hk), if_neg (Ne.symm hk), ih]
      rfl

/-- The reader, one level down. -/
theorem fromJson_eq (obj : List (String × Json)) :
    fromJson obj = readField obj (toFields (value obj "fields"))
      (readSome obj "items" fun v => fromJson v.toObject) := by
  rw [fromJson, fromValue, nestedFields_eq, nestedItems_eq]

theorem defined_toJson : Defined field.toJson := by
  rw [toJson_eq]
  exact ((defined_record _).putAll _).putAll _

theorem nodup_constraints (c : Constraints) : (c.toJson.map Prod.fst).Nodup :=
  (sorted_record _).nodup_keys

/-- The constraints are found among the other members. -/
theorem value_constraint (hkey : key ∈ Constraints.keys) :
    value field.toJson key = value field.constraints.toJson key := by
  have hnot : ∀ k : String, k ∉ Constraints.keys → key ≠ k := by
    intro k hk heq
    exact hk (heq ▸ hkey)
  rw [toJson_eq, writeField, value_putAll (by simp), value_putAll (nodup_constraints _),
    value_record (by simp)]
  simp only [value_cons, value_nil, hnot "ui" (by decide), hnot "fields" (by decide),
    hnot "items" (by decide), hnot "requiredKeys" (by decide),
    hnot "additionalProperties" (by decide), hnot "name" (by decide), hnot "type" (by decide),
    hnot "required" (by decide), hnot "default" (by decide), hnot "description" (by decide), if_false,
    if_true]
  by_cases hv : value field.constraints.toJson key = .undefined
  · rw [if_pos hv, hv]
  · rw [if_neg hv]

/-- No constraint is written under this key. -/
theorem constraints_other (c : Constraints) (hkey : key ∉ Constraints.keys) :
    value c.toJson key = .undefined := by
  rw [Constraints.toJson, value_record (by simp)]
  apply value_eq_undefined_of_not_mem
  exact hkey

/-- The other members are found before the constraints or behind them. -/
theorem value_other (hkey : key ∉ Constraints.keys) :
    value field.toJson key = value [
      ("name", given (!field.name.isEmpty) (.str field.name)),
      ("type", .str (fieldTypeToString field.type)),
      ("required", given field.required (.bool true)),
      ("default", given (field.defaultValue ≠ .null) field.defaultValue),
      ("description", given (!field.description.isEmpty) (.str field.description)),
      ("ui", given (!field.ui.isEmpty) (.obj field.ui.toJson)),
      ("fields", given (!field.fields.isEmpty) (fromFields field.fields)),
      ("items", givenSome field.items fun item => .obj item.toJson),
      ("requiredKeys", given (!field.requiredKeys.isEmpty) (fromStringList field.requiredKeys)),
      ("additionalProperties", given (!field.additionalProperties) (.bool false))] key := by
  rw [toJson_eq, writeField, value_putAll (by simp), value_putAll (nodup_constraints _),
    value_record (by simp), constraints_other _ hkey, if_pos rfl]
  simp only [value_cons, value_nil]
  split_ifs <;> simp_all [fromFields]

/-- **One level of a declaration.**  What is read is what was written, with the nested
declarations read from what was written of them. -/
theorem fromJson_toJson_level {field : FieldMeta} (hc : field.constraints.Representable)
    (hui : field.ui.Representable) :
    fromJson field.toJson =
      { field with
        defaultValue := given (field.defaultValue ≠ .null) field.defaultValue
        fields := field.fields.map fun f => fromJson f.toJson
        items := field.items.map fun item => fromJson item.toJson } := by
  have hobj := field.defined_toJson
  have hconstraints : Constraints.fromJson field.toJson = field.constraints := by
    apply Constraints.fromJson_of_values hc hobj
    intro key hkey
    exact field.value_constraint hkey
  have hhint : (if hasKey field.toJson "ui" then UIHint.fromJson (value field.toJson "ui").toObject
      else {}) = field.ui := by
    apply UIHint.read_given hui hobj
    rw [value_other field (by decide)]
    simp only [value_cons, String.reduceEq, if_true, if_false]
  have hitems : readSome field.toJson "items" (fun v => fromJson v.toObject) =
      field.items.map fun item => fromJson item.toJson := by
    have hvalue : value field.toJson "items" =
        givenSome field.items fun item => .obj item.toJson := by
      rw [value_other field (by decide)]
      simp only [value_cons, String.reduceEq, if_true, if_false]
    exact readSome_map (fun v => fromJson v.toObject) hobj hvalue (by simp)
  have hadditional : (if hasKey field.toJson "additionalProperties" then
      (value field.toJson "additionalProperties").toBool else true) =
      field.additionalProperties := by
    rw [hobj, value_other field (by decide)]
    simp only [value_cons, String.reduceEq, if_true, if_false]
    cases field.additionalProperties <;> rfl
  rw [fromJson_eq, readField, hconstraints, hhint, hitems, hadditional]
  simp (disch := decide) only [value_other, value_cons, String.reduceEq, if_true, if_false,
    toStr_given, toBool_given, toFields_given, toStringList_given, toStr_str,
    fieldTypeFromString_toString]

/-- The default comes back, or null for an absent one. -/
theorem default_given (v : Json) :
    (if (given (v ≠ .null) v).isNullish then Json.null else given (v ≠ .null) v) =
      if v.isNullish then .null else v := by
  cases v <;> rfl

/-- **Declarations come back**, whatever they nest. -/
theorem fromJson_toJson {field : FieldMeta} (h : field.Representable) :
    (fromJson field.toJson).absentAsNull = field.absentAsNull := by
  induction field using ind with
  | field field ihfields ihitems =>
    obtain ⟨hc, hui, hfields, hitems⟩ := h
    have hnested : (field.fields.map fun f => fromJson f.toJson).map absentAsNull =
        field.fields.map absentAsNull := by
      rw [List.map_map]
      apply List.map_congr_left
      intro f hf
      exact ihfields f hf (hfields f hf)
    have hitem : (field.items.map fun item => fromJson item.toJson).map absentAsNull =
        field.items.map absentAsNull := by
      rw [Option.map_map]
      apply Option.map_congr
      intro item hmem
      exact ihitems item hmem (hitems item hmem)
    rw [fromJson_toJson_level hc hui, absentAsNull_eq, absentAsNull_eq field]
    simp only [default_given, hnested, hitem]

end FieldMeta

/-! ## §4. The other records -/

/-- The numbers in a list of declarations are of their types. -/
def FieldsRepresentable (fields : List FieldMeta) : Prop := ∀ f ∈ fields, f.Representable

/-- Declarations come back from an array. -/
theorem toFields_absentAsNull {fields : List FieldMeta} (h : FieldsRepresentable fields) :
    (toFields (given (!fields.isEmpty) (fromFields fields))).map FieldMeta.absentAsNull =
      fields.map FieldMeta.absentAsNull := by
  rw [toFields_given, List.map_map]
  apply List.map_congr_left
  intro f hf
  exact FieldMeta.fromJson_toJson (h f hf)

namespace EventMeta

def absentAsNull (e : EventMeta) : EventMeta :=
  { e with fields := e.fields.map FieldMeta.absentAsNull }

theorem fromJson_toJson {e : EventMeta} (h : FieldsRepresentable e.fields) :
    (fromJson e.toJson).absentAsNull = e.absentAsNull := by
  have hfields := toFields_absentAsNull h
  unfold toJson fromJson absentAsNull
  simp (disch := simp) only [value_record, value_cons, String.reduceEq, if_true, if_false,
    toStr_given, toStr_str, hfields]

end EventMeta

namespace ReturnMeta

def absentAsNull (r : ReturnMeta) : ReturnMeta :=
  { r with fields := r.fields.map FieldMeta.absentAsNull }

theorem fromJson_toJson {r : ReturnMeta} (h : FieldsRepresentable r.fields) :
    (fromJson r.toJson).absentAsNull = r.absentAsNull := by
  have hfields := toFields_absentAsNull h
  unfold toJson fromJson absentAsNull
  simp (disch := simp) only [value_record, value_cons, String.reduceEq, if_true, if_false,
    toStr_given, toStr_str, fieldTypeFromString_toString, hfields]

end ReturnMeta

namespace CommandMeta

structure Representable (c : CommandMeta) : Prop where
  params : FieldsRepresentable c.params
  returns : FieldsRepresentable c.returns.fields
  events : ∀ e ∈ c.events, FieldsRepresentable e.fields
  ui : c.ui.Representable

def absentAsNull (c : CommandMeta) : CommandMeta :=
  { c with
    params := c.params.map FieldMeta.absentAsNull
    returns := c.returns.absentAsNull
    events := c.events.map EventMeta.absentAsNull }

theorem fromJson_toJson {c : CommandMeta} (h : c.Representable) :
    (fromJson c.toJson).absentAsNull = c.absentAsNull := by
  have hobj : Defined c.toJson := defined_record _
  have hparams := toFields_absentAsNull h.params
  have hreturns : (if hasKey c.toJson "returns" then
      ReturnMeta.fromJson (value c.toJson "returns").toObject else {}) =
      ReturnMeta.fromJson c.returns.toJson := by
    apply record_written ReturnMeta.fromJson hobj
    simp (disch := simp) only [toJson, value_record, value_cons, String.reduceEq, if_true, if_false]
  have hevents : ((c.events.map EventMeta.toJson).map EventMeta.fromJson).map EventMeta.absentAsNull =
      c.events.map EventMeta.absentAsNull := by
    rw [List.map_map, List.map_map]
    apply List.map_congr_left
    intro e he
    exact EventMeta.fromJson_toJson (h.events e he)
  have hui : (if hasKey c.toJson "ui" then UIHint.fromJson (value c.toJson "ui").toObject else {}) =
      c.ui := by
    apply UIHint.read_given h.ui hobj
    simp (disch := simp) only [toJson, value_record, value_cons, String.reduceEq, if_true, if_false]
  rw [fromJson, absentAsNull, hreturns, ReturnMeta.fromJson_toJson h.returns, hui]
  simp (disch := simp) only [toJson, value_record, value_cons, String.reduceEq, if_true, if_false,
    toStr_given, toStr_str, toObjects_given, toObjects_given_map, hparams, hevents]
  rfl

end CommandMeta

namespace ConfigApply

theorem fromJson_toJson (a : ConfigApply) : fromJson a.toJson = a := by
  unfold toJson fromJson
  simp (disch := simp) only [value_record, value_cons, String.reduceEq, if_true, if_false,
    toStr_given]

end ConfigApply

namespace ConfigSchema

def absentAsNull (s : ConfigSchema) : ConfigSchema :=
  { s with fields := s.fields.map FieldMeta.absentAsNull }

theorem fromJson_toJson {s : ConfigSchema} (h : FieldsRepresentable s.fields) :
    (fromJson s.toJson).absentAsNull = s.absentAsNull := by
  have hobj : Defined s.toJson := defined_record _
  have hfields := toFields_absentAsNull h
  have happly : (if hasKey s.toJson "apply" then
      ConfigApply.fromJson (value s.toJson "apply").toObject else {}) = s.apply := by
    rw [record_written ConfigApply.fromJson hobj (w := s.apply.toJson),
      ConfigApply.fromJson_toJson]
    simp (disch := simp) only [toJson, value_record, value_cons, String.reduceEq, if_true, if_false]
  rw [fromJson, absentAsNull, happly]
  simp (disch := simp) only [toJson, value_record, value_cons, String.reduceEq, if_true, if_false,
    hfields]
  rfl

end ConfigSchema

namespace DriverInfo

theorem fromJson_toJson (i : DriverInfo) : fromJson i.toJson = i := by
  unfold toJson fromJson
  simp (disch := simp) only [value_record, value_cons, String.reduceEq, if_true, if_false,
    toStr_given, toStr_str, toObject_given, toStringList_given]

end DriverInfo

/-! ## §5. The metadata of a driver -/

namespace DriverMeta

structure Representable (m : DriverMeta) : Prop where
  config : FieldsRepresentable m.config.fields
  commands : ∀ c ∈ m.commands, c.Representable
  types : ∀ entry ∈ m.types.entries, entry.2.Representable

def absentAsNull (m : DriverMeta) : DriverMeta :=
  { m with
    config := m.config.absentAsNull
    commands := m.commands.map CommandMeta.absentAsNull
    types := m.types.mapValues fun _ f => f.absentAsNull }

/-- The metadata comes back, with null for an absent default. -/
def Survives (m : DriverMeta) : Prop := (fromJson m.toJson).absentAsNull = m.absentAsNull

/-- Settings for applying the config go with a field or a method. -/
def ApplyWritten (m : DriverMeta) : Prop :=
  m.config.fields = [] → m.config.apply.method = "" → m.config.apply = {}

/-- The types are written under their names, in order. -/
theorem typesToJson_eq (types : SortedMap String FieldMeta) :
    typesToJson types = types.entries.map fun entry => (entry.1, .obj entry.2.toJson) := by
  apply record_sorted
  · exact List.pairwise_map.mpr types.sorted
  · intro entry hentry
    obtain ⟨e, -, rfl⟩ := List.mem_map.mp hentry
    simp

theorem typesFromJson_toJson {types : SortedMap String FieldMeta}
    (h : ∀ entry ∈ types.entries, entry.2.Representable) :
    (typesFromJson (typesToJson types)).mapValues (fun _ f => f.absentAsNull) =
      types.mapValues fun _ f => f.absentAsNull := by
  have hsorted : (types.entries.map fun entry =>
      (entry.1, FieldMeta.fromJson entry.2.toJson)).Pairwise fun a b => a.1 < b.1 :=
    List.pairwise_map.mpr types.sorted
  apply SortedMap.ext
  show (typesFromJson (typesToJson types)).entries.map _ = types.entries.map _
  rw [typesFromJson, typesToJson_eq, List.map_map]
  show (SortedMap.ofEntries (types.entries.map fun entry =>
    (entry.1, FieldMeta.fromJson entry.2.toJson))).entries.map _ = _
  rw [SortedMap.entries_ofEntries hsorted, List.map_map]
  apply List.map_congr_left
  intro entry hentry
  show (entry.1, (FieldMeta.fromJson entry.2.toJson).absentAsNull) = (entry.1, entry.2.absentAsNull)
  rw [FieldMeta.fromJson_toJson (h entry hentry)]

theorem types_given {m : DriverMeta} (h : ∀ entry ∈ m.types.entries, entry.2.Representable)
    {obj : List (String × Json)} (hobj : Defined obj) (hvalue : value obj "types" =
      given (!m.types.entries.isEmpty) (.obj (typesToJson m.types))) :
    (if hasKey obj "types" then typesFromJson (value obj "types").toObject
      else SortedMap.empty).mapValues (fun _ f => f.absentAsNull) =
      m.types.mapValues fun _ f => f.absentAsNull := by
  rw [hobj, hvalue]
  cases hempty : m.types.entries.isEmpty with
  | true =>
    rw [List.isEmpty_iff] at hempty
    apply SortedMap.ext
    show [] = m.types.entries.map _
    rw [hempty]
    rfl
  | false => exact typesFromJson_toJson h

/-- **What comes back.**  Everything does, but a config that is not written comes back empty. -/
theorem fromJson_toJson {m : DriverMeta} (h : m.Representable) :
    (fromJson m.toJson).absentAsNull =
      { m.absentAsNull with
        config :=
          if !m.config.fields.isEmpty || !m.config.apply.method.isEmpty then m.config.absentAsNull
          else {} } := by
  have hobj : Defined m.toJson := defined_record _
  have hinfo : (if hasKey m.toJson "info" then DriverInfo.fromJson (value m.toJson "info").toObject
      else if hasKey m.toJson "driver" then
        DriverInfo.fromJson (value m.toJson "driver").toObject
      else {}) = m.info := by
    rw [record_written DriverInfo.fromJson hobj (w := m.info.toJson), DriverInfo.fromJson_toJson]
    simp (disch := simp) only [toJson, value_record, value_cons, String.reduceEq, if_true, if_false]
  have hconfig : (if hasKey m.toJson "config" then
      ConfigSchema.fromJson (value m.toJson "config").toObject else {}).absentAsNull =
      if !m.config.fields.isEmpty || !m.config.apply.method.isEmpty then m.config.absentAsNull
      else {} := by
    have hvalue : value m.toJson "config" = given (!m.config.fields.isEmpty ||
        !m.config.apply.method.isEmpty) (.obj m.config.toJson) := by
      simp (disch := simp) only [toJson, value_record, value_cons, String.reduceEq, if_true, if_false]
    rw [hobj, hvalue]
    cases !m.config.fields.isEmpty || !m.config.apply.method.isEmpty with
    | true => exact ConfigSchema.fromJson_toJson h.config
    | false => rfl
  have hcommands : ((m.commands.map CommandMeta.toJson).map CommandMeta.fromJson).map
      CommandMeta.absentAsNull = m.commands.map CommandMeta.absentAsNull := by
    rw [List.map_map, List.map_map]
    apply List.map_congr_left
    intro c hc
    exact CommandMeta.fromJson_toJson (h.commands c hc)
  have htypes : (if hasKey m.toJson "types" then typesFromJson (value m.toJson "types").toObject
      else SortedMap.empty).mapValues (fun _ f => f.absentAsNull) =
      m.types.mapValues fun _ f => f.absentAsNull := by
    apply types_given h.types hobj
    simp (disch := simp) only [toJson, value_record, value_cons, String.reduceEq, if_true, if_false]
  rw [absentAsNull, absentAsNull, fromJson, hinfo]
  simp only [hconfig, htypes]
  simp (disch := simp) only [toJson, value_record, value_cons, String.reduceEq, if_true, if_false,
    toStr_str, toObjects_given, toObjects_given_map, hcommands]

/-- **Which metadata survives.**  It comes back field by field exactly if its settings for applying
the config are written: where there is no field and no method, there is no other setting. -/
theorem survives_iff (m : DriverMeta) (h : m.Representable) : m.Survives ↔ m.ApplyWritten := by
  have hwritten : (!m.config.fields.isEmpty || !m.config.apply.method.isEmpty) = false ↔
      m.config.fields = [] ∧ m.config.apply.method = "" := by
    rw [Bool.or_eq_false_iff, Bool.not_eq_false', Bool.not_eq_false', List.isEmpty_iff,
      String.isEmpty_iff]
  unfold Survives
  rw [fromJson_toJson h]
  constructor
  · intro heq hfields hmethod
    -- nothing is written, so the settings that come back are the empty ones
    have hconfig := congrArg DriverMeta.config heq
    rw [hwritten.mpr ⟨hfields, hmethod⟩] at hconfig
    exact (congrArg ConfigSchema.apply hconfig).symm
  · intro happly
    cases hcase : !m.config.fields.isEmpty || !m.config.apply.method.isEmpty with
    | true => rfl
    | false =>
      obtain ⟨hfields, hmethod⟩ := hwritten.mp hcase
      have hconfig : m.config.absentAsNull = {} := by
        rw [ConfigSchema.absentAsNull, hfields, happly hfields hmethod]
        rfl
      rw [if_neg (by simp)]
      show { m.absentAsNull with config := {} } = m.absentAsNull
      rw [← hconfig]
      rfl

/-- One parameter with a nested field, a constraint and a hint. -/
def scanner : DriverMeta where
  config := { apply := { method := "env", envPrefix := "APP_" } }
  commands := [{
    name := "scan"
    params := [{
      name := "range"
      type := .object
      fields := [{ name := "limit", type := .int, constraints := { max := some 10 } }]
      ui := { order := 1 } }] }]

theorem scanner_representable : scanner.Representable where
  config := by
    intro f hf
    cases hf
  commands := by
    have hnumbers : ({} : Constraints).Representable ∧
        ({ max := some 10 } : Constraints).Representable ∧ ({} : UIHint).Representable ∧
        ({ order := 1 } : UIHint).Representable := by
      have hten : IsDouble 10 := toDouble_int 10
      have hzero : IsDouble 0 := rfl
      refine ⟨?_, ?_, ⟨by decide, hzero⟩, ⟨by decide, hzero⟩⟩
      · constructor <;> intro x hx <;> cases hx
      · constructor <;> intro x hx <;> cases hx
        exact hten
    obtain ⟨hnone, hmax, hplain, horder⟩ := hnumbers
    intro c hc
    obtain rfl := List.mem_singleton.mp hc
    refine ⟨?_, ?_, ?_, hplain⟩
    · intro f hf
      obtain rfl := List.mem_singleton.mp hf
      refine FieldMeta.Representable.intro hnone horder ?_ ?_
      · intro g hg
        obtain rfl := List.mem_singleton.mp hg
        refine FieldMeta.Representable.intro hmax hplain ?_ ?_
        · intro f hf
          cases hf
        · intro item hitem
          cases hitem
      · intro item hitem
        cases hitem
    · intro f hf
      cases hf
    · intro e he
      cases he
  types := by
    intro entry hentry
    cases hentry

/-- The prefix goes with a method, and the scanner comes back. -/
theorem scanner_survives : scanner.Survives := by
  refine (survives_iff scanner scanner_representable).mpr ?_
  intro _ hmethod
  exact absurd hmethod (by decide)

/-- Only an env prefix is set. -/
def prefixOnly : DriverMeta := { config := { apply := { envPrefix := "APP_" } } }

/-- The prefix is not written, and comes back empty. -/
theorem prefixOnly_lost : prefixOnly.Representable ∧ ¬ prefixOnly.Survives := by
  have hrep : prefixOnly.Representable := by
    constructor <;> intro x hx <;> cases hx
  refine ⟨hrep, ?_⟩
  intro h
  rw [Survives, fromJson_toJson hrep] at h
  have hprefix := congrArg (fun m => m.config.apply.envPrefix) h
  exact absurd hprefix (by decide)

end DriverMeta

end Stdiolink.Meta
