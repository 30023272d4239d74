/-
  Stdiolink.Meta.ExampleAutoFill — examples for the commands, `driver/example_auto_fill.cpp`.

  A command without an example for a mode gets one, with a value for each parameter: the default, or
  a sample that follows the type, the name and the minimum of the field.  The other constraints are
  not looked at, and below the fifth level there are no values any more.

  Main results:
    * `validateField_example` — when the sample for one declaration is accepted by another;
    * `addedValid_iff`        — **when the examples that are added are accepted**.
-/
import Stdiolink.Meta.Validator
import Stdiolink.OpcUa.Values
import Mathlib.Data.List.Infix

namespace Stdiolink.Meta.ExampleAutoFill

open Stdiolink.Protocol
open Stdiolink.OpcUa (trimmed)

/-! ## §1. Samples -/

def hasDefault (field : FieldMeta) : Bool := !field.defaultValue.isNullish

/-- `QString::contains`. -/
def contains (text part : String) : Bool := part.toList <:+: text.toList

/-- `QString::toLower`; no capital beyond ASCII has a small letter of the names that are looked
for. -/
def toLower (text : String) : String := String.ofList (text.toList.map Char.toLower)

def intFromField (field : FieldMeta) : Int :=
  if hasDefault field && isDouble field.defaultValue then field.defaultValue.toInt
  else
    match field.constraints.min with
    | some min => castInt min
    | none =>
      let n := toLower field.name
      if contains n "port" then 502
      else if contains n "unit" then 1
      else if contains n "address" then 1
      else if contains n "count" then 1
      else if contains n "timeout" then 3000
      else if n = "baud_rate" then 9600
      else if n = "data_bits" then 8
      else if contains n "size" then 100
      else if n = "id" then 1
      else 1

/-- The text for a string field. -/
def exampleText (name : String) : String :=
  let n := toLower name
  if contains n "host" || contains n "address" then "127.0.0.1"
  else if contains n "port_name" then "COM1"
  else if contains n "path" then "demo"
  else "demo"

/-- `buildExampleValue`, by the levels that are left to it. -/
def exampleWithin : Nat → FieldMeta → Json
  | 0, _ => .null
  | levels + 1, field =>
    if hasDefault field then field.defaultValue
    else
      match field.type with
      | .string => .str (exampleText field.name)
      | .enum =>
        match field.constraints.enumValues with
        | v :: _ => v
        | [] => .str "demo"
      | .int => .num (intFromField field)
      | .int64 => .num (intFromField field)
      | .double => .num 1
      | .bool => .bool false
      | .array =>
        match field.items with
        | some item =>
          let value := exampleWithin levels item
          .arr (if value.isNullish then [] else [value])
        | none => .arr [.num 1]
      | .object =>
        .obj (field.fields.foldl
          (fun obj sub => Json.insert obj sub.name (exampleWithin levels sub)) [])
      | .any => .str "demo"

/-- `buildExampleValue`: at a depth of more than 4 there is no value. -/
def buildExampleValue (field : FieldMeta) (depth : Nat) : Json := exampleWithin (5 - depth) field

def buildExampleParams (params : List FieldMeta) : List (String × Json) :=
  params.foldl (fun obj field => Json.insert obj field.name (buildExampleValue field 0)) []

/-! ## §2. Examples -/

def exampleBaseDescription (cmd : CommandMeta) : String :=
  if trimmed cmd.description ≠ "" then trimmed cmd.description
  else if trimmed cmd.title ≠ "" then trimmed cmd.title
  else trimmed cmd.name

def buildExampleDescription (cmd : CommandMeta) (mode : String) : String :=
  if trimmed mode = "" then exampleBaseDescription cmd ++ " 示例"
  else exampleBaseDescription cmd ++ " 示例（" ++ mode ++ "）"

def buildExample (cmd : CommandMeta) (mode : String) : List (String × Json) :=
  [("description", .str (buildExampleDescription cmd mode)), ("mode", .str mode),
    ("params", .obj (buildExampleParams cmd.params))]

def hasModeExample (cmd : CommandMeta) (mode : String) : Bool :=
  cmd.examples.any fun ex => (Json.value ex "mode").toStr = mode

/-- An example without a description gets one. -/
def describeExample (cmd : CommandMeta) (ex : List (String × Json)) : List (String × Json) :=
  if trimmed (Json.value ex "description").toStr = "" then
    Json.insert ex "description"
      (.str (buildExampleDescription cmd (Json.value ex "mode").toStr))
  else ex

/-- An example is added for a mode that has none. -/
def addModeExample (cmd : CommandMeta) (mode : String) : CommandMeta :=
  if hasModeExample cmd mode then cmd
  else { cmd with examples := cmd.examples ++ [buildExample cmd mode] }

/-- The loop body of `ensureCommandExamples`. -/
def ensureExamples (addConsoleExamples : Bool) (cmd : CommandMeta) : CommandMeta :=
  let cmd := { cmd with examples := cmd.examples.map (describeExample cmd) }
  let cmd := addModeExample cmd "stdio"
  if addConsoleExamples then addModeExample cmd "console" else cmd

def ensureCommandExamples (driver : DriverMeta) (addConsoleExamples : Bool) : DriverMeta :=
  { driver with commands := driver.commands.map (ensureExamples addConsoleExamples) }

/-! ## §3. Declarations that a sample fits -/

/-- A text fits a declaration. -/
structure TextFits (qt : ValidatorQt) (field : FieldMeta) (s : String) : Prop where
  type : field.type = .string ∨ field.type = .enum ∨ field.type = .any
  minLength : ∀ min, field.constraints.minLength = some min → min ≤ utf16Length s
  maxLength : ∀ max, field.constraints.maxLength = some max → utf16Length s ≤ max
  pattern : field.constraints.pattern.isEmpty = false →
    qt.hasMatch field.constraints.pattern s = true
  enumValues : field.type = .enum → field.constraints.enumValues ≠ [] →
    .str s ∈ field.constraints.enumValues

/-- An integer fits a declaration. -/
structure IntegerFits (field : FieldMeta) (n : Int) : Prop where
  type : field.type = .int ∨ field.type = .int64 ∨ field.type = .double ∨ field.type = .any
  min : ∀ min, field.constraints.min = some min → min ≤ n
  max : ∀ max, field.constraints.max = some max → n ≤ max

/-- A number of items fits a declaration. -/
structure SizeFits (field : FieldMeta) (size : Nat) : Prop where
  type : field.type = .array ∨ field.type = .any
  minItems : ∀ min, field.constraints.minItems = some min → min ≤ size
  maxItems : ∀ max, field.constraints.maxItems = some max → size ≤ max

/-- The field that the member with a key is for: the last one with the name. -/
def lastNamed (fields : List FieldMeta) (key : String) : Option FieldMeta :=
  fields.reverse.find? fun field => field.name = key

/-- No item is put into an array: below the last level, and where the first value of an enumeration
is null. -/
def hasNoSample : Nat → FieldMeta → Bool
  | 0, _ => true
  | _ + 1, field => !hasDefault field && field.type = .enum &&
      (field.constraints.enumValues.head?.any Json.isNullish)

/-- **The sample for one declaration fits another**, which is the same unless fields share a
name. -/
def Fits (qt : ValidatorQt) : Nat → FieldMeta → FieldMeta → Prop
  | 0, _, field => field.type = .any
  | levels + 1, sample, field =>
    if hasDefault sample then (validateField qt sample.defaultValue field).valid = true
    else
      match sample.type with
      | .string => TextFits qt field (exampleText sample.name)
      | .enum =>
        match sample.constraints.enumValues with
        | v :: _ => (validateField qt v field).valid = true
        | [] => TextFits qt field "demo"
      | .int => IntegerFits field (intFromField sample)
      | .int64 => IntegerFits field (intFromField sample)
      | .double => IntegerFits field 1
      | .bool => field.type = .bool ∨ field.type = .any
      | .array =>
        match sample.items with
        | some item =>
          SizeFits field (if hasNoSample levels item then 0 else 1) ∧
            (field.type = .array → hasNoSample levels item = false →
              ∀ item', field.items = some item' → Fits qt levels item item')
        | none =>
          SizeFits field 1 ∧ (field.type = .array →
            ∀ item', field.items = some item' → IntegerFits item' 1)
      | .object =>
        (field.type = .object ∨ field.type = .any) ∧
          (field.type = .object →
            (∀ sub ∈ field.fields, sub.required = true →
              (lastNamed sample.fields sub.name).isSome) ∧
            (field.fields ≠ [] →
              ∀ key ∈ field.requiredKeys, (lastNamed sample.fields key).isSome) ∧
            ∀ sub ∈ field.fields, ∀ last, lastNamed sample.fields sub.name = some last →
              Fits qt levels last sub)
      | .any => TextFits qt field "demo"

/-! ## §4. What the validator says of a sample -/

section Samples

variable {qt : ValidatorQt} {field : FieldMeta}

/-- Nothing is below a value that is no object and no array. -/
theorem validateField_scalar {v : Json} (hobj : ∀ m, v ≠ .obj m) (harr : ∀ l, v ≠ .arr l) :
    (validateField qt v field).valid = true ↔ CheckedHere qt field v := by
  rw [validateField_step]
  refine ⟨fun h => h.1, fun h => ⟨h, ?_, ?_⟩⟩
  · intro m _ hv
    exact absurd hv (hobj m)
  · intro l _ _ hv
    exact absurd hv (harr l)

variable {type : FieldType}

theorem typeChecked_null : TypeChecked type .null ↔ type = .any := by
  cases type <;> simp [TypeChecked, TypeDescribed]

theorem typeChecked_str {s : String} :
    TypeChecked type (.str s) ↔ type = .string ∨ type = .enum ∨ type = .any := by
  cases type <;> simp [TypeChecked, TypeDescribed]

theorem typeChecked_bool {b : Bool} : TypeChecked type (.bool b) ↔ type = .bool ∨ type = .any := by
  cases type <;> simp [TypeChecked, TypeDescribed]

theorem typeChecked_arr {l : List Json} :
    TypeChecked type (.arr l) ↔ type = .array ∨ type = .any := by
  cases type <;> simp [TypeChecked, TypeDescribed]

theorem typeChecked_obj {m : List (String × Json)} :
    TypeChecked type (.obj m) ↔ type = .object ∨ type = .any := by
  cases type <;> simp [TypeChecked, TypeDescribed]

section Integers

variable {n : Int} (hlow : -2147483648 ≤ n) (hhigh : n ≤ 2147483647)

include hlow hhigh

theorem toDouble_num : (Json.num n).toDouble = n := by
  rw [Json.toDouble_int, Json.roundToDouble_small (by omega)]

theorem typeChecked_num {type : FieldType} : TypeChecked type (.num n) ↔
    type = .int ∨ type = .int64 ∨ type = .double ∨ type = .any := by
  have hdouble := toDouble_num hlow hhigh
  have hint : ∃ k : Int, (n : ℚ) = k ∧ -2 ^ 31 ≤ k ∧ k < 2 ^ 31 := ⟨n, rfl, by omega, by omega⟩
  have hlow' : (-2 ^ 53 : ℚ) ≤ n := by exact_mod_cast (by omega : (-2 ^ 53 : Int) ≤ n)
  have hhigh' : (n : ℚ) ≤ 2 ^ 53 := by exact_mod_cast (by omega : n ≤ (2 ^ 53 : Int))
  cases type with
  | int => simpa [TypeChecked, TypeDescribed, hdouble] using hint
  | int64 => simpa [TypeChecked, hdouble] using ⟨hlow', hhigh'⟩
  | _ => simp [TypeChecked, TypeDescribed]

theorem validateField_num :
    (validateField qt (.num n) field).valid = true ↔ IntegerFits field n := by
  have hdouble := toDouble_num hlow hhigh
  rw [validateField_scalar (by simp) (by simp)]
  constructor
  · intro h
    refine ⟨(typeChecked_num hlow hhigh).mp h.type, fun min hmin => ?_, fun max hmax => ?_⟩
    · rw [← hdouble]
      exact h.constraints.min n min rfl hmin
    · rw [← hdouble]
      exact h.constraints.max n max rfl hmax
  · intro h
    refine ⟨(typeChecked_num hlow hhigh).mpr h.type,
      ⟨?_, ?_, by simp, by simp, by simp, ?_, by simp, by simp⟩, by simp, by simp⟩
    · intro q min hv hmin
      rw [asDouble, ← hv, hdouble]
      exact h.min min hmin
    · intro q max hv hmax
      rw [asDouble, ← hv, hdouble]
      exact h.max max hmax
    · intro henum
      rcases h.type with ht | ht | ht | ht <;> rw [ht] at henum <;> cases henum

end Integers

theorem validateField_null :
    (validateField qt .null field).valid = true ↔ field.type = .any := by
  rw [validateField_scalar (by simp) (by simp)]
  constructor
  · intro h
    exact typeChecked_null.mp h.type
  · intro ht
    refine ⟨typeChecked_null.mpr ht,
      ⟨by simp, by simp, by simp, by simp, by simp, ?_, by simp, by simp⟩, by simp, by simp⟩
    intro henum
    rw [ht] at henum
    cases henum

theorem validateField_bool (b : Bool) :
    (validateField qt (.bool b) field).valid = true ↔ field.type = .bool ∨ field.type = .any := by
  rw [validateField_scalar (by simp) (by simp)]
  constructor
  · intro h
    exact typeChecked_bool.mp h.type
  · intro h
    refine ⟨typeChecked_bool.mpr h,
      ⟨by simp, by simp, by simp, by simp, by simp, ?_, by simp, by simp⟩, by simp, by simp⟩
    intro henum
    rcases h with ht | ht <;> rw [ht] at henum <;> cases henum

theorem validateField_str (s : String) :
    (validateField qt (.str s) field).valid = true ↔ TextFits qt field s := by
  rw [validateField_scalar (by simp) (by simp)]
  constructor
  · intro h
    exact ⟨typeChecked_str.mp h.type, fun min => h.constraints.minLength s min rfl,
      fun max => h.constraints.maxLength s max rfl, h.constraints.pattern s rfl,
      h.constraints.enumValues⟩
  · intro h
    refine ⟨typeChecked_str.mpr h.type,
      ⟨by simp, by simp, ?_, ?_, ?_, h.enumValues, by simp, by simp⟩, by simp, by simp⟩
    · intro s' min hs
      cases hs
      exact h.minLength min
    · intro s' max hs
      cases hs
      exact h.maxLength max
    · intro s' hs
      cases hs
      exact h.pattern

/-- An array is accepted for its size and its items. -/
theorem validateField_arr (l : List Json) :
    (validateField qt (.arr l) field).valid = true ↔ SizeFits field l.length ∧
      (field.type = .array → ∀ item, field.items = some item → ∀ v ∈ l,
        (validateField qt v item).valid = true) := by
  rw [validateField_step]
  constructor
  · rintro ⟨h, hbelow⟩
    exact ⟨⟨typeChecked_arr.mp h.type, fun min => h.constraints.minItems l min rfl,
      fun max => h.constraints.maxItems l max rfl⟩, fun ht item => hbelow.item l item ht rfl⟩
  · rintro ⟨h, hitems⟩
    refine ⟨⟨typeChecked_arr.mpr h.type,
      ⟨by simp, by simp, by simp, by simp, by simp, ?_, ?_, ?_⟩, by simp, by simp⟩, by simp, ?_⟩
    · intro henum
      rcases h.type with ht | ht <;> rw [ht] at henum <;> cases henum
    · intro l' min hl
      cases hl
      exact h.minItems min
    · intro l' max hl
      cases hl
      exact h.maxItems max
    · intro l' item ht hl
      cases hl
      exact hitems ht item

/-- An object is accepted for its keys and its members. -/
theorem validateField_obj (m : List (String × Json)) :
    (validateField qt (.obj m) field).valid = true ↔ (field.type = .object ∨ field.type = .any) ∧
      (field.type = .object →
        (∀ f ∈ field.fields, f.required = true → Json.hasKey m f.name = true) ∧
        (field.fields ≠ [] → ∀ key ∈ field.requiredKeys, Json.hasKey m key = true) ∧
        ∀ f ∈ field.fields, ∀ v, m.lookup f.name = some v →
          (validateField qt v f).valid = true) := by
  rw [validateField_step]
  constructor
  · rintro ⟨h, hbelow⟩
    exact ⟨typeChecked_obj.mp h.type, fun ht => ⟨h.required m ht rfl,
      fun hne => h.requiredKeys m ht rfl hne, hbelow.member m ht rfl⟩⟩
  · rintro ⟨htype, h⟩
    refine ⟨⟨typeChecked_obj.mpr htype,
      ⟨by simp, by simp, by simp, by simp, by simp, ?_, by simp, by simp⟩, ?_, ?_⟩, ?_, by simp⟩
    · intro henum
      rcases htype with ht | ht <;> rw [ht] at henum <;> cases henum
    · intro m' ht hm
      cases hm
      exact (h ht).1
    · intro m' ht hm
      cases hm
      exact (h ht).2.1
    · intro m' ht hm
      cases hm
      exact (h ht).2.2

end Samples

/-! ## §5. When a sample is accepted -/

/-- The number for an integer field is an `int`. -/
theorem intFromField_bounds (field : FieldMeta) :
    -2147483648 ≤ intFromField field ∧ intFromField field ≤ 2147483647 := by
  have htoInt : ∀ v : Json, -2147483648 ≤ v.toInt ∧ v.toInt ≤ 2147483647 := by
    intro v
    unfold Json.toInt
    split
    · split_ifs with hbounds
      · exact hbounds.2
      · omega
    · omega
  have hcast : ∀ d, -2147483648 ≤ castInt d ∧ castInt d ≤ 2147483647 := by
    intro d
    unfold castInt
    dsimp only
    split_ifs with hneg hbounds hbounds
    · exact hbounds
    · omega
    · exact hbounds
    · omega
  unfold intFromField
  split_ifs
  · exact htoInt _
  · cases field.constraints.min with
    | some min => exact hcast min
    | none =>
      dsimp only
      split_ifs <;> omega

/-- **The members of an object**: the last field with a name decides. -/
theorem lookup_members (value : FieldMeta → Json) (fields : List FieldMeta) (key : String) :
    (fields.foldl (fun obj sub => Json.insert obj sub.name (value sub)) []).lookup key =
      (lastNamed fields key).map value := by
  have hfold : ∀ obj : List (String × Json),
      (fields.foldl (fun obj sub => Json.insert obj sub.name (value sub)) obj).lookup key =
        ((lastNamed fields key).map value).or (obj.lookup key) := by
    induction fields with
    | nil => exact fun obj => rfl
    | cons f rest ih =>
      intro obj
      rw [List.foldl_cons, ih, Json.lookup_insert, lastNamed, lastNamed, List.reverse_cons,
        List.find?_append]
      cases rest.reverse.find? fun field => field.name = key with
      | some g => rfl
      | none =>
        by_cases hkey : f.name = key
        · simp [hkey]
        · simp [hkey, Ne.symm hkey]
  rw [hfold, List.lookup_nil, Option.or_none]

theorem hasKey_members (value : FieldMeta → Json) (fields : List FieldMeta) (key : String) :
    Json.hasKey (fields.foldl (fun obj sub => Json.insert obj sub.name (value sub)) []) key =
      (lastNamed fields key).isSome := by
  rw [Json.hasKey, lookup_members, Option.isSome_map]

theorem isNullish_exampleWithin (levels : Nat) (field : FieldMeta) :
    (exampleWithin levels field).isNullish = hasNoSample levels field := by
  cases levels with
  | zero => rfl
  | succ levels =>
    rw [exampleWithin, hasNoSample]
    by_cases hdefault : hasDefault field = true
    · have hvalue : field.defaultValue.isNullish = false := by simpa [hasDefault] using hdefault
      rw [if_pos hdefault, hdefault, hvalue]
      rfl
    · rw [if_neg hdefault, Bool.eq_false_iff.mpr hdefault]
      cases htype : field.type with
      | enum =>
        cases field.constraints.enumValues with
        | nil => rfl
        | cons v rest => simp
      | array => cases field.items <;> rfl
      | _ => rfl

variable {qt : ValidatorQt}

/-- **When the sample for one declaration is accepted by another.** -/
theorem validateField_example (levels : Nat) (sample field : FieldMeta) :
    (validateField qt (exampleWithin levels sample) field).valid = true ↔
      Fits qt levels sample field := by
  induction levels generalizing sample field with
  | zero => exact validateField_null
  | succ levels ih =>
    rw [exampleWithin, Fits]
    cases hdefault : hasDefault sample with
    | true => exact Iff.rfl
    | false =>
      simp only [Bool.false_eq_true, if_false]
      have hint := intFromField_bounds sample
      have hone : ((1 : Int) : ℚ) = 1 := by norm_num
      cases htype : sample.type with
      | string => exact validateField_str _
      | int => exact validateField_num hint.1 hint.2
      | int64 => exact validateField_num hint.1 hint.2
      | double =>
        dsimp only
        rw [← hone]
        exact validateField_num (by omega) (by omega)
      | bool => exact validateField_bool false
      | any => exact validateField_str _
      | enum =>
        cases sample.constraints.enumValues with
        | nil => exact validateField_str _
        | cons v rest => exact Iff.rfl
      | array =>
        cases sample.items with
        | none =>
          dsimp only
          rw [validateField_arr]
          simp only [List.mem_singleton, forall_eq, ← hone]
          refine and_congr Iff.rfl (imp_congr_right fun _ => forall₂_congr fun item _ => ?_)
          exact validateField_num (by omega) (by omega)
        | some item =>
          dsimp only
          rw [validateField_arr, isNullish_exampleWithin]
          cases hasNoSample levels item with
          | true => simp
          | false => simp [ih]
      | object =>
        dsimp only
        rw [validateField_obj]
        simp only [hasKey_members, lookup_members, Option.map_eq_some_iff]
        refine and_congr Iff.rfl (imp_congr_right fun _ => and_congr Iff.rfl
          (and_congr Iff.rfl (forall₂_congr fun sub _ => ?_)))
        constructor
        · intro h last hlast
          exact (ih last sub).mp (h _ ⟨last, hlast, rfl⟩)
        · rintro h v ⟨last, hlast, rfl⟩
          exact (ih last sub).mpr (h last hlast)

/-! ## §6. The examples that are added -/

/-- **The examples that are added** have parameters that are accepted. -/
def AddedValid (qt : ValidatorQt) (allowUnknown : Bool) (cmd after : CommandMeta) : Prop :=
  ∀ ex ∈ after.examples.drop cmd.examples.length,
    (validateParams qt (Json.value ex "params") cmd allowUnknown).valid = true

/-- For every parameter the sample fits, or no example is added. -/
def ExamplesFit (qt : ValidatorQt) (addConsoleExamples : Bool) (cmd : CommandMeta) : Prop :=
  (hasModeExample cmd "stdio" = true ∧
    (addConsoleExamples = true → hasModeExample cmd "console" = true)) ∨
  ∀ field ∈ cmd.params, ∀ last, lastNamed cmd.params field.name = some last → Fits qt 5 last field

theorem lastNamed_self {fields : List FieldMeta} {field : FieldMeta} (h : field ∈ fields) :
    (lastNamed fields field.name).isSome = true := by
  rw [lastNamed, List.find?_isSome]
  exact ⟨field, List.mem_reverse.mpr h, by simp⟩

theorem lastNamed_mem {fields : List FieldMeta} {key : String}
    (h : (lastNamed fields key).isSome = true) : ∃ field ∈ fields, field.name = key := by
  rw [lastNamed, List.find?_isSome] at h
  obtain ⟨field, hfield, hname⟩ := h
  exact ⟨field, List.mem_reverse.mp hfield, by simpa using hname⟩

/-- **The parameters of an example.** -/
theorem validateParams_example (cmd : CommandMeta) (allowUnknown : Bool) :
    (validateParams qt (.obj (buildExampleParams cmd.params)) cmd allowUnknown).valid = true ↔
      ∀ field ∈ cmd.params, ∀ last, lastNamed cmd.params field.name = some last →
        Fits qt 5 last field := by
  have hvalidate : validateParams qt (.obj (buildExampleParams cmd.params)) cmd allowUnknown =
      validateObject qt (buildExampleParams cmd.params) cmd.params [] allowUnknown := rfl
  have hkey : ∀ key, Json.hasKey (buildExampleParams cmd.params) key =
      (lastNamed cmd.params key).isSome := hasKey_members (exampleWithin 5) cmd.params
  have hlookup : ∀ key, (buildExampleParams cmd.params).lookup key =
      (lastNamed cmd.params key).map (exampleWithin 5) := lookup_members _ cmd.params
  rw [hvalidate, validateObject, checkObject_valid, validateFields_valid]
  simp only [hkey, hlookup, Option.map_eq_some_iff]
  constructor
  · rintro ⟨-, -, h, -⟩ field hfield last hlast
    exact (validateField_example 5 last field).mp (h field hfield _ ⟨last, hlast, rfl⟩)
  · intro h
    refine ⟨fun field hfield _ => lastNamed_self hfield, by simp, ?_, fun _ key => lastNamed_mem⟩
    rintro field hfield v ⟨last, hlast, rfl⟩
    exact (validateField_example 5 last field).mpr (h field hfield last hlast)

/-- A description changes neither the modes nor the number of the examples. -/
theorem hasModeExample_described (cmd : CommandMeta) (mode : String) :
    hasModeExample { cmd with examples := cmd.examples.map (describeExample cmd) } mode =
      hasModeExample cmd mode := by
  have hmode : ∀ ex, Json.value (describeExample cmd ex) "mode" = Json.value ex "mode" := by
    intro ex
    unfold describeExample
    split_ifs
    · rw [Json.value, Json.lookup_insert, if_neg (by decide)]
      rfl
    · rfl
  simp [hasModeExample, List.any_map, Function.comp_def, hmode]

/-- **What is added**: examples with the parameters of the samples, and none where every mode has
one. -/
theorem ensureExamples_examples (addConsoleExamples : Bool) (cmd : CommandMeta) :
    ∃ added, (ensureExamples addConsoleExamples cmd).examples =
        cmd.examples.map (describeExample cmd) ++ added ∧
      (∀ ex ∈ added, Json.value ex "params" = .obj (buildExampleParams cmd.params)) ∧
      (added = [] ↔ hasModeExample cmd "stdio" = true ∧
        (addConsoleExamples = true → hasModeExample cmd "console" = true)) := by
  have hadd : ∀ (c : CommandMeta) (mode : String), (addModeExample c mode).examples =
      c.examples ++ if hasModeExample c mode = true then [] else [buildExample c mode] := by
    intro c mode
    unfold addModeExample
    split_ifs <;> simp
  have hparams : ∀ (c : CommandMeta) (mode : String),
      Json.value (buildExample c mode) "params" = .obj (buildExampleParams c.params) := by
    intro c mode
    simp [buildExample, Json.value, Json.lookup_member]
  set described := { cmd with examples := cmd.examples.map (describeExample cmd) } with hdescribed
  have hkept : (addModeExample described "stdio").params = cmd.params := by
    unfold addModeExample
    split_ifs <;> rfl
  -- the example for one mode is none for the other
  have hconsole : hasModeExample (addModeExample described "stdio") "console" =
      hasModeExample cmd "console" := by
    rw [← hasModeExample_described cmd, ← hdescribed]
    unfold addModeExample
    split_ifs
    · rfl
    · simp [hasModeExample, buildExample, Json.value, Json.lookup_member, Json.toStr]
  have hstdio : hasModeExample described "stdio" = hasModeExample cmd "stdio" :=
    hasModeExample_described cmd "stdio"
  refine ⟨(if hasModeExample cmd "stdio" = true then [] else [buildExample described "stdio"]) ++
    if addConsoleExamples = true then
      if hasModeExample cmd "console" = true then []
      else [buildExample (addModeExample described "stdio") "console"]
    else [], ?_, ?_, ?_⟩
  · unfold ensureExamples
    dsimp only
    rw [← hdescribed]
    split_ifs <;> simp_all
  · intro ex hex
    rcases List.mem_append.mp hex with hex | hex
    · split_ifs at hex
      · cases hex
      · rw [List.mem_singleton.mp hex, hparams]
    · split_ifs at hex
      · cases hex
      · rw [List.mem_singleton.mp hex, hparams, hkept]
      · cases hex
  · rw [List.append_eq_nil_iff]
    refine and_congr ?_ ?_
    · split_ifs with h <;> simp [h]
    · split_ifs with h h' <;> simp_all

theorem addedValid_ensureExamples (allowUnknown addConsoleExamples : Bool) (cmd : CommandMeta) :
    AddedValid qt allowUnknown cmd (ensureExamples addConsoleExamples cmd) ↔
      ExamplesFit qt addConsoleExamples cmd := by
  obtain ⟨added, hexamples, hparams, hempty⟩ := ensureExamples_examples addConsoleExamples cmd
  have hdrop :
      (ensureExamples addConsoleExamples cmd).examples.drop cmd.examples.length = added := by
    rw [hexamples, ← List.length_map (describeExample cmd), List.drop_left]
  rw [AddedValid, hdrop, ExamplesFit, ← hempty, ← validateParams_example cmd allowUnknown]
  constructor
  · intro h
    cases added with
    | nil => exact .inl rfl
    | cons ex rest =>
      refine .inr ?_
      rw [← hparams ex List.mem_cons_self]
      exact h ex List.mem_cons_self
  · rintro (rfl | h) ex hex
    · cases hex
    · rw [hparams ex hex]
      exact h

/-- **When the examples that are added are accepted**, for the commands of a driver: where the
samples fit the parameters, in what they are and in every constraint. -/
theorem addedValid_iff (qt : ValidatorQt) (allowUnknown addConsoleExamples : Bool)
    (driver : DriverMeta) :
    List.Forall₂ (AddedValid qt allowUnknown) driver.commands
        (ensureCommandExamples driver addConsoleExamples).commands ↔
      ∀ cmd ∈ driver.commands, ExamplesFit qt addConsoleExamples cmd := by
  rw [ensureCommandExamples, List.forall₂_map_right_iff, List.forall₂_same]
  simp only [addedValid_ensureExamples]

/-- A text of at most two characters. -/
def shortText : FieldMeta :=
  { name := "text", type := .string, constraints := { maxLength := some 2 } }

def shortCommand : CommandMeta := { name := "run", params := [shortText] }

/-- There are such texts, but the sample is a longer one. -/
theorem sample_too_long :
    hasDefault shortText = false ∧ (validateField plainQt (.str "ab") shortText).valid = true ∧
      ¬ AddedValid plainQt true shortCommand (ensureExamples true shortCommand) := by
  refine ⟨by decide, by decide +kernel, ?_⟩
  rw [addedValid_ensureExamples]
  rintro (⟨hstdio, -⟩ | hfits)
  · exact absurd hstdio (by decide)
  · have hfit : TextFits plainQt shortText (exampleText "text") :=
      hfits shortText (by simp [shortCommand]) shortText (by simp [shortCommand, lastNamed])
    have hlength : (utf16Length (exampleText "text") : Int) ≤ 2 := hfit.maxLength 2 rfl
    exact absurd hlength (by decide +kernel)

end Stdiolink.Meta.ExampleAutoFill
