/-
  Stdiolink.Meta.Validator — `MetaValidator`, `protocol/meta_validator.cpp`.

  A value is checked against a declaration: its type, its constraints, the fields of an
  object that declares some, the items of an array.  The regular expressions and the
  text of a number are Qt's.

  Main results:
    * `validateField_iff` — what `validateField` accepts, rule by rule at every depth;
    * `accepts_described_iff` — where this is what the declaration describes.
-/
import Stdiolink.Meta.Types
import Stdiolink.Protocol.Doubles
import Mathlib.Data.Rat.Floor
import Mathlib.Tactic.NormNum

namespace Stdiolink.Meta

open Stdiolink.Lib
open Stdiolink.Protocol

/-! ## §1. Results -/

structure ValidationResult where
  valid : Bool := true
  errorField : String := ""
  errorMessage : String := ""
  errorCode : Int := 0

namespace ValidationResult

/-- `ValidationResult::ok`. -/
def ok : ValidationResult := {}

/-- `ValidationResult::fail`. -/
def fail (field msg : String) : ValidationResult :=
  { valid := false, errorField := field, errorMessage := msg, errorCode := 400 }

/-- A check, and if it passes the next one. -/
def andThen (r next : ValidationResult) : ValidationResult := if r.valid then next else r

@[simp] theorem ok_valid : ok.valid = true := rfl

@[simp] theorem fail_valid (field msg : String) : (fail field msg).valid = false := rfl

@[simp] theorem andThen_valid (r next : ValidationResult) :
    (r.andThen next).valid = (r.valid && next.valid) := by
  unfold andThen
  cases h : r.valid <;> simp [h]

/-- `toString`. -/
def text (r : ValidationResult) : String :=
  if r.valid then "OK"
  else if r.errorField.isEmpty then r.errorMessage
  else r.errorField ++ ": " ++ r.errorMessage

end ValidationResult

open ValidationResult

/-- `if (bad) return fail(...)`. -/
def failIf (bad : Bool) (field msg : String) : ValidationResult :=
  if bad then fail field msg else ok

@[simp] theorem failIf_valid (bad : Bool) (field msg : String) :
    (failIf bad field msg).valid = !bad := by
  cases bad <;> rfl

/-! ## §2. One value -/

/-- What the validator uses of Qt: `QRegularExpression::match` and the text of a number. -/
structure ValidatorQt where
  hasMatch : (pattern subject : String) → Bool
  arg : ℚ → String

def isString : Json → Bool
  | .str _ => true
  | _ => false

def isDouble : Json → Bool
  | .num _ => true
  | _ => false

def isBool : Json → Bool
  | .bool _ => true
  | _ => false

def isObject : Json → Bool
  | .obj _ => true
  | _ => false

def isArray : Json → Bool
  | .arr _ => true
  | _ => false

/-- `toArray`. -/
def toArray : Json → List Json
  | .arr items => items
  | _ => []

/-- `QString::length`, in UTF-16 units. -/
def utf16Length (s : String) : Nat := (s.toList.map fun c => if c.val ≥ 0x10000 then 2 else 1).sum

/-- `static_cast<int>` of a double; the result for a double that does not fit is the one of
the usual processors. -/
def castInt (d : ℚ) : Int :=
  let t := if d < 0 then -((-d).floor) else d.floor
  if -2147483648 ≤ t ∧ t ≤ 2147483647 then t else -2147483648

/-- `checkType`. -/
def checkType (value : Json) (type : FieldType) : ValidationResult :=
  match type with
  | .string => failIf (!isString value) "" "expected string"
  | .int =>
      (failIf (!isDouble value) "" "expected integer").andThen
        (failIf (value.toDouble ≠ castInt value.toDouble) "" "expected integer, got decimal")
  | .int64 =>
      (failIf (!isDouble value) "" "expected integer").andThen
        (failIf (value.toDouble < -9007199254740992 || value.toDouble > 9007199254740992) ""
          "integer out of safe range")
  | .double => failIf (!isDouble value) "" "expected number"
  | .bool => failIf (!isBool value) "" "expected boolean"
  | .object => failIf (!isObject value) "" "expected object"
  | .array => failIf (!isArray value) "" "expected array"
  | .enum => failIf (!isString value) "" "expected string for enum"
  | .any => ok

/-- A bound that is there is broken. -/
def broken {α : Type} (bound : Option α) (breaks : α → Bool) : Bool := bound.any breaks

/-- `checkConstraints`. -/
def checkConstraints (qt : ValidatorQt) (value : Json) (field : FieldMeta) : ValidationResult :=
  let c := field.constraints
  let d := value.toDouble
  let len : Int := utf16Length value.toStr
  let size : Int := (toArray value).length
  ((failIf (isDouble value && broken c.min fun min => d < min) field.name
      ("value " ++ qt.arg d ++ " < min " ++ qt.arg (c.min.getD 0))).andThen
    (failIf (isDouble value && broken c.max fun max => d > max) field.name
      ("value " ++ qt.arg d ++ " > max " ++ qt.arg (c.max.getD 0)))).andThen
  (((failIf (isString value && broken c.minLength fun min => len < min) field.name
      "string too short").andThen
    ((failIf (isString value && broken c.maxLength fun max => len > max) field.name
        "string too long").andThen
      (failIf (isString value && !c.pattern.isEmpty && !qt.hasMatch c.pattern value.toStr) field.name
        "pattern mismatch"))).andThen
  ((failIf (field.type = .enum && !c.enumValues.isEmpty && !c.enumValues.contains value) field.name
      "invalid enum value").andThen
  ((failIf (isArray value && broken c.minItems fun min => size < min) field.name
      "array too short").andThen
    (failIf (isArray value && broken c.maxItems fun max => size > max) field.name
      "array too long"))))

/-! ## §3. Objects and arrays -/

/-- The first member that no field declares. -/
def unknownKey (obj : List (String × Json)) (fields : List FieldMeta) : Option String :=
  (obj.map Prod.fst).find? fun key => !fields.any fun f => f.name = key

/-- `validateObject`, given what the loop over the fields that are present says. -/
def checkObject (obj : List (String × Json)) (fields : List FieldMeta) (requiredKeys : List String)
    (allowUnknown : Bool) (present : ValidationResult) : ValidationResult :=
  let missingField := fields.find? fun f => f.required && !Json.hasKey obj f.name
  let missingKey := requiredKeys.find? fun key => !Json.hasKey obj key
  (match missingField with
    | some f => fail f.name "required field missing"
    | none => ok).andThen
  ((match missingKey with
    | some key => fail key "required key missing"
    | none => ok).andThen
  (present.andThen
  (if allowUnknown then ok
    else
      match unknownKey obj fields with
      | some key => fail key "unknown field"
      | none => ok)))

/-- `validateArray`, given the check of one item. -/
def checkItems (name : String) (check : Json → ValidationResult) : Nat → List Json → ValidationResult
  | _, [] => ok
  | i, item :: rest =>
      if !(check item).valid then
        { check item with errorField := name ++ "[" ++ toString i ++ "]" }
      else checkItems name check (i + 1) rest

/-- `validateField`, given what the loops over the nested fields and over the items say. -/
def checkField (qt : ValidatorQt) (value : Json) (field : FieldMeta)
    (present items : ValidationResult) : ValidationResult :=
  let typeResult := checkType value field.type
  if !typeResult.valid then { typeResult with errorField := field.name }
  else
    (checkConstraints qt value field).andThen
    ((if field.type = .object && !field.fields.isEmpty then
        let objResult :=
          checkObject value.toObject field.fields field.requiredKeys true present
        if !objResult.valid then
          { objResult with errorField := field.name ++ "." ++ objResult.errorField }
        else ok
      else ok).andThen
    (if field.type = .array then items else ok))

mutual

/-- `validateField`. -/
def validateField (qt : ValidatorQt) (value : Json) (field : FieldMeta) : ValidationResult :=
  match field with
  | { fields, items, .. } =>
    checkField qt value field (validateFields qt value.toObject fields)
      (match items with
        | some item => checkItems field.name (fun v => validateField qt v item) 0 (toArray value)
        | none => ok)
termination_by structural field

/-- The loop of `validateObject` over the fields that are present. -/
def validateFields (qt : ValidatorQt) (obj : List (String × Json)) (fields : List FieldMeta) :
    ValidationResult :=
  match fields with
  | [] => ok
  | field :: rest =>
      (if Json.hasKey obj field.name then validateField qt (Json.value obj field.name) field
        else ok).andThen
      (validateFields qt obj rest)
termination_by structural fields

end

/-- `validateObject`. -/
def validateObject (qt : ValidatorQt) (obj : List (String × Json)) (fields : List FieldMeta)
    (requiredKeys : List String) (allowUnknown : Bool) : ValidationResult :=
  checkObject obj fields requiredKeys allowUnknown (validateFields qt obj fields)

/-- `validateParams`. -/
def validateParams (qt : ValidatorQt) (data : Json) (cmd : CommandMeta) (allowUnknown : Bool) :
    ValidationResult :=
  if !isObject data && !data.isNullish then fail "" "params must be an object"
  else validateObject qt data.toObject cmd.params [] allowUnknown

/-! ## §4. What a declaration describes -/

/-- The type, with the numbers as they are. -/
def TypeDescribed (type : FieldType) (v : Json) : Prop :=
  match type with
  | .string => ∃ s, v = .str s
  | .int => ∃ n : Int, v = .num n ∧ -2 ^ 31 ≤ n ∧ n < 2 ^ 31
  | .int64 => ∃ n : Int, v = .num n ∧ -2 ^ 53 ≤ n ∧ n ≤ 2 ^ 53
  | .double => ∃ q, v = .num q
  | .bool => ∃ b, v = .bool b
  | .object => ∃ m, v = .obj m
  | .array => ∃ items, v = .arr items
  | .enum => ∃ s, v = .str s
  | .any => True

/-- The constraints on a value of their kind, with each number read in this way. -/
structure ConstraintsHold (qt : ValidatorQt) (field : FieldMeta) (read : ℚ → ℚ) (v : Json) :
    Prop where
  min : ∀ q min, v = .num q → field.constraints.min = some min → min ≤ read q
  max : ∀ q max, v = .num q → field.constraints.max = some max → read q ≤ max
  minLength : ∀ s min, v = .str s → field.constraints.minLength = some min → min ≤ utf16Length s
  maxLength : ∀ s max, v = .str s → field.constraints.maxLength = some max → utf16Length s ≤ max
  pattern : ∀ s, v = .str s → field.constraints.pattern.isEmpty = false →
    qt.hasMatch field.constraints.pattern s = true
  enumValues : field.type = .enum → field.constraints.enumValues ≠ [] →
    v ∈ field.constraints.enumValues
  minItems : ∀ l min, v = .arr l → field.constraints.minItems = some min → min ≤ l.length
  maxItems : ∀ l max, v = .arr l → field.constraints.maxItems = some max → l.length ≤ max

/-- The rules for one value, its members and items aside. -/
structure DescribedHere (qt : ValidatorQt) (field : FieldMeta) (v : Json) : Prop where
  type : TypeDescribed field.type v
  constraints : ConstraintsHold qt field id v
  required : ∀ m, field.type = .object → v = .obj m →
    ∀ f ∈ field.fields, f.required = true → Json.hasKey m f.name = true
  requiredKeys : ∀ m, field.type = .object → v = .obj m →
    ∀ key ∈ field.requiredKeys, Json.hasKey m key = true
  declared : ∀ m, field.type = .object → v = .obj m → field.additionalProperties = false →
    ∀ key, Json.hasKey m key = true → ∃ f ∈ field.fields, f.name = key

/-- The places of a value that a declaration reaches, with the declaration for each: the
value, the members of an object that are declared, the items of an array. -/
inductive Place : FieldMeta → Json → FieldMeta → Json → Prop where
  | here (field : FieldMeta) (v : Json) : Place field v field v
  | member {field f g : FieldMeta} {m : List (String × Json)} {w u : Json} :
      field.type = .object → f ∈ field.fields → m.lookup f.name = some w → Place f w g u →
        Place field (.obj m) g u
  | item {field item g : FieldMeta} {l : List Json} {w u : Json} :
      field.type = .array → field.items = some item → w ∈ l → Place item w g u →
        Place field (.arr l) g u

/-- **What the declaration describes**: the rules hold at every place. -/
def Described (qt : ValidatorQt) (field : FieldMeta) (v : Json) : Prop :=
  ∀ g w, Place field v g w → DescribedHere qt g w

/-- The type as the code checks it: of an int64 only the double is looked at. -/
def TypeChecked (type : FieldType) (v : Json) : Prop :=
  match type with
  | .int64 => (∃ q, v = .num q) ∧ -2 ^ 53 ≤ v.toDouble ∧ v.toDouble ≤ 2 ^ 53
  | type => TypeDescribed type v

/-- A number is read as a double. -/
def asDouble (q : ℚ) : ℚ := (Json.num q).toDouble

/-- The rules for one value that the code checks. -/
structure CheckedHere (qt : ValidatorQt) (field : FieldMeta) (v : Json) : Prop where
  type : TypeChecked field.type v
  constraints : ConstraintsHold qt field asDouble v
  required : ∀ m, field.type = .object → v = .obj m →
    ∀ f ∈ field.fields, f.required = true → Json.hasKey m f.name = true
  requiredKeys : ∀ m, field.type = .object → v = .obj m → field.fields ≠ [] →
    ∀ key ∈ field.requiredKeys, Json.hasKey m key = true

/-- What the code lets pass: a fraction for an int64; an integer that the declaration excludes and
its double does not; a missing key of an object field that declares no fields; and an undeclared key
where none may be. -/
inductive Overlooked (field : FieldMeta) (v : Json) : Prop where
  | fraction (q : ℚ) (ht : field.type = .int64) (hv : v = .num q) (hq : q.den ≠ 1)
  | range (n : Int) (ht : field.type = .int64) (hv : v = .num n) (hn : n < -2 ^ 53 ∨ 2 ^ 53 < n)
  | bound (q : ℚ) (hv : v = .num q) (hq : (∃ min, field.constraints.min = some min ∧ q < min) ∨
      ∃ max, field.constraints.max = some max ∧ max < q)
  | missing (m : List (String × Json)) (key : String) (ht : field.type = .object) (hv : v = .obj m)
      (hno : field.fields = []) (hkey : key ∈ field.requiredKeys) (hm : Json.hasKey m key = false)
  | undeclared (m : List (String × Json)) (key : String) (ht : field.type = .object)
      (hv : v = .obj m) (hadd : field.additionalProperties = false)
      (hm : Json.hasKey m key = true) (hno : ∀ f ∈ field.fields, f.name ≠ key)

/-- The bounds are doubles, as `Constraints` holds them. -/
def DoubleBounds (field : FieldMeta) : Prop :=
  ∀ b, field.constraints.min = some b ∨ field.constraints.max = some b → binary64.Represents b

section Rules

variable {qt : ValidatorQt} {field : FieldMeta} {v : Json}

/-- Constraints with other bounds for the numbers. -/
theorem ConstraintsHold.read {read read' : ℚ → ℚ} (h : ConstraintsHold qt field read v)
    (hmin : ∀ q min, v = .num q → field.constraints.min = some min → min ≤ read' q)
    (hmax : ∀ q max, v = .num q → field.constraints.max = some max → read' q ≤ max) :
    ConstraintsHold qt field read' v :=
  ⟨hmin, hmax, h.minLength, h.maxLength, h.pattern, h.enumValues, h.minItems, h.maxItems⟩

/-- What is described is checked: no double lies between an integer and its double. -/
theorem DescribedHere.checked (h : DescribedHere qt field v) (hbounds : DoubleBounds field) :
    CheckedHere qt field v := by
  refine ⟨?_, ?_, h.required, fun m ht hv _ => h.requiredKeys m ht hv⟩
  · have htype := h.type
    cases ht : field.type with
    | int64 =>
      rw [ht] at htype
      obtain ⟨n, rfl, hlo, hhi⟩ := htype
      rw [TypeChecked, Json.toDouble_int, Json.roundToDouble_small (by omega)]
      exact ⟨⟨n, rfl⟩, by exact_mod_cast hlo, by exact_mod_cast hhi⟩
    | _ =>
      rw [ht] at htype
      exact htype
  · refine h.constraints.read (fun q min hv hmin => ?_) fun q max hv hmax => ?_
    · exact (Json.toDouble_between (hbounds min (.inl hmin))).1 (h.constraints.min q min hv hmin)
    · exact (Json.toDouble_between (hbounds max (.inr hmax))).2 (h.constraints.max q max hv hmax)

theorem DescribedHere.not_overlooked (h : DescribedHere qt field v) : ¬ Overlooked field v := by
  rintro (⟨q, ht, hv, hq⟩ | ⟨n, ht, hv, hn⟩ | ⟨q, hv, hq⟩ | ⟨m, key, ht, hv, -, hkey, hno⟩ |
    ⟨m, key, ht, hv, hadd, hkey, hno⟩)
  · have htype := h.type
    rw [ht, hv] at htype
    obtain ⟨n, hn, -⟩ := htype
    rw [Json.num.inj hn] at hq
    exact hq (Rat.den_intCast n)
  · have htype := h.type
    rw [ht, hv] at htype
    obtain ⟨n', heq, hlo, hhi⟩ := htype
    rw [Rat.intCast_inj.mp (Json.num.inj heq)] at hn
    omega
  · obtain ⟨min, hmin, hlt⟩ | ⟨max, hmax, hlt⟩ := hq
    · exact absurd (h.constraints.min q min hv hmin) (not_le.mpr hlt)
    · exact absurd (h.constraints.max q max hv hmax) (not_le.mpr hlt)
  · have hhas := h.requiredKeys m ht hv key hkey
    rw [hno] at hhas
    cases hhas
  · obtain ⟨f, hf, hname⟩ := h.declared m ht hv hadd key hkey
    exact hno f hf hname

theorem CheckedHere.described (h : CheckedHere qt field v) (hover : ¬ Overlooked field v) :
    DescribedHere qt field v := by
  refine ⟨?_, ?_, h.required, ?_, ?_⟩
  · have htype := h.type
    cases ht : field.type with
    | int64 =>
      rw [ht] at htype
      obtain ⟨⟨q, rfl⟩, -, -⟩ := htype
      have hden : q.den = 1 := by
        by_contra hne
        exact hover (.fraction q ht rfl hne)
      have hq : (q.num : ℚ) = q := Rat.coe_int_num_of_den_eq_one hden
      refine ⟨q.num, congrArg Json.num hq.symm, ?_⟩
      by_contra hout
      exact hover (.range q.num ht (congrArg Json.num hq.symm) (by omega))
    | _ =>
      rw [ht] at htype
      exact htype
  · refine h.constraints.read (fun q min hv hmin => ?_) fun q max hv hmax => ?_
    · by_contra hlt
      exact hover (.bound q hv (.inl ⟨min, hmin, not_le.mp hlt⟩))
    · by_contra hlt
      exact hover (.bound q hv (.inr ⟨max, hmax, not_le.mp hlt⟩))
  · intro m ht hv key hkey
    by_cases hempty : field.fields = []
    · by_contra hno
      exact hover (.missing m key ht hv hempty hkey (Bool.eq_false_iff.mpr hno))
    · exact h.requiredKeys m ht hv hempty key hkey
  · intro m ht hv hadd key hkey
    by_contra hno
    exact hover (.undeclared m key ht hv hadd hkey fun f hf hname => hno ⟨f, hf, hname⟩)

end Rules

/-! ## §5. What the code accepts -/

theorem eq_castInt_iff (d : ℚ) :
    d = castInt d ↔ ∃ n : Int, d = n ∧ -2 ^ 31 ≤ n ∧ n < 2 ^ 31 := by
  constructor
  · intro h
    refine ⟨castInt d, h, ?_⟩
    unfold castInt
    dsimp only
    split_ifs with hfits <;> omega
  · intro h
    obtain ⟨n, rfl, hlo, hhi⟩ := h
    have hneg : (-(n : ℚ)).floor = -n := by
      rw [← Int.cast_neg]
      exact Rat.floor_intCast (-n)
    have hpos : ((n : ℚ)).floor = n := Rat.floor_intCast n
    have htrunc : (if (n : ℚ) < 0 then -((-(n : ℚ)).floor) else ((n : ℚ)).floor) = n := by
      rw [hneg, hpos, neg_neg, ite_self]
    have hfits : -2147483648 ≤ n ∧ n ≤ 2147483647 := by omega
    rw [castInt, htrunc, if_pos hfits]

variable (qt : ValidatorQt) (m : List (String × Json)) (v : Json) (fields : List FieldMeta)
  (field : FieldMeta)

theorem checkType_valid (type : FieldType) :
    (checkType v type).valid = true ↔ TypeChecked type v := by
  cases type with
  | int =>
    have hcast := eq_castInt_iff v.toDouble
    cases v with
    | num q =>
      have hexact : (∃ n : Int, Json.toDouble (.num q) = n ∧ -2 ^ 31 ≤ n ∧ n < 2 ^ 31) ↔
          ∃ n : Int, Json.num q = .num n ∧ -2 ^ 31 ≤ n ∧ n < 2 ^ 31 := by
        constructor
        · rintro ⟨n, hn, hfits⟩
          exact ⟨n, congrArg Json.num (Json.eq_of_toDouble_eq hn (by omega)), hfits⟩
        · rintro ⟨n, hn, hfits⟩
          refine ⟨n, ?_, hfits⟩
          rw [hn, Json.toDouble_int, Json.roundToDouble_small (by omega)]
      rw [hexact] at hcast
      simp [checkType, TypeChecked, TypeDescribed, isDouble, hcast]
    | _ => simp [checkType, TypeChecked, TypeDescribed, isDouble]
  | int64 =>
    cases v <;> simp [checkType, TypeChecked, isDouble]
    norm_num
  | _ => cases v <;>
      simp [checkType, TypeChecked, TypeDescribed, isString, isDouble, isBool, isObject, isArray]

/-- A bound that is not broken holds. -/
theorem broken_eq_false {α : Type} {bound : Option α} {breaks : α → Bool} :
    broken bound breaks = false ↔ ∀ b, bound = some b → breaks b = false := by
  cases bound with
  | none => simp [broken]
  | some b => simp [broken]

theorem checkConstraints_valid :
    (checkConstraints qt v field).valid = true ↔ ConstraintsHold qt field asDouble v := by
  have hnum : ∀ p : Prop, (isDouble v = true → p) ↔ ∀ q, v = .num q → p := by
    intro p
    cases v <;> simp [isDouble]
  have hstr : ∀ p : String → Prop, (isString v = true → p v.toStr) ↔ ∀ s, v = .str s → p s := by
    intro p
    cases v <;> simp [isString, Json.toStr]
  have harr : ∀ p : List Json → Prop,
      (isArray v = true → p (toArray v)) ↔ ∀ l, v = .arr l → p l := by
    intro p
    cases v <;> simp [isArray, toArray]
  have hsplit : (checkConstraints qt v field).valid = true ↔
      ((∀ q, v = .num q → ∀ min, field.constraints.min = some min → min ≤ v.toDouble) ∧
        (∀ q, v = .num q → ∀ max, field.constraints.max = some max → v.toDouble ≤ max)) ∧
      ((∀ s, v = .str s → ∀ min, field.constraints.minLength = some min → min ≤ utf16Length s) ∧
        (∀ s, v = .str s → ∀ max, field.constraints.maxLength = some max → utf16Length s ≤ max) ∧
        (∀ s, v = .str s → field.constraints.pattern.isEmpty = false →
          qt.hasMatch field.constraints.pattern s = true)) ∧
      (field.type = .enum → field.constraints.enumValues.isEmpty = false →
        v ∈ field.constraints.enumValues) ∧
      ((∀ l, v = .arr l → ∀ min, field.constraints.minItems = some min → min ≤ l.length) ∧
        (∀ l, v = .arr l → ∀ max, field.constraints.maxItems = some max → l.length ≤ max)) := by
    simp only [← hnum, ← hstr (fun s => ∀ min, field.constraints.minLength = some min →
        min ≤ (utf16Length s : Int)),
      ← hstr (fun s => ∀ max, field.constraints.maxLength = some max →
        (utf16Length s : Int) ≤ max),
      ← hstr (fun s => field.constraints.pattern.isEmpty = false →
        qt.hasMatch field.constraints.pattern s = true),
      ← harr (fun l => ∀ min, field.constraints.minItems = some min → min ≤ (l.length : Int)),
      ← harr (fun l => ∀ max, field.constraints.maxItems = some max → (l.length : Int) ≤ max)]
    simp only [checkConstraints, andThen_valid, failIf_valid, Bool.and_eq_true, Bool.not_eq_true',
      Bool.and_eq_false_imp, decide_eq_true_eq, Bool.not_eq_false', List.contains_iff_mem, and_imp,
      broken_eq_false, decide_eq_false_iff_not, not_lt, gt_iff_lt]
  rw [hsplit]
  constructor
  · intro h
    obtain ⟨⟨hmin, hmax⟩, ⟨hminl, hmaxl, hpat⟩, henum, hmini, hmaxi⟩ := h
    exact ⟨fun q min hv => by subst hv; exact hmin q rfl min,
      fun q max hv => by subst hv; exact hmax q rfl max,
      fun s min hv => hminl s hv min, fun s max hv => hmaxl s hv max, hpat,
      fun ht hne => henum ht (List.isEmpty_eq_false_iff.mpr hne),
      fun l min hv => hmini l hv min, fun l max hv => hmaxi l hv max⟩
  · intro h
    exact ⟨⟨fun q hv min => by subst hv; exact h.min q min rfl,
        fun q hv max => by subst hv; exact h.max q max rfl⟩,
      ⟨fun s hv min => h.minLength s min hv, fun s hv max => h.maxLength s max hv, h.pattern⟩,
      fun ht hne => h.enumValues ht (List.isEmpty_eq_false_iff.mp hne),
      fun l hv min => h.minItems l min hv, fun l hv max => h.maxItems l max hv⟩

/-- The loop accepts when every field that is present is accepted. -/
theorem validateFields_valid :
    (validateFields qt m fields).valid = true ↔
      ∀ f ∈ fields, ∀ w, m.lookup f.name = some w → (validateField qt w f).valid = true := by
  induction fields with
  | nil => simp [validateFields]
  | cons f rest ih =>
    rw [validateFields, andThen_valid, Bool.and_eq_true, ih, List.forall_mem_cons]
    apply and_congr_left
    intro _
    cases hf : m.lookup f.name with
    | none => simp [Json.hasKey, hf]
    | some w => simp [Json.hasKey, Json.value, hf]

theorem checkItems_valid (name : String) (check : Json → ValidationResult) (i : Nat)
    (l : List Json) :
    (checkItems name check i l).valid = true ↔ ∀ w ∈ l, (check w).valid = true := by
  induction l generalizing i with
  | nil => simp [checkItems]
  | cons w rest ih =>
    rw [checkItems, List.forall_mem_cons, ← ih (i + 1)]
    cases hw : (check w).valid with
    | false => simp [hw]
    | true => simp

theorem unknownKey_eq_none :
    unknownKey m fields = none ↔
      ∀ key, Json.hasKey m key = true → ∃ f ∈ fields, f.name = key := by
  have hkey : ∀ key, Json.hasKey m key = true ↔ key ∈ m.map Prod.fst := by
    intro key
    induction m with
    | nil => simp [Json.hasKey]
    | cons member rest ih =>
      obtain ⟨k, w⟩ := member
      rw [Json.hasKey, Json.lookup_member, List.map_cons, List.mem_cons, ← ih]
      by_cases hk : key = k <;> simp [hk, Json.hasKey]
  simp [unknownKey, hkey]

/-- **One object.**  The fields and keys that must be there, the fields that are there, and
unless they are allowed no other keys. -/
theorem checkObject_valid (requiredKeys : List String) (allowUnknown : Bool)
    (present : ValidationResult) :
    (checkObject m fields requiredKeys allowUnknown present).valid = true ↔
      (∀ f ∈ fields, f.required = true → Json.hasKey m f.name = true) ∧
      (∀ key ∈ requiredKeys, Json.hasKey m key = true) ∧ present.valid = true ∧
      (allowUnknown = false → ∀ key, Json.hasKey m key = true → ∃ f ∈ fields, f.name = key) := by
  have hfield : (fields.find? fun f => f.required && !Json.hasKey m f.name) = none ↔
      ∀ f ∈ fields, f.required = true → Json.hasKey m f.name = true := by
    simp
  have hkeys : (requiredKeys.find? fun key => !Json.hasKey m key) = none ↔
      ∀ key ∈ requiredKeys, Json.hasKey m key = true := by
    simp
  rw [← hfield, ← hkeys, ← unknownKey_eq_none, checkObject]
  -- each look-up that finds nothing lets the next check speak
  cases fields.find? fun f => f.required && !Json.hasKey m f.name with
  | some f => simp
  | none =>
    cases requiredKeys.find? fun key => !Json.hasKey m key with
    | some key => simp
    | none =>
      cases allowUnknown with
      | true => simp
      | false => cases unknownKey m fields <;> simp

/-- What a declaration asks of the values under an object or array. -/
structure BelowAccepted (qt : ValidatorQt) (field : FieldMeta) (v : Json) : Prop where
  member : ∀ m, field.type = .object → v = .obj m → ∀ f ∈ field.fields, ∀ w,
    m.lookup f.name = some w → (validateField qt w f).valid = true
  item : ∀ l item, field.type = .array → v = .arr l → field.items = some item → ∀ w ∈ l,
    (validateField qt w item).valid = true

/-- `validateField` unfolded once: the type, the constraints, then the object and the array. -/
theorem validateField_valid :
    (validateField qt v field).valid = true ↔
      (checkType v field.type).valid = true ∧ (checkConstraints qt v field).valid = true ∧
      (field.type = .object → field.fields ≠ [] →
        (validateObject qt v.toObject field.fields field.requiredKeys true).valid = true) ∧
      (field.type = .array → ∀ item, field.items = some item → ∀ w ∈ toArray v,
        (validateField qt w item).valid = true) := by
  have hunfold : validateField qt v field =
      checkField qt v field (validateFields qt v.toObject field.fields)
        (match field.items with
          | some item => checkItems field.name (fun w => validateField qt w item) 0 (toArray v)
          | none => ok) := by
    rw [validateField.eq_def]
    cases field with
    | mk name type required defaultValue constraints fields items requiredKeys additional =>
      cases items <;> rfl
  rw [hunfold, checkField, ← validateObject]
  dsimp only
  cases htype : (checkType v field.type).valid with
  | false => simp
  | true =>
    simp only [Bool.not_true, Bool.false_eq_true, if_false, andThen_valid, Bool.and_eq_true,
      true_and]
    -- one conjunct for each of the three checks that follow the type
    apply and_congr_right
    intro _
    apply and_congr
    · have hempty : field.fields ≠ [] ↔ field.fields.isEmpty = false :=
        List.isEmpty_eq_false_iff.symm
      rw [hempty]
      cases hobj : (validateObject qt v.toObject field.fields field.requiredKeys true).valid <;>
        by_cases ht : field.type = .object <;> cases he : field.fields.isEmpty <;> simp [ht]
    · by_cases ht : field.type = .array
      · cases field.items with
        | none => simp
        | some item => simp [ht, checkItems_valid]
      · simp [ht]

/-- **One step.**  The code accepts a value when the rules it checks hold of it and it accepts
what is below. -/
theorem validateField_step :
    (validateField qt v field).valid = true ↔
      CheckedHere qt field v ∧ BelowAccepted qt field v := by
  have hobject : field.type = .object → TypeChecked field.type v → ∃ m, v = .obj m := by
    intro ht hv
    rw [ht] at hv
    exact hv
  have harray : field.type = .array → TypeChecked field.type v → ∃ l, v = .arr l := by
    intro ht hv
    rw [ht] at hv
    exact hv
  rw [validateField_valid, checkType_valid, checkConstraints_valid, validateObject,
    checkObject_valid, validateFields_valid]
  constructor
  · intro h
    obtain ⟨htype, hconstraints, hobj, harr⟩ := h
    refine ⟨⟨htype, hconstraints, ?_, ?_⟩, ⟨?_, ?_⟩⟩
    · intro m ht hv f hf
      subst hv
      exact (hobj ht (List.ne_nil_of_mem hf)).1 f hf
    · intro m ht hv hne
      subst hv
      exact (hobj ht hne).2.1
    · intro m ht hv f hf
      subst hv
      exact (hobj ht (List.ne_nil_of_mem hf)).2.2.1 f hf
    · intro l item ht hv hitem
      subst hv
      exact harr ht item hitem
  · intro h
    obtain ⟨hhere, hbelow⟩ := h
    refine ⟨hhere.type, hhere.constraints, ?_, ?_⟩
    · intro ht hne
      obtain ⟨m, rfl⟩ := hobject ht hhere.type
      exact ⟨hhere.required m ht rfl, hhere.requiredKeys m ht rfl hne, hbelow.member m ht rfl,
        fun h => absurd h (by simp)⟩
    · intro ht item hitem
      obtain ⟨l, rfl⟩ := harray ht hhere.type
      exact hbelow.item l item ht rfl hitem

/-- **What `validateField` accepts.**  The values at whose every place the rules that it checks
hold. -/
theorem validateField_iff (v : Json) :
    (validateField qt v field).valid = true ↔ ∀ g w, Place field v g w → CheckedHere qt g w := by
  induction field using FieldMeta.ind generalizing v with
  | field field hfields hitems =>
    rw [validateField_step]
    constructor
    · intro h g w hplace
      obtain ⟨hhere, hbelow⟩ := h
      cases hplace with
      | here => exact hhere
      | member ht hf hw hrest =>
        have haccepted := hbelow.member _ ht rfl _ hf _ hw
        exact (hfields _ hf _).mp haccepted _ _ hrest
      | item ht hitem hw hrest =>
        have haccepted := hbelow.item _ _ ht rfl hitem _ hw
        exact (hitems _ hitem _).mp haccepted _ _ hrest
    · intro h
      refine ⟨h _ _ (.here field v), ⟨?_, ?_⟩⟩
      · intro m ht hv f hf w hw
        subst hv
        rw [hfields f hf]
        intro g u hplace
        exact h g u (.member ht hf hw hplace)
      · intro l item ht hv hitem w hw
        subst hv
        rw [hitems item hitem]
        intro g u hplace
        exact h g u (.item ht hitem hw hplace)

/-- **Where this is what the declaration describes.**  Unless the value keeps every rule that is
checked and has one of the overlooked faults at some place. -/
theorem accepts_described_iff (qt : ValidatorQt) (field : FieldMeta) (v : Json)
    (hbounds : ∀ g w, Place field v g w → DoubleBounds g) :
    ((validateField qt v field).valid = true ↔ Described qt field v) ↔
      ¬ ((∀ g w, Place field v g w → CheckedHere qt g w) ∧
        ∃ g w, Place field v g w ∧ Overlooked g w) := by
  have hdescribed : Described qt field v ↔ (∀ g w, Place field v g w → CheckedHere qt g w) ∧
      ¬ ∃ g w, Place field v g w ∧ Overlooked g w := by
    constructor
    · intro h
      refine ⟨fun g w hplace => (h g w hplace).checked (hbounds g w hplace), ?_⟩
      rintro ⟨g, w, hplace, hfault⟩
      exact (h g w hplace).not_overlooked hfault
    · intro h g w hplace
      exact (h.1 g w hplace).described fun hfault => h.2 ⟨g, w, hplace, hfault⟩
  rw [validateField_iff, hdescribed]
  -- accepted and described differ by the overlooked faults alone
  generalize (∃ g w, Place field v g w ∧ Overlooked g w) = faulty
  constructor
  · intro h hfaulty
    exact (h.mp hfaulty.1).2 hfaulty.2
  · intro h
    exact ⟨fun hchecked => ⟨hchecked, fun hfaulty => h ⟨hchecked, hfaulty⟩⟩, fun hboth => hboth.1⟩

/-- A Qt for the runs below, which use neither patterns nor texts of numbers. -/
def plainQt : ValidatorQt := { hasMatch := fun _ _ => true, arg := fun _ => "" }

/-- The only place of a number. -/
theorem Place.num {field g : FieldMeta} {q : ℚ} {w : Json} (h : Place field (.num q) g w) :
    g = field ∧ w = .num q := by
  cases h
  exact ⟨rfl, rfl⟩

/-- 2^53 + 1 is read as 2^53: it is accepted where that is the largest number described. -/
theorem bound_overlooked :
    let field : FieldMeta :=
      { name := "n", type := .double, constraints := { max := some (2 ^ 53) } }
    (validateField plainQt (.num (2 ^ 53 + 1)) field).valid = true ∧
      ¬ Described plainQt field (.num (2 ^ 53 + 1)) := by
  intro field
  have haccepted : (validateField plainQt (.num (2 ^ 53 + 1)) field).valid = true := by
    decide +kernel
  have hbounds : ∀ g w, Place field (.num (2 ^ 53 + 1)) g w → DoubleBounds g := by
    intro g w hplace b hb
    obtain ⟨rfl, -⟩ := hplace.num
    obtain hb | hb := hb
    · cases hb
    · have hb : (2 ^ 53 : ℚ) = b := Option.some.inj hb
      have hnumber : Json.IsNumber (2 ^ 53) := .inl ⟨2 ^ 53, by norm_num, by norm_num, by norm_num⟩
      rw [← hb]
      exact (Json.toDouble_eq_iff hnumber).mp (by decide +kernel)
  refine ⟨haccepted, fun hdescribed => ?_⟩
  refine (accepts_described_iff plainQt field _ hbounds).mp (iff_of_true haccepted hdescribed) ⟨?_, ?_⟩
  · exact (validateField_iff plainQt field _).mp haccepted
  · exact ⟨field, _, .here .., .bound _ rfl (.inr ⟨_, rfl, by norm_num⟩)⟩

/-- An int64 field takes 1.5 and 2^53 + 1, and an object field that declares no fields and has `"id"`
in its `requiredKeys` takes the empty object. -/
theorem fraction_and_missing_key_accepted :
    (∀ q ∈ ([3 / 2, 2 ^ 53 + 1] : List ℚ),
      (validateField plainQt (.num q) { name := "n", type := .int64 }).valid = true ∧
      ¬ Described plainQt { name := "n", type := .int64 } (.num q)) ∧
    ((validateField plainQt (.obj []) { name := "o", type := .object, requiredKeys := ["id"] }).valid
        = true ∧
      ¬ Described plainQt { name := "o", type := .object, requiredKeys := ["id"] } (.obj [])) := by
  refine ⟨?_, ⟨by decide +kernel, ?_⟩⟩
  · intro q hq
    have hfault : ∀ q ∈ ([3 / 2, 2 ^ 53 + 1] : List ℚ), (validateField plainQt (.num q)
        { name := "n", type := .int64 }).valid = true ∧ (q.den ≠ 1 ∨ 2 ^ 53 < q) := by
      decide +kernel
    obtain ⟨haccepted, hout⟩ := hfault q hq
    refine ⟨haccepted, fun h => ?_⟩
    obtain ⟨n, hn, -, hhi⟩ := (h _ _ (.here _ _)).type
    rw [Json.num.inj hn] at hout
    obtain hden | hlarge := hout
    · exact hden (Rat.den_intCast n)
    · exact absurd (by exact_mod_cast hhi) (not_le.mpr hlarge)
  · intro h
    have hkey := (h _ _ (.here _ _)).requiredKeys [] rfl rfl "id" (by simp)
    cases hkey

end Stdiolink.Meta
