/-
  Stdiolink.Cli.SchemaParser — `CliSchemaParser`, `console/cli_schema_parser.cpp`.

  The path of each argument is followed through the declarations; the field it ends at says
  how the literal is read.  What was read is written as a literal again and handed to the
  generic codec.

  Main results:
    * `typed_or_bad`        — a leaf is read as it was, or its value has the wrong type;
    * `parseArgs_data_iff`  — for which accepted objects the rendered arguments give the
      object back.
-/
import Stdiolink.Cli.RoundTrip
import Stdiolink.Meta.Defaults

namespace Stdiolink.Cli

open Stdiolink.Lib
open Stdiolink.Protocol
open Stdiolink.Meta

/-! ## §1. The parser -/

/-- `QString::toDouble`, too. -/
structure SchemaQt extends JsonQt where
  toDouble : List Char → Option ℚ

structure CliSchemaError where
  error : String
  errorArgIndex : Int
  deriving Repr, DecidableEq

/-- `inferType` of `console/console_args.cpp`. -/
def inferType (qt : JsonQt) (value : String) : Json :=
  (parseJsonLiteral qt value).getD (.str value)

namespace CliSchemaParser

/-- `canonicalLiteral` of this file, which has no case for null. -/
def canonicalLiteral (qt : JsonQt) (value : Json) : String :=
  let json := (qt.toJson [value]).toList
  if json.length ≥ 2 && json.head? = some '[' && json.getLast? = some ']' then
    String.ofList json.tail.dropLast
  else String.ofList json

/-- `findFieldByName`. -/
def findFieldByName (fields : List FieldMeta) (name : String) : Option FieldMeta :=
  fields.find? fun field => field.name = name

/-- One turn of the loop of `resolveFieldMetaByPath`. -/
def resolveSegment (field : FieldMeta) (segment : CliPathSegment) :
    Except String (Option FieldMeta) :=
  match field.type with
  | .array =>
      match segment with
      | .key _ => .error ("path does not match array field: " ++ field.name)
      | _ => .ok field.items
  | .object =>
      match segment with
      | .key key => .ok (findFieldByName field.fields key)
      | _ => .error ("path does not match object field: " ++ field.name)
  | _ => .error ("path exceeds scalar field: " ++ field.name)

/-- The loop of `resolveFieldMetaByPath`. -/
def resolveTail (field : FieldMeta) : CliPath → Except String (Option FieldMeta)
  | [] => .ok (some field)
  | segment :: rest =>
      match resolveSegment field segment with
      | .error error => .error error
      | .ok none => .ok none
      | .ok (some field) => resolveTail field rest

/-- `resolveFieldMetaByPath`. -/
def resolveFieldMetaByPath (rootFields : List FieldMeta) (path : CliPath) :
    Except String (Option FieldMeta) :=
  match path with
  | .key key :: rest =>
      match findFieldByName rootFields key with
      | none => .ok none
      | some field => resolveTail field rest
  | _ => .ok none

/-- `decodeStringOrKeepRaw`. -/
def decodeStringOrKeepRaw (qt : JsonQt) (raw : String) : Json :=
  match parseJsonLiteral qt raw with
  | some (.str s) => .str s
  | _ => .str raw

/-- `parseBoolValue`. -/
def parseBoolValue (raw : String) : Except String Json :=
  if raw = "true" then .ok (.bool true)
  else if raw = "false" then .ok (.bool false)
  else .error "expected boolean literal"

/-- `parseIntValue`. -/
def parseIntValue (raw : String) : Except String Json :=
  match toInt raw.toList with
  | none => .error "expected integer literal"
  | some n => .ok (.num n)

/-- `QString::toLongLong`. -/
def toLongLong (text : List Char) : Option Int :=
  toBoundedInt (-9223372036854775808) 9223372036854775807 text

/-- `parseSafeInt64Value`. -/
def parseSafeInt64Value (raw : String) : Except String Json :=
  match toLongLong raw.toList with
  | none => .error "expected integer literal"
  | some n =>
      if n < -9007199254740992 || n > 9007199254740992 then .error "integer out of safe range"
      else .ok (.num (Json.roundToDouble n))

/-- `parseDoubleValue`. -/
def parseDoubleValue (qt : SchemaQt) (raw : String) : Except String Json :=
  match qt.toDouble raw.toList with
  | none => .error "expected number literal"
  | some d => .ok (.num d)

/-- `parseExpectedContainerValue`, with the check of the type and its text. -/
def parseExpectedContainerValue (qt : JsonQt) (expected : Json → Bool) (error : String)
    (raw : String) : Except String Json :=
  match parseJsonLiteral qt raw with
  | none => .error error
  | some value => if expected value then .ok value else .error error

/-- `resolveFieldValue`. -/
def resolveFieldValue (qt : SchemaQt) (raw : String) (field : Option FieldMeta) :
    Except String Json :=
  match field with
  | none => .ok (inferType qt.toJsonQt raw)
  | some field =>
      match field.type with
      | .string => .ok (decodeStringOrKeepRaw qt.toJsonQt raw)
      | .enum => .ok (decodeStringOrKeepRaw qt.toJsonQt raw)
      | .bool => parseBoolValue raw
      | .int => parseIntValue raw
      | .int64 => parseSafeInt64Value raw
      | .double => parseDoubleValue qt raw
      | .object =>
          parseExpectedContainerValue qt.toJsonQt isObject "expected object literal" raw
      | .array => parseExpectedContainerValue qt.toJsonQt isArray "expected array literal" raw
      | .any => .ok (inferType qt.toJsonQt raw)

/-- The body of the loop of `parseArgs`. -/
def typedArg (qt : SchemaQt) (rootFields : List FieldMeta) (rawArg : RawCliArg) :
    Except String RawCliArg :=
  match parsePath rawArg.path with
  | .error pathError => .error pathError
  | .ok path =>
      match resolveFieldMetaByPath rootFields path with
      | .error metaError => .error metaError
      | .ok fieldMeta =>
          match resolveFieldValue qt rawArg.rawValue fieldMeta with
          | .error valueError => .error (rawArg.path ++ ": " ++ valueError)
          | .ok value => .ok ⟨rawArg.path, canonicalLiteral qt.toJsonQt value⟩

/-- The loop of `parseArgs`, from the argument with this index. -/
def typedArgs (qt : SchemaQt) (rootFields : List FieldMeta) (i : Nat) :
    List RawCliArg → Except CliSchemaError (List RawCliArg)
  | [] => .ok []
  | rawArg :: rest =>
      match typedArg qt rootFields rawArg with
      | .error error => .error ⟨error, i⟩
      | .ok arg => (typedArgs qt rootFields (i + 1) rest).map fun args => arg :: args

/-- `CliSchemaParser::parseArgs`. -/
def parseArgs (qt : SchemaQt) (rawArgs : List RawCliArg) (rootFields : List FieldMeta) :
    Except CliSchemaError (List (String × Json)) :=
  match typedArgs qt rootFields 0 rawArgs with
  | .error error => .error error
  | .ok args =>
      match Cli.parseArgs qt.toJsonQt args .canonical with
      | .error error => .error ⟨error, if rawArgs.isEmpty then -1 else rawArgs.length - 1⟩
      | .ok out => .ok out

/-! ## §2. What is relied on -/

/-- What the parser relies on for a value, too: true and false are the texts of the booleans, an
integer up to 2^53 is written in decimal, a text that reads as an integer is the one of that
integer, the texts that read as a double are those of the numbers, and a number that was
rounded to a double is read back as well. -/
structure SchemaReads (qt : SchemaQt) (v : Json) : Prop extends ReadsBack qt.toJsonQt v where
  bool : ∀ b : Bool, qt.toJson [v] = (if b then "[true]" else "[false]") ↔ v = .bool b
  decimal : ∀ n : Int, v = .num n → n.natAbs ≤ 2 ^ 53 → qt.toJson [v] = "[" ++ toString n ++ "]"
  integer : ∀ text lo hi n, qt.toJson [v] = "[" ++ text ++ "]" →
    toBoundedInt lo hi text.toList = some n → v = .num n
  double : ∀ text d, qt.toJson [v] = "[" ++ text ++ "]" →
    (qt.toDouble text.toList = some d ↔ (∃ q, v = .num q) ∧ d = v.toDouble)
  rounded : ∀ q, v = .num q → ReadsBack qt.toJsonQt (.num v.toDouble)

/-- What reading by the declaration keeps of a value: where any value may be there is a leaf, a
number at a double is one, and a number that may be an int64 is an integer up to 2^53. -/
structure Kept (field : FieldMeta) (v : Json) : Prop where
  any : field.type = .any → IsLeaf v
  double : field.type = .double → ∀ q, v = .num q → v.toDouble = q
  int64 : field.type = .int64 → TypeChecked .int64 v → ∃ n : Int, v = .num n ∧ n.natAbs ≤ 2 ^ 53

/-- A leaf where a text should be is a text. -/
def Textual (field : FieldMeta) (v : Json) : Prop :=
  field.type = .string ∨ field.type = .enum → (∃ s, v = .str s) ∨ ¬ IsLeaf v

/-! ## §3. One leaf -/

section Leaf

variable {qt : SchemaQt} {v : Json}

theorem bracket_inj {a b : String} (h : "[" ++ a ++ "]" = "[" ++ b ++ "]") : a = b := by
  have hchars := congrArg String.toList h
  rw [String.toList_append, String.toList_append, String.toList_append, String.toList_append]
    at hchars
  exact String.toList_inj.mp (List.append_cancel_left (List.append_cancel_right hchars))

theorem inferType_leaf (hleaf : IsLeaf v) (h : SchemaReads qt v) :
    inferType qt.toJsonQt (literalText qt.toJsonQt v) = v := by
  rw [inferType, parseJsonLiteral_literalText hleaf h.toReadsBack, Option.getD_some]

/-- A text that is in range is read as a number in range. -/
theorem toBoundedInt_range {lo hi n : Int} {text : List Char}
    (h : toBoundedInt lo hi text = some n) : lo ≤ n ∧ n ≤ hi := by
  unfold toBoundedInt at h
  dsimp only at h
  split at h
  · cases h
  · split at h
    · rename_i hrange
      rw [← Option.some.inj h]
      exact hrange
    · cases h

theorem parseBoolValue_leaf (hleaf : IsLeaf v) (h : SchemaReads qt v) :
    (parseBoolValue (literalText qt.toJsonQt v) = .ok v ∧ TypeChecked .bool v) ∨
    ((∃ error, parseBoolValue (literalText qt.toJsonQt v) = .error error) ∧
      ¬ TypeChecked .bool v) := by
  have htext := toJson_literalText hleaf h.toReadsBack
  have htrue : literalText qt.toJsonQt v = "true" ↔ v = .bool true := by
    rw [← h.bool true, htext]
    exact ⟨fun heq => by rw [heq]; rfl, fun heq => bracket_inj heq⟩
  have hfalse : literalText qt.toJsonQt v = "false" ↔ v = .bool false := by
    rw [← h.bool false, htext]
    exact ⟨fun heq => by rw [heq]; rfl, fun heq => bracket_inj heq⟩
  unfold parseBoolValue
  by_cases ht : v = .bool true
  · rw [if_pos (htrue.mpr ht), ht]
    exact Or.inl ⟨rfl, true, rfl⟩
  · rw [if_neg fun hlit => ht (htrue.mp hlit)]
    by_cases hf : v = .bool false
    · rw [if_pos (hfalse.mpr hf), hf]
      exact Or.inl ⟨rfl, false, rfl⟩
    · rw [if_neg fun hlit => hf (hfalse.mp hlit)]
      refine Or.inr ⟨⟨_, rfl⟩, ?_⟩
      intro htype
      obtain ⟨b, rfl⟩ := htype
      cases b with
      | true => exact ht rfl
      | false => exact hf rfl

/-- The decimal text of an integer up to 2^53 is read as that integer. -/
theorem toBoundedInt_leaf (hleaf : IsLeaf v) (h : SchemaReads qt v) (n lo hi : Int)
    (hv : v = .num n) (hn : n.natAbs ≤ 2 ^ 53) (hlo : lo ≤ n) (hhi : n ≤ hi) :
    toBoundedInt lo hi (literalText qt.toJsonQt v).toList = some n := by
  have htext : literalText qt.toJsonQt v = toString n := by
    apply bracket_inj
    rw [← toJson_literalText hleaf h.toReadsBack, h.decimal n hv hn]
  rw [htext, toBoundedInt_toString, if_pos ⟨hlo, hhi⟩]

theorem parseIntValue_leaf (hleaf : IsLeaf v) (h : SchemaReads qt v) :
    (parseIntValue (literalText qt.toJsonQt v) = .ok v ∧ TypeChecked .int v) ∨
    ((∃ error, parseIntValue (literalText qt.toJsonQt v) = .error error) ∧
      ¬ TypeChecked .int v) := by
  have htext := toJson_literalText hleaf h.toReadsBack
  unfold parseIntValue
  cases hread : toInt (literalText qt.toJsonQt v).toList with
  | none =>
    refine Or.inr ⟨⟨_, rfl⟩, ?_⟩
    intro htype
    obtain ⟨n, rfl, hlo, hhi⟩ := htype
    -- its text is decimal
    have hsome := toBoundedInt_leaf hleaf h n (-2147483648) 2147483647
      rfl (by omega) (by omega) (by omega)
    rw [toInt, hsome] at hread
    cases hread
  | some n =>
    obtain rfl := h.integer _ _ _ n htext hread
    obtain ⟨hlo, hhi⟩ := toBoundedInt_range hread
    exact Or.inl ⟨rfl, n, rfl, by omega, by omega⟩

theorem parseSafeInt64Value_leaf (hleaf : IsLeaf v) (h : SchemaReads qt v) :
    (parseSafeInt64Value (literalText qt.toJsonQt v) = .ok v ∧
      ∃ n : Int, v = .num n ∧ n.natAbs ≤ 2 ^ 53) ∨
    ((∃ error, parseSafeInt64Value (literalText qt.toJsonQt v) = .error error) ∧
      ¬ ∃ n : Int, v = .num n ∧ n.natAbs ≤ 2 ^ 53) := by
  have htext := toJson_literalText hleaf h.toReadsBack
  unfold parseSafeInt64Value
  cases hread : toLongLong (literalText qt.toJsonQt v).toList with
  | none =>
    refine Or.inr ⟨⟨_, rfl⟩, ?_⟩
    intro hint
    obtain ⟨n, hv, hn⟩ := hint
    have hsome := toBoundedInt_leaf hleaf h n (-9223372036854775808) 9223372036854775807
      hv hn (by omega) (by omega)
    rw [toLongLong, hsome] at hread
    cases hread
  | some n =>
    obtain rfl := h.integer _ _ _ n htext hread
    dsimp only
    split
    · rename_i hout
      refine Or.inr ⟨⟨_, rfl⟩, ?_⟩
      intro hint
      obtain ⟨m, hv, hm⟩ := hint
      have hnm : n = m := Rat.intCast_inj.mp (Json.num.inj hv)
      simp only [Bool.or_eq_true, decide_eq_true_eq] at hout
      omega
    · rename_i hin
      simp only [Bool.or_eq_true, decide_eq_true_eq, not_or, not_lt, gt_iff_lt] at hin
      have hn : n.natAbs ≤ 2 ^ 53 := by omega
      rw [Json.roundToDouble_small hn]
      exact Or.inl ⟨rfl, n, rfl, hn⟩

theorem parseDoubleValue_leaf (hleaf : IsLeaf v) (h : SchemaReads qt v) :
    (parseDoubleValue qt (literalText qt.toJsonQt v) = .ok (.num v.toDouble) ∧
      TypeChecked .double v) ∨
    ((∃ error, parseDoubleValue qt (literalText qt.toJsonQt v) = .error error) ∧
      ¬ TypeChecked .double v) := by
  have htext := toJson_literalText hleaf h.toReadsBack
  unfold parseDoubleValue
  cases hread : qt.toDouble (literalText qt.toJsonQt v).toList with
  | none =>
    refine Or.inr ⟨⟨_, rfl⟩, ?_⟩
    intro htype
    rw [(h.double _ _ htext).mpr ⟨htype, rfl⟩] at hread
    cases hread
  | some d =>
    obtain ⟨hnum, rfl⟩ := (h.double _ _ htext).mp hread
    exact Or.inl ⟨rfl, hnum⟩

theorem parseExpectedContainerValue_leaf (hleaf : IsLeaf v) (h : SchemaReads qt v)
    (expected : Json → Bool) (message : String) :
    parseExpectedContainerValue qt.toJsonQt expected message (literalText qt.toJsonQt v) =
      if expected v then .ok v else .error message := by
  rw [parseExpectedContainerValue, parseJsonLiteral_literalText hleaf h.toReadsBack]

theorem decodeStringOrKeepRaw_leaf (h : SchemaReads qt v) (htext : ∃ s, v = .str s) :
    decodeStringOrKeepRaw qt.toJsonQt (literalText qt.toJsonQt v) = v := by
  obtain ⟨s, rfl⟩ := htext
  have hleaf : IsLeaf (.str s) := by simp [IsLeaf]
  rw [decodeStringOrKeepRaw, parseJsonLiteral_literalText hleaf h.toReadsBack]

/-- **One leaf.**  Where the declaration keeps it, it is read as it was, or it has the wrong type
and is refused. -/
theorem resolveFieldValue_leaf (hleaf : IsLeaf v) (h : SchemaReads qt v) {field : FieldMeta}
    (hkept : Kept field v) (htext : Textual field v) :
    resolveFieldValue qt (literalText qt.toJsonQt v) (some field) = .ok v ∨
    ((∃ error, resolveFieldValue qt (literalText qt.toJsonQt v) (some field) = .error error) ∧
      ¬ TypeChecked field.type v) := by
  have hcontainer : ∀ (expected : Json → Bool) (message : String) (p : Prop),
      (p → expected v = true) →
      (if expected v then (.ok v : Except String Json) else .error message) = .ok v ∨
      ((∃ error, (if expected v then (.ok v : Except String Json) else .error message) =
        .error error) ∧ ¬ p) := by
    intro expected message p hp
    cases hexp : expected v with
    | true => exact Or.inl rfl
    | false =>
      refine Or.inr ⟨⟨message, rfl⟩, ?_⟩
      intro htype
      rw [hp htype] at hexp
      cases hexp
  have hstring : field.type = .string ∨ field.type = .enum → ∃ s, v = .str s := by
    intro ht
    obtain hs | hno := htext ht
    · exact hs
    · exact absurd hleaf hno
  unfold resolveFieldValue
  dsimp only
  cases ht : field.type with
  | string => exact Or.inl (congrArg _ (decodeStringOrKeepRaw_leaf h (hstring (Or.inl ht))))
  | enum => exact Or.inl (congrArg _ (decodeStringOrKeepRaw_leaf h (hstring (Or.inr ht))))
  | any => exact Or.inl (congrArg _ (inferType_leaf hleaf h))
  | bool =>
    obtain ⟨hok, -⟩ | hbad := parseBoolValue_leaf hleaf h
    · exact Or.inl hok
    · exact Or.inr hbad
  | int =>
    obtain ⟨hok, -⟩ | hbad := parseIntValue_leaf hleaf h
    · exact Or.inl hok
    · exact Or.inr hbad
  | int64 =>
    obtain ⟨hok, -⟩ | ⟨herror, hbad⟩ := parseSafeInt64Value_leaf hleaf h
    · exact Or.inl hok
    · exact Or.inr ⟨herror, fun htype => hbad (hkept.int64 ht htype)⟩
  | double =>
    obtain ⟨hok, q, rfl⟩ | hbad := parseDoubleValue_leaf hleaf h
    · rw [hkept.double ht q rfl] at hok
      exact Or.inl hok
    · exact Or.inr hbad
  | object =>
    dsimp only
    rw [parseExpectedContainerValue_leaf hleaf h]
    apply hcontainer
    intro htype
    obtain ⟨m, rfl⟩ := htype
    rfl
  | array =>
    dsimp only
    rw [parseExpectedContainerValue_leaf hleaf h]
    apply hcontainer
    intro htype
    obtain ⟨l, rfl⟩ := htype
    rfl

end Leaf

/-! ## §4. All leaves of a value -/

/-- How a leaf is read below a declaration, or without one. -/
def typed (qt : SchemaQt) (field : Option FieldMeta) (e : CliPath × Json) : Except String Json :=
  match field with
  | none => .ok (inferType qt.toJsonQt (literalText qt.toJsonQt e.2))
  | some field =>
      (resolveTail field e.1).bind fun field =>
        resolveFieldValue qt (literalText qt.toJsonQt e.2) field

/-- The places of a value that the parser reads by a declaration: the first field with the name of
a member, the declaration of the items of an array. -/
inductive Routed : Option FieldMeta → Json → FieldMeta → Json → Prop where
  | here (field : FieldMeta) (v : Json) : Routed (some field) v field v
  | member {field g : FieldMeta} {m : List (String × Json)} {key : String} {w u : Json} :
      field.type = .object → (key, w) ∈ m → Routed (findFieldByName field.fields key) w g u →
        Routed (some field) (.obj m) g u
  | item {field g : FieldMeta} {l : List Json} {w u : Json} :
      field.type = .array → w ∈ l → Routed field.items w g u → Routed (some field) (.arr l) g u

section Paths

variable {qt : SchemaQt}

/-- Without a declaration every leaf is read as it was. -/
theorem typed_none {e : CliPath × Json} (hleaf : IsLeaf e.2) (h : SchemaReads qt e.2) :
    typed qt none e = .ok e.2 := by
  rw [typed, inferType_leaf hleaf h]

/-- A step into a member or an item. -/
theorem typed_step {field : FieldMeta} {s : CliPathSegment} {next : Option FieldMeta}
    (h : resolveSegment field s = .ok next) (e : CliPath × Json) :
    typed qt (some field) (above s e) = typed qt next e := by
  cases next with
  | none =>
    simp only [typed, above_path, above_value, resolveTail, h]
    rfl
  | some next => simp only [typed, above_path, above_value, resolveTail, h]

/-- A step that the declaration has no place for. -/
theorem typed_error {field : FieldMeta} {s : CliPathSegment} {error : String}
    (h : resolveSegment field s = .error error) (e : CliPath × Json) :
    typed qt (some field) (above s e) = .error error := by
  simp only [typed, above_path, resolveTail, h]
  rfl

/-- A leaf itself. -/
theorem typed_here (field : FieldMeta) (v : Json) :
    typed qt (some field) ([], v) =
      resolveFieldValue qt (literalText qt.toJsonQt v) (some field) := rfl

theorem resolveSegment_object {field : FieldMeta} (h : field.type = .object) (key : String) :
    resolveSegment field (.key key) = .ok (findFieldByName field.fields key) := by
  unfold resolveSegment
  rw [h]

theorem resolveSegment_array {field : FieldMeta} (h : field.type = .array) (i : Int) :
    resolveSegment field (.index i) = .ok field.items := by
  unfold resolveSegment
  rw [h]

/-- Only objects have keys. -/
theorem resolveSegment_key_error {field : FieldMeta} (h : field.type ≠ .object) (key : String) :
    ∃ error, resolveSegment field (.key key) = .error error := by
  unfold resolveSegment
  cases ht : field.type with
  | object => exact absurd ht h
  | _ => exact ⟨_, rfl⟩

/-- Only arrays have indices. -/
theorem resolveSegment_index_error {field : FieldMeta} (h : field.type ≠ .array) (i : Int) :
    ∃ error, resolveSegment field (.index i) = .error error := by
  unfold resolveSegment
  cases ht : field.type with
  | array => exact absurd ht h
  | _ => exact ⟨_, rfl⟩

/-- An object is no value of another type, except where any value may be. -/
theorem not_typeChecked_obj {field : FieldMeta} {m : List (String × Json)}
    (hobject : field.type ≠ .object) (hany : field.type ≠ .any) :
    ¬ TypeChecked field.type (.obj m) := by
  cases ht : field.type <;> simp_all [TypeChecked, TypeDescribed]

theorem not_typeChecked_arr {field : FieldMeta} {l : List Json} (harray : field.type ≠ .array)
    (hany : field.type ≠ .any) : ¬ TypeChecked field.type (.arr l) := by
  cases ht : field.type <;> simp_all [TypeChecked, TypeDescribed]

/-- No step leads into the value: it is an object or array, and the declaration of another type. -/
structure Refuses (field : FieldMeta) (v : Json) : Prop where
  notLeaf : ¬ IsLeaf v
  error : ∀ s e, above s e ∈ leaves v → ∃ error, resolveSegment field s = .error error
  badType : field.type ≠ .any → ¬ TypeChecked field.type v

/-- The steps into the members or items of a value, with the declaration for each. -/
structure Descends (field : FieldMeta) (v : Json) {ι : Type} (segment : ι → CliPathSegment)
    (next : ι → Option FieldMeta) (child : ι → Json) : Prop where
  split : ∀ e, e ∈ leaves v ↔ ∃ i, ∃ e' ∈ leaves (child i), e = above (segment i) e'
  resolves : ∀ i, resolveSegment field (segment i) = .ok (next i)
  routed : ∀ i g w, Routed (next i) (child i) g w → Routed (some field) v g w

theorem Descends.mem {field : FieldMeta} {v : Json} {ι : Type} {segment : ι → CliPathSegment}
    {next : ι → Option FieldMeta} {child : ι → Json} (h : Descends field v segment next child)
    {i : ι} {e : CliPath × Json} (he : e ∈ leaves (child i)) : above (segment i) e ∈ leaves v :=
  (h.split _).mpr ⟨i, e, he, rfl⟩

/-- Member by member. -/
theorem descends_obj {field : FieldMeta} {m : List (String × Json)} (hobject : field.type = .object)
    (hleaves : leaves (.obj m) = memberLeaves m) :
    Descends field (.obj m) (fun member : { p // p ∈ m } => .key member.1.1)
      (fun member => findFieldByName field.fields member.1.1) fun member => member.1.2 where
  split e := by
    rw [hleaves, mem_memberLeaves]
    constructor
    · intro h
      obtain ⟨key, w, e', hmem, he', rfl⟩ := h
      exact ⟨⟨(key, w), hmem⟩, e', he', rfl⟩
    · intro h
      obtain ⟨⟨⟨key, w⟩, hmem⟩, e', he', rfl⟩ := h
      exact ⟨key, w, e', hmem, he', rfl⟩
  resolves member := resolveSegment_object hobject _
  routed member g w hroute := .member hobject member.2 hroute

/-- Item by item. -/
theorem descends_arr {field : FieldMeta} {l : List Json} (harray : field.type = .array)
    (hleaves : leaves (.arr l) = itemLeaves 0 l) :
    Descends field (.arr l) (fun i : Fin l.length => .index ((i : Nat) : Int))
      (fun _ => field.items) fun i => l[i] where
  split e := by
    rw [hleaves, mem_itemLeaves]
    constructor
    · intro h
      obtain ⟨i, w, e', hw, he', rfl⟩ := h
      obtain ⟨hi, rfl⟩ := List.getElem?_eq_some_iff.mp hw
      exact ⟨⟨i, hi⟩, e', he', by rw [Nat.zero_add]⟩
    · intro h
      obtain ⟨i, e', he', rfl⟩ := h
      exact ⟨i, l[i], e', List.getElem?_eq_getElem i.isLt, he', by rw [Nat.zero_add]⟩
  resolves i := resolveSegment_array harray _
  routed i g w hroute := .item harray (List.getElem_mem i.isLt) hroute

theorem refuses_obj {field : FieldMeta} {m : List (String × Json)} (hne : m ≠ [])
    (hobject : field.type ≠ .object) : Refuses field (.obj m) where
  notLeaf h := hne (h.2.2 m rfl)
  error s e he := by
    have hleaves : leaves (.obj m) = memberLeaves m := by simp [leaves, hne]
    rw [hleaves] at he
    obtain ⟨key, w, e', -, -, heq⟩ := mem_memberLeaves.mp he
    rw [(List.cons.inj (Prod.mk.inj heq).1).1]
    exact resolveSegment_key_error hobject _
  badType := not_typeChecked_obj hobject

theorem refuses_arr {field : FieldMeta} {l : List Json} (hne : l ≠ [])
    (harray : field.type ≠ .array) : Refuses field (.arr l) where
  notLeaf h := hne (h.2.1 l rfl)
  error s e he := by
    have hleaves : leaves (.arr l) = itemLeaves 0 l := by simp [leaves, hne]
    rw [hleaves] at he
    obtain ⟨i, w, e', -, -, heq⟩ := mem_itemLeaves.mp he
    rw [(List.cons.inj (Prod.mk.inj heq).1).1]
    exact resolveSegment_index_error harray _
  badType := not_typeChecked_arr harray

/-- **Induction on a value and its declaration.**  Without a declaration, at a leaf, where no step
leads on, and step by step. -/
theorem routed_ind {M : Option FieldMeta → Json → Prop}
    (undeclared : ∀ v, Held v → M none v)
    (leaf : ∀ field v, IsLeaf v → M (some field) v)
    (refuses : ∀ field v, Refuses field v → Held v → M (some field) v)
    (descends : ∀ field v {ι : Type} (segment : ι → CliPathSegment) (next : ι → Option FieldMeta)
      (child : ι → Json), Descends field v segment next child →
      (∀ i, M (next i) (child i)) → M (some field) v)
    {v : Json} (hheld : Held v) (field : Option FieldMeta) : M field v := by
  induction hheld generalizing field with
  | @arr l hlen hitems ih =>
    have hheld : Held (.arr l) := .arr hlen hitems
    cases field with
    | none => exact undeclared _ hheld
    | some field =>
      obtain hleaf | ⟨_, heq, -⟩ | ⟨l', heq, hne, hleaves⟩ := leaf_or_container hheld
      · exact leaf field _ hleaf
      · cases heq
      · obtain rfl := Json.arr.inj heq
        by_cases harray : field.type = .array
        · exact descends field _ _ _ _ (descends_arr harray hleaves) fun i =>
            ih l[i] (List.getElem_mem i.isLt) field.items
        · exact refuses field _ (refuses_arr hne harray) hheld
  | @obj m hsorted hmembers ih =>
    have hheld : Held (.obj m) := .obj hsorted hmembers
    cases field with
    | none => exact undeclared _ hheld
    | some field =>
      obtain hleaf | ⟨m', heq, hne, hleaves⟩ | ⟨_, heq, -⟩ := leaf_or_container hheld
      · exact leaf field _ hleaf
      · obtain rfl := Json.obj.inj heq
        by_cases hobject : field.type = .object
        · exact descends field _ _ _ _ (descends_obj hobject hleaves) fun member =>
            ih member.1.1 member.1.2 member.2 _
        · exact refuses field _ (refuses_obj hne hobject) hheld
      · cases heq
  | null => cases field <;> first | exact undeclared _ .null | exact leaf _ _ (by simp [IsLeaf])
  | bool b =>
    cases field <;> first | exact undeclared _ (.bool b) | exact leaf _ _ (by simp [IsLeaf])
  | num q =>
    cases field <;> first | exact undeclared _ (.num q) | exact leaf _ _ (by simp [IsLeaf])
  | str s =>
    cases field <;> first | exact undeclared _ (.str s) | exact leaf _ _ (by simp [IsLeaf])

/-- All leaves are read as they were, or some leaf is refused and some value that the declarations
reach has the wrong type. -/
def TypedOrBad (qt : SchemaQt) (field : Option FieldMeta) (v : Json) : Prop :=
  (∀ e ∈ leaves v, typed qt field e = .ok e.2) ∨
  ((∃ e ∈ leaves v, ∃ error, typed qt field e = .error error) ∧
    ∃ g w, Routed field v g w ∧ ¬ TypeChecked g.type w)

theorem TypedOrBad.leaf {v : Json} {field : FieldMeta} (hleaf : IsLeaf v) (hqt : SchemaReads qt v)
    (hkept : Kept field v) (htext : Textual field v) : TypedOrBad qt (some field) v := by
  have hleaves := leaves_eq_self hleaf
  obtain hok | ⟨⟨error, herror⟩, hbad⟩ := resolveFieldValue_leaf hleaf hqt hkept htext
  · refine Or.inl ?_
    intro e he
    rw [hleaves] at he
    rw [List.mem_singleton.mp he]
    exact hok
  · refine Or.inr ⟨⟨([], v), ?_, error, herror⟩, field, v, .here field v, hbad⟩
    rw [hleaves]
    simp

theorem TypedOrBad.refuses {v : Json} {field : FieldMeta} (hheld : Held v)
    (h : Refuses field v) (hkept : Kept field v) : TypedOrBad qt (some field) v := by
  obtain ⟨e, he⟩ := List.exists_mem_of_ne_nil _ (leaves_ne_nil v)
  obtain ⟨s, e', rfl⟩ := path_ne_nil hheld h.notLeaf he
  obtain ⟨error, hsegment⟩ := h.error s e' he
  refine Or.inr ⟨⟨_, he, error, typed_error hsegment e'⟩, field, v, .here field v, ?_⟩
  exact h.badType fun hany => h.notLeaf (hkept.any hany)

theorem TypedOrBad.descends {v : Json} {field : FieldMeta} {ι : Type} {segment : ι → CliPathSegment}
    {next : ι → Option FieldMeta} {child : ι → Json} (h : Descends field v segment next child)
    (ih : ∀ i, TypedOrBad qt (next i) (child i)) : TypedOrBad qt (some field) v := by
  by_cases hall : ∀ i, ∀ e ∈ leaves (child i), typed qt (next i) e = .ok e.2
  · refine Or.inl ?_
    intro e he
    obtain ⟨i, e', he', rfl⟩ := (h.split e).mp he
    rw [typed_step (h.resolves i), hall i e' he']
    rfl
  · obtain ⟨i, hi⟩ := not_forall.mp hall
    obtain hok | ⟨⟨e, he, error, herror⟩, g, w, hplace, hbad⟩ := ih i
    · exact absurd hok hi
    · refine Or.inr ⟨⟨_, h.mem he, error, ?_⟩, g, w, h.routed i g w hplace, hbad⟩
      rw [typed_step (h.resolves i)]
      exact herror

/-- **All leaves.**  Where the declarations keep what they reach, every leaf is read as it was, or
some leaf is refused and some value has the wrong type. -/
theorem typed_or_bad {v : Json} (hheld : Held v) (field : Option FieldMeta)
    (hqt : ∀ e ∈ leaves v, SchemaReads qt e.2)
    (hkept : ∀ g w, Routed field v g w → Kept g w ∧ Textual g w) : TypedOrBad qt field v := by
  revert hqt hkept
  apply routed_ind _ _ _ _ hheld field
  · intro v hheld hqt _
    exact Or.inl fun e he => typed_none (isLeaf_of_mem hheld e he) (hqt e he)
  · intro field v hleaf hqt hkept
    obtain ⟨hk, ht⟩ := hkept field v (.here field v)
    exact .leaf hleaf (hqt ([], v) (by rw [leaves_eq_self hleaf]; simp)) hk ht
  · intro field v hrefuses hheld _ hkept
    exact .refuses hheld hrefuses (hkept field v (.here field v)).1
  · intro field v ι segment next child hdescends ih hqt hkept
    apply TypedOrBad.descends hdescends
    intro i
    apply ih i
    · intro e he
      exact hqt (above _ _) (hdescends.mem he)
    · intro g w hroute
      exact hkept g w (hdescends.routed i g w hroute)

/-- A leaf that is read ends at a place of its own, or without a declaration. -/
theorem typed_resolved {v : Json} (hheld : Held v) (field : Option FieldMeta)
    (hqt : ∀ e ∈ leaves v, SchemaReads qt e.2) {e : CliPath × Json} (he : e ∈ leaves v) {t : Json}
    (hok : typed qt field e = .ok t) :
    t = e.2 ∨ ∃ g, Routed field v g e.2 ∧
      resolveFieldValue qt (literalText qt.toJsonQt e.2) (some g) = .ok t := by
  revert hqt e
  apply routed_ind (M := fun field v => (∀ e ∈ leaves v, SchemaReads qt e.2) →
    ∀ {e : CliPath × Json}, e ∈ leaves v → typed qt field e = .ok t →
      t = e.2 ∨ ∃ g, Routed field v g e.2 ∧
        resolveFieldValue qt (literalText qt.toJsonQt e.2) (some g) = .ok t) _ _ _ _ hheld field
  · intro v hheld hqt e he hok
    rw [typed_none (isLeaf_of_mem hheld e he) (hqt e he)] at hok
    exact Or.inl (Except.ok.inj hok).symm
  · intro field v hleaf hqt e he hok
    rw [leaves_eq_self hleaf] at he
    obtain rfl := List.mem_singleton.mp he
    exact Or.inr ⟨field, .here field v, hok⟩
  · intro field v hrefuses hheld hqt e he hok
    obtain ⟨s, e', rfl⟩ := path_ne_nil hheld hrefuses.notLeaf he
    obtain ⟨error, herror⟩ := hrefuses.error s e' he
    rw [typed_error herror] at hok
    cases hok
  · intro field v ι segment next child hdescends ih hqt e he hok
    obtain ⟨i, e', he', rfl⟩ := (hdescends.split e).mp he
    rw [typed_step (hdescends.resolves i)] at hok
    obtain heq | ⟨g, hroute, hvalue⟩ := ih i (fun e he => hqt (above _ _) (hdescends.mem he)) he' hok
    · exact Or.inl heq
    · exact Or.inr ⟨g, hdescends.routed i g _ hroute, hvalue⟩

/-- **What is kept.**  Where every leaf is read as it was, the declarations keep what they reach. -/
theorem kept_of_typed {field : Option FieldMeta} {v : Json} {g : FieldMeta} {w : Json}
    (hroute : Routed field v g w) (hheld : Held v) (hqt : ∀ e ∈ leaves v, SchemaReads qt e.2)
    (hok : ∀ e ∈ leaves v, typed qt field e = .ok e.2) : Kept g w := by
  induction hroute with
  | here field v =>
    refine ⟨?_, ?_, ?_⟩
    · intro hany
      by_contra hleaf
      -- no step leads into the value
      obtain ⟨e, he⟩ := List.exists_mem_of_ne_nil _ (leaves_ne_nil v)
      obtain ⟨s, e', rfl⟩ := path_ne_nil hheld hleaf he
      have hstep := hok _ he
      rw [typed_error (by unfold resolveSegment; rw [hany])] at hstep
      cases hstep
    · intro hdouble q hv
      subst hv
      have hleaf : IsLeaf (.num q) := by simp [IsLeaf]
      have hread := hok ([], .num q) (by simp [leaves])
      have htyped : typed qt (some field) ([], .num q) =
          parseDoubleValue qt (literalText qt.toJsonQt (.num q)) := by
        rw [typed_here]
        unfold resolveFieldValue
        dsimp only
        rw [hdouble]
      rw [htyped] at hread
      obtain ⟨hread', -⟩ | ⟨⟨error, herror⟩, -⟩ :=
        parseDoubleValue_leaf hleaf (hqt ([], .num q) (by simp [leaves]))
      · rw [hread'] at hread
        exact Json.num.inj (Except.ok.inj hread)
      · rw [herror] at hread
        cases hread
    · intro hint64 htype
      obtain ⟨⟨q, rfl⟩, -⟩ := htype
      have hleaf : IsLeaf (.num q) := by simp [IsLeaf]
      have hread := hok ([], .num q) (by simp [leaves])
      have htyped : typed qt (some field) ([], .num q) =
          parseSafeInt64Value (literalText qt.toJsonQt (.num q)) := by
        rw [typed_here]
        unfold resolveFieldValue
        dsimp only
        rw [hint64]
      rw [htyped] at hread
      obtain ⟨-, hint⟩ | ⟨⟨error, herror⟩, -⟩ :=
        parseSafeInt64Value_leaf hleaf (hqt ([], .num q) (by simp [leaves]))
      · exact hint
      · rw [herror] at hread
        cases hread
  | @member field g m key w u hobject hmem _ ih =>
    have hleaves : leaves (.obj m) = memberLeaves m := by
      simp [leaves, List.ne_nil_of_mem hmem]
    have hdescends := descends_obj hobject hleaves
    cases hheld with
    | obj _ hheld =>
      apply ih (hheld key w hmem)
      · intro e he
        exact hqt (above _ _) (hdescends.mem (i := ⟨(key, w), hmem⟩) he)
      · intro e he
        have hstep := hok _ (hdescends.mem (i := ⟨(key, w), hmem⟩) he)
        rw [typed_step (hdescends.resolves ⟨(key, w), hmem⟩)] at hstep
        exact hstep
  | @item field g l w u harray hmem _ ih =>
    have hleaves : leaves (.arr l) = itemLeaves 0 l := by
      simp [leaves, List.ne_nil_of_mem hmem]
    have hdescends := descends_arr harray hleaves
    obtain ⟨i, hi, rfl⟩ := List.getElem_of_mem hmem
    cases hheld with
    | arr _ hheld =>
      apply ih (hheld _ hmem)
      · intro e he
        exact hqt (above _ _) (hdescends.mem (i := ⟨i, hi⟩) he)
      · intro e he
        have hstep := hok _ (hdescends.mem (i := ⟨i, hi⟩) he)
        rw [typed_step (hdescends.resolves ⟨i, hi⟩)] at hstep
        exact hstep

end Paths

/-! ## §5. The parser on the rendered arguments -/

/-- The places in the members of an object that the parser reads by a declaration. -/
def Reached (fields : List FieldMeta) (data : List (String × Json)) (g : FieldMeta) (w : Json) :
    Prop :=
  ∃ key v, (key, v) ∈ data ∧ Routed (findFieldByName fields key) v g w

/-- The declaration of an object with the fields. -/
def rootField (fields : List FieldMeta) : FieldMeta := { type := .object, fields := fields }

theorem Reached.of_root {fields : List FieldMeta} {data : List (String × Json)} {g : FieldMeta}
    {w : Json} (h : Routed (some (rootField fields)) (.obj data) g w) :
    g = rootField fields ∧ w = .obj data ∨ Reached fields data g w := by
  cases h with
  | here => exact Or.inl ⟨rfl, rfl⟩
  | member _ hmem hroute => exact Or.inr ⟨_, _, hmem, hroute⟩

theorem Reached.root {fields : List FieldMeta} {data : List (String × Json)} {g : FieldMeta}
    {w : Json} (h : Reached fields data g w) : Routed (some (rootField fields)) (.obj data) g w := by
  obtain ⟨key, v, hmem, hroute⟩ := h
  exact .member rfl hmem hroute

theorem mem_of_findFieldByName {fields : List FieldMeta} {name : String} {f : FieldMeta}
    (h : findFieldByName fields name = some f) : f ∈ fields ∧ f.name = name :=
  ⟨List.mem_of_find?_eq_some h, by simpa using List.find?_some h⟩

/-- A place that is read by a declaration is one that it reaches. -/
theorem Routed.place {field : Option FieldMeta} {v w : Json} {g : FieldMeta}
    (h : Routed field v g w) (hheld : Held v) : ∀ f, field = some f → Place f v g w := by
  induction h with
  | here field v =>
    intro f hf
    obtain rfl := Option.some.inj hf
    exact .here field v
  | @member field g m key w u hobject hmem hroute ih =>
    intro f hf
    obtain rfl := Option.some.inj hf
    cases hheld with
    | obj hsorted hheld =>
      cases hnext : findFieldByName field.fields key with
      | none =>
        rw [hnext] at hroute
        cases hroute
      | some next =>
        obtain ⟨hmemf, rfl⟩ := mem_of_findFieldByName hnext
        exact .member hobject hmemf (hsorted.lookup_of_mem hmem) (ih (hheld _ w hmem) next hnext)
  | @item field g l w u harray hmem hroute ih =>
    intro f hf
    obtain rfl := Option.some.inj hf
    cases hheld with
    | arr _ hheld =>
      cases hnext : field.items with
      | none =>
        rw [hnext] at hroute
        cases hroute
      | some next => exact .item harray hnext hmem (ih (hheld w hmem) next hnext)

/-- What the validator accepts has the right type wherever the parser reads it. -/
theorem checked_of_accepted {vqt : ValidatorQt} {fields : List FieldMeta}
    {data : List (String × Json)} (hdata : Held (.obj data))
    (haccepted : (validateObject vqt data fields [] true).valid = true) {g : FieldMeta} {w : Json}
    (h : Reached fields data g w) : CheckedHere vqt g w := by
  obtain ⟨key, v, hmem, hroute⟩ := h
  cases hdata with
  | obj hsorted hheld =>
    cases hf : findFieldByName fields key with
    | none =>
      rw [hf] at hroute
      cases hroute
    | some f =>
      obtain ⟨hmemf, rfl⟩ := mem_of_findFieldByName hf
      have hfield := ((validateObject_valid vqt data fields [] true).mp haccepted).1 f hmemf
      have hvalid := hfield.present v (hsorted.lookup_of_mem hmem)
      exact (validateField_iff vqt f v).mp hvalid g w (hroute.place (hheld _ v hmem) f hf)

section Run

variable {qt : SchemaQt} {fields : List FieldMeta} {data : List (String × Json)}

/-- `canonicalLiteral` takes the brackets off, too. -/
theorem canonicalLiteral_reads {v : Json} (h : ReadsBack qt.toJsonQt v) :
    parseJsonLiteral qt.toJsonQt (canonicalLiteral qt.toJsonQt v) = some v := by
  obtain ⟨text, htext⟩ := h.brackets
  have hliteral : canonicalLiteral qt.toJsonQt v = text := by
    rw [canonicalLiteral, htext]
    exact brackets_off text
  rw [hliteral, parseJsonLiteral, ← htext, h.parses]

/-- The declaration for a path with a key in front, from the root. -/
theorem resolveFieldMetaByPath_key (key : String) (path : CliPath) :
    resolveFieldMetaByPath fields (.key key :: path) =
      resolveTail (rootField fields) (.key key :: path) := by
  rw [resolveFieldMetaByPath, resolveTail, resolveSegment_object rfl]
  have hfields : (rootField fields).fields = fields := rfl
  rw [hfields]
  cases findFieldByName fields key <;> rfl

/-- One rendered argument. -/
theorem typedArg_rendered (hdata : Held (.obj data)) {e : CliPath × Json}
    (he : e ∈ memberLeaves data) :
    (∀ t, typed qt (some (rootField fields)) e = .ok t →
      typedArg qt fields ⟨renderPath e.1, literalText qt.toJsonQt e.2⟩ =
        .ok ⟨renderPath e.1, canonicalLiteral qt.toJsonQt t⟩) ∧
    (∀ error, typed qt (some (rootField fields)) e = .error error → ∃ error',
      typedArg qt fields ⟨renderPath e.1, literalText qt.toJsonQt e.2⟩ = .error error') := by
  obtain ⟨key, v, e', hmem, he', rfl⟩ := mem_memberLeaves.mp he
  cases hdata with
  | obj _ hheld =>
    have hpath : parsePath (renderPath (above (.key key) e').1) = .ok (.key key :: e'.1) :=
      parsePath_renderPath key e'.1 (indexFits_leaves (hheld key v hmem) e' he')
    rw [typedArg]
    dsimp only
    rw [hpath]
    dsimp only
    rw [resolveFieldMetaByPath_key, typed, above_path, above_value]
    cases resolveTail (rootField fields) (.key key :: e'.1) with
    | error error =>
      refine ⟨fun t h => (by cases h), fun _ _ => ⟨error, rfl⟩⟩
    | ok field =>
      dsimp only [Except.bind]
      cases resolveFieldValue qt (literalText qt.toJsonQt e'.2) field with
      | error error =>
        refine ⟨fun t h => (by cases h), fun _ _ => ⟨_, rfl⟩⟩
      | ok value =>
        refine ⟨?_, fun _ h => (by cases h)⟩
        intro t ht
        rw [Except.ok.inj ht]

/-- The loop, where every leaf is read. -/
theorem typedArgs_ok (hdata : Held (.obj data)) {t : CliPath × Json → Json}
    {es : List (CliPath × Json)} (hes : ∀ e ∈ es, e ∈ memberLeaves data)
    (hok : ∀ e ∈ es, typed qt (some (rootField fields)) e = .ok (t e)) (i : Nat) :
    typedArgs qt fields i (es.map fun e => ⟨renderPath e.1, literalText qt.toJsonQt e.2⟩) =
      .ok (es.map fun e => ⟨renderPath e.1, canonicalLiteral qt.toJsonQt (t e)⟩) := by
  induction es generalizing i with
  | nil => rfl
  | cons e rest ih =>
    have hhead := (typedArg_rendered hdata (hes e (by simp))).1 (t e) (hok e (by simp))
    have hrest := ih (fun f hf => hes f (List.mem_cons_of_mem _ hf))
      (fun f hf => hok f (List.mem_cons_of_mem _ hf)) (i + 1)
    rw [List.map_cons, typedArgs, hhead]
    dsimp only
    rw [hrest]
    rfl

/-- The loop, where some leaf is refused. -/
theorem typedArgs_error (hdata : Held (.obj data)) {es : List (CliPath × Json)}
    (hes : ∀ e ∈ es, e ∈ memberLeaves data) {e : CliPath × Json} (he : e ∈ es) {error : String}
    (herror : typed qt (some (rootField fields)) e = .error error) (i : Nat) :
    ∃ error', typedArgs qt fields i
      (es.map fun e => ⟨renderPath e.1, literalText qt.toJsonQt e.2⟩) = .error error' := by
  induction es generalizing i with
  | nil => cases he
  | cons f rest ih =>
    have hhead := @typedArg_rendered qt fields data hdata f (hes f (by simp))
    rw [List.map_cons, typedArgs]
    cases hf : typed qt (some (rootField fields)) f with
    | error error' =>
      obtain ⟨error'', herror'⟩ := hhead.2 error' hf
      rw [herror']
      exact ⟨_, rfl⟩
    | ok t =>
      rw [hhead.1 t hf]
      dsimp only
      obtain rfl | he := List.mem_cons.mp he
      · rw [herror] at hf
        cases hf
      · obtain ⟨error', hrest⟩ := ih (fun g hg => hes g (List.mem_cons_of_mem _ hg)) he (i + 1)
        rw [hrest]
        exact ⟨_, rfl⟩

/-- A leaf that is refused makes the parser fail. -/
theorem parseArgs_error (hdata : Held (.obj data)) {e : CliPath × Json}
    (he : e ∈ memberLeaves data) {error : String}
    (herror : typed qt (some (rootField fields)) e = .error error) :
    ∃ error', parseArgs qt (renderedArgs qt.toJsonQt data) fields = .error error' := by
  obtain ⟨error', hrun⟩ := typedArgs_error hdata (fun _ h => h) he herror 0
  refine ⟨error', ?_⟩
  rw [parseArgs, renderedArgs, hrun]

/-- What was read parses again. -/
theorem parsed_typed (hdata : Held (.obj data)) {t : CliPath × Json → Json}
    (hread : ∀ e ∈ memberLeaves data, ReadsBack qt.toJsonQt (t e)) :
    Parsed qt.toJsonQt
      ((memberLeaves data).map fun e => ⟨renderPath e.1, canonicalLiteral qt.toJsonQt (t e)⟩)
      ((memberLeaves data).map fun e => (e.1, t e)) := by
  rw [Parsed, List.forall₂_map_left_iff, List.forall₂_map_right_iff, List.forall₂_same]
  intro e he
  refine ⟨?_, canonicalLiteral_reads (hread e he)⟩
  obtain ⟨key, v, e', hmem, he', rfl⟩ := mem_memberLeaves.mp he
  cases hdata with
  | obj _ hheld =>
    exact parsePath_renderPath key e'.1 (indexFits_leaves (hheld key v hmem) e' he')

/-- **Leaves that are read as they were** give the object back. -/
theorem parseArgs_of_typed (hdata : Held (.obj data))
    (hqt : ∀ e ∈ memberLeaves data, SchemaReads qt e.2)
    (hok : ∀ e ∈ memberLeaves data, typed qt (some (rootField fields)) e = .ok e.2) :
    parseArgs qt (renderedArgs qt.toJsonQt data) fields = .ok data := by
  have hparsed := parsed_typed (t := Prod.snd) hdata fun e he => (hqt e he).toReadsBack
  have hsame : (memberLeaves data).map (fun e => (e.1, e.2)) = memberLeaves data := by simp
  rw [hsame] at hparsed
  rw [parseArgs, renderedArgs, typedArgs_ok hdata (fun _ h => h) hok 0]
  dsimp only
  rw [parseArgs_leaves hdata hparsed .canonical]

/-- The value at the path of a leaf is what was read for it. -/
theorem read_eq_leaf (hdata : Held (.obj data)) {t : CliPath × Json → Json}
    (hheld : Holds ((memberLeaves data).map fun e => (e.1, t e)) (.obj data))
    {e : CliPath × Json} (he : e ∈ memberLeaves data) : t e = e.2 := by
  have hat : ∀ f ∈ memberLeaves data, jsonAt (.obj data) f.1 = some f.2 := by
    intro f hf
    apply jsonAt_leaf hdata
    rw [leaves_of_memberLeaf hf]
    exact hf
  have hvalue := hat e he
  -- all that was read for this path was read for this leaf
  have hall : ∀ w ∈ valuesAt e.1 ((memberLeaves data).map fun e => (e.1, t e)), w = t e := by
    intro w hw
    obtain ⟨f, hf, rfl⟩ := List.mem_map.mp hw
    obtain ⟨hf, hpath⟩ := List.mem_filter.mp hf
    obtain ⟨e', he', rfl⟩ := List.mem_map.mp hf
    have hpath : e'.1 = e.1 := of_decide_eq_true hpath
    have hvalue' := hat e' he'
    rw [hpath, hvalue] at hvalue'
    rw [Prod.ext hpath (Option.some.inj hvalue').symm]
  cases hlast : (valuesAt e.1 ((memberLeaves data).map fun e => (e.1, t e))).getLast? with
  | none =>
    have hnone := valuesAt_eq_nil.mp (List.getLast?_eq_none_iff.mp hlast) (e.1, t e)
      (List.mem_map.mpr ⟨e, he, rfl⟩)
    exact absurd rfl hnone
  | some w =>
    have hread := hheld.last_at (append_notMem_of_jsonAt hvalue) hlast
    rw [hvalue] at hread
    rw [← hall w (List.mem_of_getLast? hlast)]
    exact (Option.some.inj hread).symm

/-- A leaf that is read where the types are right is read as it was, or rounded to a double. -/
theorem reads_back_of_typed {v : Json} (hheld : Held v) {field : Option FieldMeta}
    (hqt : ∀ e ∈ leaves v, SchemaReads qt e.2)
    (htype : ∀ g w, Routed field v g w → TypeChecked g.type w) {e : CliPath × Json}
    (he : e ∈ leaves v) {t : Json} (hok : typed qt field e = .ok t) : ReadsBack qt.toJsonQt t := by
  have hleaf := isLeaf_of_mem hheld e he
  have hreads := hqt e he
  obtain rfl | ⟨g, hroute, hvalue⟩ := typed_resolved hheld field hqt he hok
  · exact hreads.toReadsBack
  · have hchecked := htype g e.2 hroute
    by_cases hdouble : g.type = .double
    · rw [hdouble] at hchecked
      obtain ⟨q, hq⟩ := hchecked
      have hround := hreads.rounded q hq
      unfold resolveFieldValue at hvalue
      dsimp only at hvalue
      rw [hdouble] at hvalue
      obtain ⟨hread, -⟩ | ⟨⟨error, herror⟩, -⟩ := parseDoubleValue_leaf hleaf hreads
      · rw [← Except.ok.inj (hread.symm.trans hvalue)]
        exact hround
      · rw [herror] at hvalue
        cases hvalue
    · -- any other type reads the leaf itself
      have hkept : g.type = .int64 → ∃ n : Int, e.2 = .num n ∧ n.natAbs ≤ 2 ^ 53 := by
        intro hint64
        unfold resolveFieldValue at hvalue
        dsimp only at hvalue
        rw [hint64] at hvalue
        obtain ⟨-, hint⟩ | ⟨⟨error, herror⟩, -⟩ := parseSafeInt64Value_leaf hleaf hreads
        · exact hint
        · rw [herror] at hvalue
          cases hvalue
      have htext : Textual g e.2 := by
        intro htext
        obtain ht | ht := htext <;> rw [ht] at hchecked <;> exact Or.inl hchecked
      have hsame := resolveFieldValue_leaf hleaf hreads
        ⟨fun _ => hleaf, fun h => absurd h hdouble, fun h _ => hkept h⟩ htext
      obtain hread | ⟨⟨error, herror⟩, -⟩ := hsame
      · rw [← Except.ok.inj (hread.symm.trans hvalue)]
        exact hreads.toReadsBack
      · rw [herror] at hvalue
        cases hvalue

end Run

/-- Where the object comes back, every leaf was read as it was. -/
theorem typed_of_parseArgs {qt : SchemaQt} {fields : List FieldMeta} {data : List (String × Json)}
    (hdata : Held (.obj data)) (hne : data ≠ [])
    (hqt : ∀ e ∈ memberLeaves data, SchemaReads qt e.2)
    (htype : ∀ g w, Reached fields data g w → TypeChecked g.type w)
    (hparse : parseArgs qt (renderedArgs qt.toJsonQt data) fields = .ok data) :
    ∀ e ∈ memberLeaves data, typed qt (some (rootField fields)) e = .ok e.2 := by
  have hleaves := leaves_obj hne
  have hroot : ∀ g w, Routed (some (rootField fields)) (.obj data) g w → TypeChecked g.type w := by
    intro g w hroute
    obtain ⟨rfl, rfl⟩ | hreached := Reached.of_root hroute
    · exact ⟨data, rfl⟩
    · exact htype g w hreached
  have hread : ∀ e ∈ memberLeaves data, ∃ t, typed qt (some (rootField fields)) e = .ok t := by
    intro e he
    cases htyped : typed qt (some (rootField fields)) e with
    | ok t => exact ⟨t, rfl⟩
    | error error =>
      obtain ⟨error', herror⟩ := parseArgs_error hdata he htyped
      rw [herror] at hparse
      cases hparse
  have hnonempty : Nonempty Json := ⟨.null⟩
  choose! t ht using hread
  have hback : ∀ e ∈ memberLeaves data, ReadsBack qt.toJsonQt (t e) := by
    intro e he
    rw [← hleaves] at he hqt
    exact reads_back_of_typed hdata hqt hroot he (ht e (hleaves ▸ he))
  rw [parseArgs, renderedArgs, typedArgs_ok hdata (fun _ h => h) ht 0] at hparse
  dsimp only at hparse
  obtain ⟨out, hok, -, hheld⟩ | ⟨⟨error, herror⟩, -⟩ :=
    parseArgs_decided (parsed_typed hdata hback) .canonical
  · rw [hok] at hparse
    obtain rfl := Except.ok.inj hparse
    intro e he
    rw [ht e he, read_eq_leaf hdata hheld he]
  · rw [herror] at hparse
    cases hparse

/-- **The rendered arguments of an object.**  Where the declarations keep what they read, the object
comes back, or the arguments are refused and some value that is read has the wrong type. -/
theorem parseArgs_or_bad {qt : SchemaQt} {fields : List FieldMeta} {data : List (String × Json)}
    (hdata : Held (.obj data)) (hqt : ∀ e ∈ memberLeaves data, SchemaReads qt e.2)
    (hkept : ∀ g w, Reached fields data g w → Kept g w ∧ Textual g w) :
    parseArgs qt (renderedArgs qt.toJsonQt data) fields = .ok data ∨
    ((∃ error, parseArgs qt (renderedArgs qt.toJsonQt data) fields = .error error) ∧
      ∃ g w, Reached fields data g w ∧ ¬ TypeChecked g.type w) := by
  by_cases hne : data = []
  · subst hne
    refine Or.inl (parseArgs_of_typed hdata hqt ?_)
    intro e he
    cases he
  have hleaves := leaves_obj hne
  rw [← hleaves] at hqt
  -- at the root there is an object, as it should be
  have hroot : ∀ g w, Routed (some (rootField fields)) (.obj data) g w → Kept g w ∧ Textual g w := by
    intro g w hroute
    obtain ⟨rfl, rfl⟩ | hreached := Reached.of_root hroute
    · refine ⟨⟨?_, ?_, ?_⟩, ?_⟩
      · intro h
        cases h
      · intro h
        cases h
      · intro h
        cases h
      · intro h
        obtain h | h := h <;> cases h
    · exact hkept g w hreached
  obtain hall | ⟨⟨e, he, error, herror⟩, g, w, hroute, hbad⟩ :=
    typed_or_bad hdata (some (rootField fields)) hqt hroot
  · rw [hleaves] at hall hqt
    exact Or.inl (parseArgs_of_typed hdata hqt hall)
  · rw [hleaves] at he
    refine Or.inr ⟨?_, g, w, ?_, hbad⟩
    · obtain ⟨error', hparse⟩ := parseArgs_error hdata he herror
      exact ⟨error', hparse⟩
    · obtain ⟨rfl, rfl⟩ | hreached := Reached.of_root hroute
      · exact absurd ⟨data, rfl⟩ hbad
      · exact hreached

/-- **Which accepted objects come back.**  The rendered arguments of an object that the validator
accepts give the object exactly if the declarations keep every value that they read. -/
theorem parseArgs_data_iff (qt : SchemaQt) (vqt : ValidatorQt) (fields : List FieldMeta)
    (data : List (String × Json)) (hdata : Held (.obj data))
    (hqt : ∀ e ∈ memberLeaves data, SchemaReads qt e.2)
    (haccepted : (validateObject vqt data fields [] true).valid = true) :
    parseArgs qt (renderedArgs qt.toJsonQt data) fields = .ok data ↔
      ∀ g w, Reached fields data g w → Kept g w := by
  have htype : ∀ g w, Reached fields data g w → TypeChecked g.type w :=
    fun g w hreached => (checked_of_accepted hdata haccepted hreached).type
  constructor
  · intro hparse g w hreached
    have hne : data ≠ [] := by
      obtain ⟨key, v, hmem, -⟩ := hreached
      exact List.ne_nil_of_mem hmem
    have hleaves := leaves_obj hne
    have htyped := typed_of_parseArgs hdata hne hqt htype hparse
    rw [← hleaves] at htyped hqt
    exact kept_of_typed hreached.root hdata hqt htyped
  · intro hkept
    have htextual : ∀ g w, Reached fields data g w → Kept g w ∧ Textual g w := by
      intro g w hreached
      refine ⟨hkept g w hreached, ?_⟩
      have hchecked := htype g w hreached
      intro htext
      obtain ht | ht := htext <;> rw [ht] at hchecked <;> exact Or.inl hchecked
    obtain hok | ⟨-, g, w, hreached, hbad⟩ := parseArgs_or_bad hdata hqt htextual
    · exact hok
    · exact absurd (htype g w hreached) hbad

/-- A Qt that knows the text of seven. -/
def sevenQt : SchemaQt :=
  { tableQt [(.num 7, "[7]")] with toDouble := fun text => if text = ['7'] then some 7 else none }

theorem sevenQt_reads : SchemaReads sevenQt (.num 7) := by
  have htext : sevenQt.toJson [.num 7] = "[" ++ "7" ++ "]" := rfl
  have hback : ReadsBack sevenQt.toJsonQt (.num 7) :=
    tableQt_readsBack "7" rfl rfl (by simp) (by simp) (by simp)
  have hround : Json.toDouble (.num 7) = 7 := by decide +kernel
  have hseven : toString (7 : Int) = "7" := rfl
  refine ⟨hback, ?_, ?_, ?_, ?_, ?_⟩
  · intro b
    rw [htext]
    cases b <;> simp
  · intro n hn _
    have h7 : (7 : Int) = n := Rat.intCast_inj.mp (Json.num.inj hn)
    rw [htext, ← h7, hseven]
  · intro text lo hi n htext' hread
    obtain rfl := bracket_inj (htext.symm.trans htext')
    rw [← hseven, toBoundedInt_toString] at hread
    split at hread
    · rw [← Option.some.inj hread]
      rfl
    · cases hread
  · intro text d htext'
    obtain rfl := bracket_inj (htext.symm.trans htext')
    rw [hround]
    show some 7 = some d ↔ _
    simp [eq_comm]
  · intro q _
    rw [hround]
    exact hback

theorem held_seven : Held (.obj [("n", .num 7)]) := by
  refine .obj (by simp [Json.Sorted]) ?_
  intro key v hmem
  obtain ⟨-, rfl⟩ := Prod.mk.inj (List.mem_singleton.mp hmem)
  exact .num 7

theorem sevenQt_reads_leaves : ∀ e ∈ memberLeaves [("n", .num 7)], SchemaReads sevenQt e.2 := by
  intro e he
  have hleaves : memberLeaves [("n", .num 7)] = [([.key "n"], .num 7)] := rfl
  rw [hleaves] at he
  rw [List.mem_singleton.mp he]
  exact sevenQt_reads

theorem kept_seven : ∀ g w, Reached [{ name := "n", type := .int64 }] [("n", .num 7)] g w →
    Kept g w := by
  intro g w hreached
  obtain ⟨key, v, hmem, hroute⟩ := hreached
  obtain ⟨rfl, rfl⟩ := Prod.mk.inj (List.mem_singleton.mp hmem)
  have hfield : findFieldByName [{ name := "n", type := .int64 }] "n" =
      some { name := "n", type := .int64 } := rfl
  rw [hfield] at hroute
  cases hroute
  refine ⟨?_, ?_, fun _ _ => ⟨7, rfl, by decide⟩⟩
  · intro h
    cases h
  · intro h
    cases h

/-- An int64 comes back. -/
theorem int64_comes_back :
    parseArgs sevenQt (renderedArgs sevenQt.toJsonQt [("n", .num 7)])
      [{ name := "n", type := .int64 }] = .ok [("n", .num 7)] :=
  (parseArgs_data_iff sevenQt plainQt [{ name := "n", type := .int64 }] [("n", .num 7)]
    held_seven sevenQt_reads_leaves (by decide +kernel)).mpr kept_seven

/-- A field that may hold any value holds an object, which the validator accepts; its rendered
argument is refused. -/
theorem object_in_any_refused :
    (validateObject plainQt [("x", .obj [("y", .num 7)])] [{ name := "x", type := .any }] []
      true).valid = true ∧
    parseArgs sevenQt (renderedArgs sevenQt.toJsonQt [("x", .obj [("y", .num 7)])])
      [{ name := "x", type := .any }] = .error ⟨"path exceeds scalar field: x", 0⟩ :=
  ⟨by decide +kernel, rfl⟩

end CliSchemaParser

end Stdiolink.Cli
