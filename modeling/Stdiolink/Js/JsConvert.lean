/-
  Stdiolink.Js.JsConvert — JSON values as values of JavaScript and back, `utils/js_convert.cpp`.

  Strings go to the script by their length and come back as C strings.  Keys are C strings in both
  directions, and members are set by assignment: a `__proto__` becomes the prototype of the object,
  where it still decides what later assignments find.  Strings and keys are Unicode texts.

  Main results:
    * `fromUtf8_toCString`   — what of a text comes back;
    * `conv_members`         — the object of members whose keys have no NUL;
    * `round_trip_iff`       — which values survive.
-/
import Stdiolink.Lib.PropertyOrder
import Stdiolink.Lib.Utf8
import Stdiolink.Protocol.Doubles

namespace Stdiolink.Js

open Stdiolink.Lib
open Stdiolink.Lib.FloatFormat
open Stdiolink.Protocol
open Stdiolink.Protocol.Json

/-! ## §1. Values of JavaScript -/

/-- A value that a script is given.  An object has a prototype, which is null or an object, and its
own properties in their order. -/
inductive JsValue where
  | undefined
  | null
  | bool (b : Bool)
  | num (q : ℚ)
  | str (s : String)
  | arr (items : List JsValue)
  | obj (proto : JsValue) (props : List (String × JsValue))
  /-- `Object.prototype`. -/
  | objectPrototype

namespace JsValue

/-- `JS_NewObject`. -/
def newObject : JsValue := obj objectPrototype []

/-- What an assignment finds. -/
inductive Found where
  | data
  | setter
  | nothing
  deriving DecidableEq

/-- What an assignment to `__proto__` finds, from this object of the chain on. -/
def findProto : JsValue → Found
  | obj proto props => if "__proto__" ∈ props.map Prod.fst then .data else findProto proto
  -- the chain of an array ends with `Object.prototype` too
  | arr _ | objectPrototype => .setter
  | _ => .nothing

/-- `obj.__proto__ = value`: the setter of `Object.prototype` takes an object or null, and ignores
the rest. -/
def setProto (proto : JsValue) (props : List (String × JsValue)) (value : JsValue) : JsValue :=
  if "__proto__" ∈ props.map Prod.fst then
    obj proto (props.map fun prop => if prop.1 = "__proto__" then ("__proto__", value) else prop)
  else
    match findProto proto with
    | .setter =>
      match value with
      | null | arr _ | obj _ _ | objectPrototype => obj value props
      | _ => obj proto props
    | _ => obj proto (props ++ [("__proto__", value)])

/-- `obj[key] = value`.  Of the properties that a chain can have, only `__proto__` has a setter. -/
def setProperty (target : JsValue) (key : String) (value : JsValue) : JsValue :=
  match target with
  | obj proto props =>
    if key = "__proto__" then setProto proto props value else obj proto (assign props key value)
  | _ => target

/-- `value[key]`, on objects, for a key that no built-in prototype has. -/
def getProperty (key : String) : JsValue → JsValue
  | obj proto props => ((props.lookup key).getD (getProperty key proto))
  | _ => undefined

/-- `value === null`. -/
def isNull : JsValue → Bool
  | null => true
  | _ => false

theorem isNull_iff {v : JsValue} : v.isNull = true ↔ v = null := by
  cases v <;> simp [isNull]

instance (v : JsValue) : Decidable (v = null) := decidable_of_iff _ isNull_iff

/-- The value counts as true. -/
def truthy : JsValue → Bool
  | undefined | null => false
  | bool b => b
  | num q => q ≠ 0
  | str s => s ≠ ""
  | _ => true

end JsValue

/-! ## §2. The conversions -/

/-- `JS_NewStringLen`, of UTF-8. -/
def newStringLen (bytes : List UInt8) : String := (Utf8.decode? bytes).getD ""

/-- The name of `JS_SetPropertyStr`. -/
def newAtom (bytes : List UInt8) : String := newStringLen (cString bytes)

/-- `JS_ToCString` and `JS_AtomToCString`, up to the first NUL. -/
def toCString (s : String) : List UInt8 := cString (Utf8.encode s.toList)

/-- `QString::fromUtf8`, of UTF-8. -/
def fromUtf8 (bytes : List UInt8) : String :=
  String.ofList (Utf8.dropByteOrderMark (newStringLen bytes).toList)

mutual

def qjsonToJsValue : Json → JsValue
  | .undefined => .null
  | .null => .null
  | .bool b => .bool b
  | .num q => .num (Json.num q).toDouble
  | .str s => .str (newStringLen (Utf8.encode s.toList))
  | .arr items => .arr (qjsonArrayToJsValue items)
  | .obj members => qjsonObjectToJsValue .newObject members

def qjsonArrayToJsValue : List Json → List JsValue
  | [] => []
  | item :: items => qjsonToJsValue item :: qjsonArrayToJsValue items

/-- The loop of `qjsonObjectToJsValue`. -/
def qjsonObjectToJsValue (jsObj : JsValue) : List (String × Json) → JsValue
  | [] => jsObj
  | (key, value) :: members =>
    qjsonObjectToJsValue
      (jsObj.setProperty (newAtom (Utf8.encode key.toList)) (qjsonToJsValue value)) members

end

mutual

def jsValueToQJson : JsValue → Json
  | .undefined => .null
  | .null => .null
  | .bool b => .bool b
  | .num q => .num q
  | .str s => .str (fromUtf8 (toCString s))
  | .arr items => .arr (jsArrayToQJson items)
  | .obj _ props => .obj (jsValueToQJsonObject [] props)
  -- its own properties are not enumerable
  | .objectPrototype => .obj []

def jsArrayToQJson : List JsValue → List Json
  | [] => []
  | item :: items => jsValueToQJson item :: jsArrayToQJson items

/-- The loop of `jsValueToQJsonObject`. -/
def jsValueToQJsonObject (out : List (String × Json)) :
    List (String × JsValue) → List (String × Json)
  | [] => out
  | (key, value) :: props =>
    jsValueToQJsonObject (Json.insert out (fromUtf8 (toCString key)) (jsValueToQJson value)) props

end

/-- There and back. -/
def roundTrip (v : Json) : Json := jsValueToQJson (qjsonToJsValue v)

/-! ## §3. Texts -/

theorem newStringLen_encode (s : String) : newStringLen (Utf8.encode s.toList) = s := by
  unfold newStringLen
  rw [Utf8.decode?_encode, Option.getD_some, String.ofList_toList]

/-- A name is the key up to its first NUL. -/
theorem newAtom_encode (key : String) :
    newAtom (Utf8.encode key.toList) = String.ofList (key.toList.takeWhile (· ≠ '\x00')) := by
  unfold newAtom newStringLen
  rw [Utf8.cString_encode, Utf8.decode?_encode]
  rfl

/-- **What of a text comes back**: what is before the first NUL, without a byte order mark. -/
theorem fromUtf8_toCString (s : String) :
    fromUtf8 (toCString s) =
      String.ofList (Utf8.dropByteOrderMark (s.toList.takeWhile (· ≠ '\x00'))) := by
  unfold fromUtf8 toCString newStringLen
  rw [Utf8.cString_encode, Utf8.decode?_encode, Option.getD_some, String.toList_ofList]

/-- Nothing of the text is cut off. -/
def Whole (s : String) : Prop := '\x00' ∉ s.toList ∧ s.toList.head? ≠ some '\ufeff'

instance (s : String) : Decidable (Whole s) := inferInstanceAs (Decidable (_ ∧ _))

theorem fromUtf8_toCString_eq_iff {s : String} : fromUtf8 (toCString s) = s ↔ Whole s := by
  rw [fromUtf8_toCString]
  constructor
  · intro h
    refine (Utf8.cut_eq_self_iff s.toList).mp ?_
    conv_rhs => rw [← h]
    rw [String.toList_ofList]
  · intro h
    rw [(Utf8.cut_eq_self_iff s.toList).mpr h, String.ofList_toList]

variable {key : String} {props : List (String × JsValue)} {members entries : List (String × Json)}

/-- A whole key is its name. -/
theorem newAtom_whole (h : '\x00' ∉ key.toList) : newAtom (Utf8.encode key.toList) = key := by
  have htake : key.toList.takeWhile (· ≠ '\x00') = key.toList := by
    refine List.takeWhile_eq_self_iff.mpr fun c hc => ?_
    have hne : c ≠ '\x00' := fun heq => h (heq ▸ hc)
    simpa using hne
  rw [newAtom_encode, htake, String.ofList_toList]

/-- The key of a member, there and back. -/
def keyBack (key : String) : String := fromUtf8 (toCString (newAtom (Utf8.encode key.toList)))

/-- What comes back of a text is a part of it. -/
theorem fromUtf8_toCString_sublist (s : String) :
    (fromUtf8 (toCString s)).toList.Sublist s.toList := by
  rw [fromUtf8_toCString, String.toList_ofList]
  have htake := List.takeWhile_sublist (fun c : Char => decide (c ≠ '\x00')) (l := s.toList)
  unfold Utf8.dropByteOrderMark
  split
  · exact (List.tail_sublist _).trans htake
  · exact htake

theorem keyBack_eq (key : String) : keyBack key = fromUtf8 (toCString key) := by
  have hagain : ∀ text : List Char, (text.takeWhile (· ≠ '\x00')).takeWhile (· ≠ '\x00') =
      text.takeWhile (· ≠ '\x00') := by
    intro text
    rw [List.takeWhile_takeWhile]
    simp
  unfold keyBack
  rw [fromUtf8_toCString, fromUtf8_toCString, newAtom_encode, String.toList_ofList, hagain]

/-- A key comes back as it is, or shorter. -/
theorem keyBack_eq_or_lt (key : String) :
    keyBack key = key ∨ (keyBack key).length < key.length := by
  rw [keyBack_eq]
  have hsub := fromUtf8_toCString_sublist key
  rcases hsub.length_le.lt_or_eq with hlt | heq
  · exact .inr hlt
  · exact .inl (String.toList_inj.mp (hsub.eq_of_length heq))

/-! ## §4. Objects -/

/-- A member for the script. -/
def conv (member : String × Json) : String × JsValue := (member.1, qjsonToJsValue member.2)

theorem keys_conv (members : List (String × Json)) :
    (members.map conv).map Prod.fst = members.map Prod.fst := by
  rw [List.map_map]
  rfl

theorem setProperty_plain {proto value : JsValue} (h : key ≠ "__proto__") :
    (JsValue.obj proto props).setProperty key value = .obj proto (assign props key value) :=
  if_neg h

/-- The setter of `__proto__` changes no property. -/
theorem setProperty_proto (value : JsValue) (h : "__proto__" ∉ props.map Prod.fst) : ∃ proto,
    (JsValue.obj .objectPrototype props).setProperty "__proto__" value = .obj proto props := by
  show ∃ proto, JsValue.setProto .objectPrototype props value = .obj proto props
  unfold JsValue.setProto
  rw [if_neg h]
  cases value <;> exact ⟨_, rfl⟩

/-- **The object of members** whose keys have no NUL.  As long as there is no `__proto__` among the
members to come, the prototype may be any. -/
theorem conv_members_aux (hnul : ∀ key ∈ members.map Prod.fst, '\x00' ∉ key.toList)
    (hnodup : (members.map Prod.fst).Nodup) {proto : JsValue}
    (hproto : "__proto__" ∈ members.map Prod.fst →
      proto = .objectPrototype ∧ "__proto__" ∉ props.map Prod.fst) :
    ∃ proto', qjsonObjectToJsValue (.obj proto props) members =
      .obj proto' ((members.map conv).foldl (fun obj entry => assign obj entry.1 entry.2) props) := by
  induction members generalizing proto props with
  | nil => exact ⟨proto, rfl⟩
  | cons member rest ih =>
    obtain ⟨key, value⟩ := member
    rw [List.map_cons] at hnul hnodup hproto
    obtain ⟨hnew, hrest⟩ := List.nodup_cons.mp hnodup
    have hnul' : ∀ key ∈ rest.map Prod.fst, '\x00' ∉ key.toList :=
      fun key hkey => hnul key (List.mem_cons_of_mem _ hkey)
    rw [qjsonObjectToJsValue, newAtom_whole (hnul key List.mem_cons_self)]
    show ∃ proto', _ = JsValue.obj proto' ((rest.map conv).foldl _
      (assign props key (qjsonToJsValue value)))
    by_cases hkey : key = "__proto__"
    · subst hkey
      obtain ⟨rfl, hprops⟩ := hproto List.mem_cons_self
      obtain ⟨proto', hset⟩ := setProperty_proto (qjsonToJsValue value) hprops
      rw [hset, assign, if_pos rfl]
      exact ih hnul' hrest fun h => absurd h hnew
    · rw [setProperty_plain hkey]
      refine ih hnul' hrest fun h => ?_
      obtain ⟨hstill, hprops⟩ := hproto (List.mem_cons_of_mem _ h)
      refine ⟨hstill, fun hmem => ?_⟩
      rcases mem_names_assign.mp hmem with hmem | ⟨heq, -⟩
      · exact hprops hmem
      · exact hkey heq.symm

theorem conv_members (hnul : ∀ key ∈ members.map Prod.fst, '\x00' ∉ key.toList)
    (hnodup : (members.map Prod.fst).Nodup) :
    ∃ proto, qjsonToJsValue (.obj members) = .obj proto (ofEntries (members.map conv)) :=
  conv_members_aux hnul hnodup fun _ => ⟨rfl, List.not_mem_nil⟩

/-- Whatever the keys are, an assignment leaves the names that were there, and perhaps its own. -/
theorem setProperty_names (proto value : JsValue) (props : List (String × JsValue)) (key : String) :
    ∃ proto' props', (JsValue.obj proto props).setProperty key value = .obj proto' props' ∧
      ∀ name ∈ props'.map Prod.fst, name ∈ props.map Prod.fst ∨ name = key := by
  by_cases hkey : key = "__proto__"
  swap
  · refine ⟨proto, _, setProperty_plain hkey, fun name hname => ?_⟩
    exact (mem_names_assign.mp hname).imp_right And.left
  subst hkey
  show ∃ proto' props', JsValue.setProto proto props value = .obj proto' props' ∧ _
  unfold JsValue.setProto
  split
  · refine ⟨proto, _, rfl, fun name hname => ?_⟩
    obtain ⟨prop', hprop', rfl⟩ := List.mem_map.mp hname
    obtain ⟨prop, hprop, rfl⟩ := List.mem_map.mp hprop'
    by_cases hprop' : prop.1 = "__proto__"
    · rw [if_pos hprop']
      exact .inr rfl
    · rw [if_neg hprop']
      exact .inl (List.mem_map_of_mem hprop)
  · split
    · split <;> exact ⟨_, props, rfl, fun name hname => .inl hname⟩
    · refine ⟨proto, _, rfl, fun name hname => ?_⟩
      rw [List.map_append, List.mem_append] at hname
      exact hname.imp_right List.mem_singleton.mp

/-- So every property of a converted object has the name of a key. -/
theorem names_members (proto : JsValue) (props : List (String × JsValue))
    (members : List (String × Json)) :
    ∃ proto' props', qjsonObjectToJsValue (.obj proto props) members = .obj proto' props' ∧
      ∀ name ∈ props'.map Prod.fst, name ∈ props.map Prod.fst ∨
        ∃ key ∈ members.map Prod.fst, newAtom (Utf8.encode key.toList) = name := by
  induction members generalizing proto props with
  | nil => exact ⟨proto, props, rfl, fun name hname => .inl hname⟩
  | cons member rest ih =>
    obtain ⟨key, value⟩ := member
    obtain ⟨proto₁, props₁, hset, hnames₁⟩ :=
      setProperty_names proto (qjsonToJsValue value) props (newAtom (Utf8.encode key.toList))
    obtain ⟨proto₂, props₂, hrest, hnames₂⟩ := ih proto₁ props₁
    refine ⟨proto₂, props₂, ?_, fun name hname => ?_⟩
    · rw [qjsonObjectToJsValue, hset, hrest]
    · rw [List.map_cons]
      rcases hnames₂ name hname with hname | ⟨key', hkey', rfl⟩
      · rcases hnames₁ name hname with hname | rfl
        · exact .inl hname
        · exact .inr ⟨key, List.mem_cons_self, rfl⟩
      · exact .inr ⟨key', List.mem_cons_of_mem _ hkey', rfl⟩

theorem qjsonToJsValue_eq_null {v : Json} : qjsonToJsValue v = .null ↔ v.isNullish = true := by
  cases v with
  | obj members =>
    obtain ⟨proto, props, hconv, -⟩ := names_members .objectPrototype [] members
    show qjsonObjectToJsValue (.obj .objectPrototype []) members = .null ↔ _
    rw [hconv]
    simp [Json.isNullish]
  | _ => simp [qjsonToJsValue, Json.isNullish]

/-! ## §5. Objects, read back -/

/-- A property for the program. -/
def convBack (prop : String × JsValue) : String × Json :=
  (fromUtf8 (toCString prop.1), jsValueToQJson prop.2)

/-- `out.insert`, of one member after another. -/
def insertAll (out entries : List (String × Json)) : List (String × Json) :=
  entries.foldl (fun out entry => Json.insert out entry.1 entry.2) out

theorem jsValueToQJsonObject_eq (out : List (String × Json)) (props : List (String × JsValue)) :
    jsValueToQJsonObject out props = insertAll out (props.map convBack) := by
  induction props generalizing out with
  | nil => rfl
  | cons prop props ih =>
    rw [jsValueToQJsonObject, ih]
    rfl

theorem Sorted.insertAll {out : List (String × Json)} (h : Sorted out)
    (entries : List (String × Json)) : Sorted (insertAll out entries) := by
  induction entries generalizing out with
  | nil => exact h
  | cons entry entries ih => exact ih (h.insert entry.1 entry.2)

theorem lookup_insertAll (hnodup : (entries.map Prod.fst).Nodup) (out : List (String × Json))
    (key : String) :
    (insertAll out entries).lookup key = (entries.lookup key).or (out.lookup key) := by
  induction entries generalizing out with
  | nil => rfl
  | cons entry entries ih =>
    obtain ⟨k, v⟩ := entry
    obtain ⟨hnew, hrest⟩ := List.nodup_cons.mp hnodup
    show (insertAll (Json.insert out k v) entries).lookup key = _
    rw [ih hrest, lookup_insert, lookup_member]
    by_cases hk : key = k
    · -- the rest has no entry for this key
      subst hk
      have hnone : entries.lookup key = none := by
        rw [List.lookup_eq_none_iff]
        intro member hmember
        refine bne_iff_ne.mpr fun heq => hnew ?_
        exact List.mem_map.mpr ⟨member, hmember, heq.symm⟩
      rw [if_pos rfl, if_pos rfl, hnone]
      rfl
    · rw [if_neg hk, if_neg hk]

/-- What is found under different keys is found in any order. -/
theorem lookup_perm {entries' : List (String × Json)} (h : entries.Perm entries')
    (hnodup : (entries'.map Prod.fst).Nodup) (key : String) :
    entries.lookup key = entries'.lookup key := by
  induction h with
  | nil => rfl
  | cons entry _ ih =>
    rw [lookup_member entry.1 entry.2, lookup_member entry.1 entry.2, ih (List.nodup_cons.mp hnodup).2]
  | swap entry entry' rest =>
    have hne : entry.1 ≠ entry'.1 := by
      intro heq
      have := (List.nodup_cons.mp hnodup).1
      rw [List.map_cons, heq] at this
      exact this List.mem_cons_self
    rw [lookup_member entry.1 entry.2, lookup_member entry'.1 entry'.2,
      lookup_member entry.1 entry.2, lookup_member entry'.1 entry'.2]
    by_cases hk : key = entry.1
    · have hk' : key ≠ entry'.1 := fun h => hne (hk.symm.trans h)
      rw [if_pos hk, if_neg hk', if_pos hk]
    · rw [if_neg hk, if_neg hk]
  | trans _ h₂ ih₁ ih₂ =>
    have hnodup' := ((h₂.map Prod.fst).nodup_iff).mpr hnodup
    rw [ih₁ hnodup', ih₂ hnodup]

/-- **Members in any order** are the object. -/
theorem insertAll_perm (hsorted : Sorted members) (h : entries.Perm members) :
    insertAll [] entries = members := by
  have hnodup := ((h.map Prod.fst).nodup_iff).mpr hsorted.nodup_keys
  refine (Sorted.insertAll List.Pairwise.nil entries).ext hsorted fun key => ?_
  rw [lookup_insertAll hnodup, lookup_perm h hsorted.nodup_keys]
  exact Option.or_none

/-- The keys that are inserted. -/
theorem mem_keys_insertAll {out : List (String × Json)}
    (h : hasKey (insertAll out entries) key = true) :
    hasKey out key = true ∨ key ∈ entries.map Prod.fst := by
  induction entries generalizing out with
  | nil => exact .inl h
  | cons entry entries ih =>
    rcases ih h with h | h
    · rw [hasKey, lookup_insert] at h
      by_cases hk : key = entry.1
      · exact .inr (hk ▸ List.mem_cons_self)
      · rw [if_neg hk] at h
        exact .inl h
    · exact .inr (List.mem_cons_of_mem _ h)

theorem hasKey_of_mem (hsorted : Sorted members) (h : key ∈ members.map Prod.fst) :
    hasKey members key = true := by
  obtain ⟨⟨k, v⟩, hmem, rfl⟩ := List.mem_map.mp h
  rw [hasKey, hsorted.lookup_of_mem hmem]
  rfl

/-! ## §6. Which objects survive -/

/-- Where everything in a list is reached from something that is as large, and larger unless it is the
same, everything is reached from itself. -/
theorem fixed_of_onto {α : Type*} {f : α → α} {size : α → Nat}
    (hf : ∀ a, f a = a ∨ size (f a) < size a) {l : List α} (honto : ∀ a ∈ l, ∃ b ∈ l, f b = a) :
    ∀ a ∈ l, f a = a := by
  by_contra hnot
  push Not at hnot
  -- what is not reached from itself is reached from something larger of the same kind
  have hlarge : ∀ n : Nat, ∃ a ∈ l, f a ≠ a ∧ n ≤ size a := by
    intro n
    induction n with
    | zero =>
      obtain ⟨a, ha, hne⟩ := hnot
      exact ⟨a, ha, hne, Nat.zero_le _⟩
    | succ n ih =>
      obtain ⟨a, ha, hne, hn⟩ := ih
      obtain ⟨b, hb, rfl⟩ := honto a ha
      have hb' : f b ≠ b := by
        intro heq
        rw [heq, heq] at hne
        exact hne rfl
      have := (hf b).resolve_left hb'
      exact ⟨b, hb, hb', by omega⟩
  have hbound : ∃ m, ∀ a ∈ l, size a ≤ m := by
    clear honto hnot hlarge
    induction l with
    | nil => exact ⟨0, by simp⟩
    | cons a l ih =>
      obtain ⟨m, hm⟩ := ih
      refine ⟨max (size a) m, fun b hb => ?_⟩
      rcases List.mem_cons.mp hb with rfl | hb
      · exact Nat.le_max_left _ _
      · exact (hm b hb).trans (Nat.le_max_right _ _)
  obtain ⟨m, hm⟩ := hbound
  obtain ⟨a, ha, -, hsize⟩ := hlarge (m + 1)
  have := hm a ha
  omega

variable {members : List (String × Json)}

/-- A key of what comes back comes from a key. -/
theorem key_of_roundTrip {out : List (String × Json)} (h : roundTrip (.obj members) = .obj out)
    (hkey : hasKey out key = true) : ∃ k ∈ members.map Prod.fst, keyBack k = key := by
  obtain ⟨proto, props, hconv, hnames⟩ := names_members .objectPrototype [] members
  have hout : roundTrip (.obj members) = .obj (insertAll [] (props.map convBack)) := by
    show jsValueToQJson (qjsonObjectToJsValue .newObject members) = _
    rw [JsValue.newObject, hconv, jsValueToQJson, jsValueToQJsonObject_eq]
  rw [hout, Json.obj.injEq] at h
  rw [← h] at hkey
  rcases mem_keys_insertAll hkey with hkey | hkey
  · contradiction
  · obtain ⟨entry, hentry, rfl⟩ := List.mem_map.mp hkey
    obtain ⟨prop, hprop, rfl⟩ := List.mem_map.mp hentry
    rcases hnames prop.1 (List.mem_map_of_mem hprop) with hname | ⟨k, hk, hname⟩
    · contradiction
    · refine ⟨k, hk, ?_⟩
      rw [keyBack, hname]
      rfl

/-- Keys that are all there afterwards are whole. -/
theorem whole_of_roundTrip (hsorted : Sorted members)
    (h : roundTrip (.obj members) = .obj members) : ∀ key ∈ members.map Prod.fst, Whole key := by
  intro key hkey
  rw [← fromUtf8_toCString_eq_iff, ← keyBack_eq]
  refine fixed_of_onto keyBack_eq_or_lt (fun k hk => ?_) key hkey
  exact key_of_roundTrip h (hasKey_of_mem hsorted hk)

theorem conv_whole (hwhole : ∀ key ∈ entries.map Prod.fst, Whole key) :
    (entries.map conv).map convBack = entries.map fun member => (member.1, roundTrip member.2) := by
  rw [List.map_map]
  refine List.map_congr_left fun member hmember => ?_
  have hkey := fromUtf8_toCString_eq_iff.mpr (hwhole member.1 (List.mem_map_of_mem hmember))
  show (fromUtf8 (toCString member.1), roundTrip member.2) = _
  rw [hkey]

theorem sorted_roundTrip (hsorted : Sorted members) :
    Sorted (members.map fun member => (member.1, roundTrip member.2)) := by
  rw [sorted_iff_keys, List.map_map]
  exact sorted_iff_keys.mp hsorted

/-- **An object with whole keys, none of them `__proto__`,** comes back member by member. -/
theorem roundTrip_members (hsorted : Sorted members)
    (hkeys : ∀ key ∈ members.map Prod.fst, Whole key ∧ key ≠ "__proto__") :
    roundTrip (.obj members) =
      .obj (members.map fun member => (member.1, roundTrip member.2)) := by
  obtain ⟨proto, hconv⟩ :=
    conv_members (fun key hkey => (hkeys key hkey).1.1) hsorted.nodup_keys
  have hperm : (ofEntries (members.map conv)).Perm (members.map conv) := by
    refine ofEntries_perm ?_ ?_
    · rw [keys_conv]
      exact hsorted.nodup_keys
    · rw [keys_conv]
      exact fun hmem => (hkeys _ hmem).2 rfl
  rw [roundTrip, hconv, jsValueToQJson, jsValueToQJsonObject_eq]
  congr 1
  refine insertAll_perm (sorted_roundTrip hsorted) ?_
  rw [← conv_whole fun key hkey => (hkeys key hkey).1]
  exact hperm.map convBack

/-- A key `__proto__` is not there afterwards. -/
theorem no_proto_of_roundTrip (hsorted : Sorted members)
    (h : roundTrip (.obj members) = .obj members) : "__proto__" ∉ members.map Prod.fst := by
  have hwhole := whole_of_roundTrip hsorted h
  obtain ⟨proto, hconv⟩ := conv_members (fun key hkey => (hwhole key hkey).1) hsorted.nodup_keys
  intro hmem
  have hkey := hasKey_of_mem hsorted hmem
  rw [roundTrip, hconv, jsValueToQJson, jsValueToQJsonObject_eq, Json.obj.injEq] at h
  rw [← h] at hkey
  rcases mem_keys_insertAll hkey with hkey | hkey
  · contradiction
  obtain ⟨entry, hentry, heq⟩ := List.mem_map.mp hkey
  obtain ⟨prop, hprop, rfl⟩ := List.mem_map.mp hentry
  have hname := mem_names_ofEntries.mp (List.mem_map_of_mem (f := Prod.fst) hprop)
  rw [keys_conv] at hname
  -- its name is whole, so it comes back as it is, but it is not `__proto__`
  rw [show (convBack prop).1 = fromUtf8 (toCString prop.1) from rfl,
    fromUtf8_toCString_eq_iff.mpr (hwhole _ hname.1)] at heq
  exact hname.2 heq

/-! ## §7. Which values survive -/

/-- A value inside another one, or that one itself. -/
inductive Part : Json → Json → Prop
  | self (v : Json) : Part v v
  | item {v w : Json} {items : List Json} (hmem : w ∈ items) (hpart : Part v w) :
      Part v (.arr items)
  | member {v w : Json} {key : String} {members : List (String × Json)}
      (hmem : (key, w) ∈ members) (hpart : Part v w) : Part v (.obj members)

/-- All parts of the value are so. -/
def Everywhere (P : Json → Prop) (v : Json) : Prop := ∀ w, Part w v → P w

section Everywhere

variable {P : Json → Prop}

theorem Everywhere.here {v : Json} (h : Everywhere P v) : P v := h v (.self v)

/-- A value without parts. -/
theorem everywhere_leaf {v : Json} (h : ∀ w, Part w v → w = v) : Everywhere P v ↔ P v :=
  ⟨Everywhere.here, fun hv w hw => h w hw ▸ hv⟩

theorem everywhere_arr {items : List Json} :
    Everywhere P (.arr items) ↔ P (.arr items) ∧ ∀ item ∈ items, Everywhere P item := by
  constructor
  · exact fun h => ⟨h.here, fun item hitem w hw => h w (.item hitem hw)⟩
  · rintro ⟨hself, hitems⟩ w hw
    cases hw with
    | self => exact hself
    | item hmem hpart => exact hitems _ hmem w hpart

theorem everywhere_obj {members : List (String × Json)} :
    Everywhere P (.obj members) ↔
      P (.obj members) ∧ ∀ key v, (key, v) ∈ members → Everywhere P v := by
  constructor
  · exact fun h => ⟨h.here, fun key v hmem w hw => h w (.member hmem hw)⟩
  · rintro ⟨hself, hmembers⟩ w hw
    cases hw with
    | self => exact hself
    | member hmem hpart => exact hmembers _ _ hmem w hpart

end Everywhere

/-- What a `QJsonValue` holds that is not undefined. -/
def Held : Json → Prop
  | .undefined => False
  | .num q => IsNumber q
  | .obj members => Sorted members
  | _ => True

/-- **What survives the script**: a number that is a double, a string that is whole, and an object
with whole keys, none of them `__proto__`. -/
def Survives : Json → Prop
  | .num q => binary64.Represents q
  | .str s => Whole s
  | .obj members => ∀ key ∈ members.map Prod.fst, Whole key ∧ key ≠ "__proto__"
  | _ => True

theorem roundTrip_arr (items : List Json) :
    roundTrip (.arr items) = .arr (items.map roundTrip) := by
  show Json.arr (jsArrayToQJson (qjsonArrayToJsValue items)) = _
  congr 1
  induction items with
  | nil => rfl
  | cons item items ih =>
    rw [qjsonArrayToJsValue, jsArrayToQJson, ih]
    rfl

theorem map_eq_self_iff {α : Type*} {f : α → α} {l : List α} :
    l.map f = l ↔ ∀ a ∈ l, f a = a := by
  conv_lhs => rw [← List.map_id l, List.map_map]
  exact List.map_inj_left

/-- An object comes back as it is if its keys survive, and its values come back. -/
theorem roundTrip_obj_iff (hsorted : Sorted members) :
    roundTrip (.obj members) = .obj members ↔
      Survives (.obj members) ∧ ∀ key v, (key, v) ∈ members → roundTrip v = v := by
  have hvalues (hkeys : Survives (.obj members)) : roundTrip (.obj members) = .obj members ↔
      ∀ key v, (key, v) ∈ members → roundTrip v = v := by
    rw [roundTrip_members hsorted hkeys, Json.obj.injEq, map_eq_self_iff]
    constructor
    · intro h key v hmem
      exact (Prod.mk.inj (h (key, v) hmem)).2
    · rintro h ⟨key, v⟩ hmem
      rw [h key v hmem]
  constructor
  · intro h
    have hkeys : Survives (.obj members) := by
      intro key hkey
      refine ⟨whole_of_roundTrip hsorted h key hkey, fun heq => ?_⟩
      exact no_proto_of_roundTrip hsorted h (heq ▸ hkey)
    exact ⟨hkeys, (hvalues hkeys).mp h⟩
  · rintro ⟨hkeys, hmembers⟩
    exact (hvalues hkeys).mpr hmembers

/-- **JSON values survive the script bridge** exactly if all of their parts do. -/
theorem round_trip_iff {v : Json} (hv : Everywhere Held v) :
    jsValueToQJson (qjsonToJsValue v) = v ↔ Everywhere Survives v := by
  show roundTrip v = v ↔ _
  induction v using Json.ind with
  | undefined => exact hv.here.elim
  | null =>
    rw [everywhere_leaf fun w hw => by cases hw; rfl]
    exact iff_of_true rfl trivial
  | bool b =>
    rw [everywhere_leaf fun w hw => by cases hw; rfl]
    exact iff_of_true rfl trivial
  | num q =>
    rw [everywhere_leaf fun w hw => by cases hw; rfl]
    show Json.num (Json.num q).toDouble = .num q ↔ binary64.Represents q
    rw [Json.num.injEq, toDouble_eq_iff hv.here]
  | str s =>
    rw [everywhere_leaf fun w hw => by cases hw; rfl]
    show Json.str (fromUtf8 (toCString (newStringLen (Utf8.encode s.toList)))) = .str s ↔ Whole s
    rw [newStringLen_encode, Json.str.injEq, fromUtf8_toCString_eq_iff]
  | arr items ih =>
    rw [everywhere_arr] at hv ⊢
    rw [roundTrip_arr, Json.arr.injEq, map_eq_self_iff,
      and_iff_right (show Survives (.arr items) from trivial)]
    exact forall₂_congr fun item hitem => ih item hitem (hv.2 item hitem)
  | obj members ih =>
    rw [everywhere_obj] at hv ⊢
    rw [roundTrip_obj_iff hv.1]
    refine and_congr Iff.rfl (forall₃_congr fun key v hmem => ?_)
    exact ih key v hmem (hv.2 key v hmem)

/-- An ordinary value. -/
def modeValue : Json := .obj [("modes", .arr [.str "auto", .null])]

theorem held_modeValue : Everywhere Held modeValue := by
  refine everywhere_obj.mpr ⟨List.pairwise_singleton _ _, fun key v hmem => ?_⟩
  obtain ⟨rfl, rfl⟩ := Prod.mk.inj (List.mem_singleton.mp hmem)
  refine everywhere_arr.mpr ⟨trivial, fun item hitem => ?_⟩
  simp only [List.mem_cons, List.not_mem_nil, or_false] at hitem
  rcases hitem with rfl | rfl
  · exact (everywhere_leaf fun w hw => by cases hw; rfl).mpr trivial
  · exact (everywhere_leaf fun w hw => by cases hw; rfl).mpr trivial

theorem survives_modeValue : Everywhere Survives modeValue := by
  refine everywhere_obj.mpr ⟨?_, fun key v hmem => ?_⟩
  · intro key hkey
    obtain rfl := List.mem_singleton.mp hkey
    decide
  obtain ⟨rfl, rfl⟩ := Prod.mk.inj (List.mem_singleton.mp hmem)
  refine everywhere_arr.mpr ⟨trivial, fun item hitem => ?_⟩
  simp only [List.mem_cons, List.not_mem_nil, or_false] at hitem
  rcases hitem with rfl | rfl
  · refine (everywhere_leaf fun w hw => by cases hw; rfl).mpr ?_
    show Whole "auto"
    decide
  · exact (everywhere_leaf fun w hw => by cases hw; rfl).mpr trivial

/-- It comes back. -/
theorem modes_return : jsValueToQJson (qjsonToJsValue modeValue) = modeValue :=
  (round_trip_iff held_modeValue).mpr survives_modeValue

/-- A string is cut at a NUL, and a member `__proto__` is lost. -/
theorem cut_and_lost :
    jsValueToQJson (qjsonToJsValue (.str "a\x00b")) = .str "a" ∧
      jsValueToQJson (qjsonToJsValue (.obj [("__proto__", .obj [])])) = .obj [] ∧
      ¬ ∀ v, Everywhere Held v → jsValueToQJson (qjsonToJsValue v) = v := by
  have hcut : jsValueToQJson (qjsonToJsValue (.str "a\x00b")) = .str "a" := by
    show Json.str (fromUtf8 (toCString (newStringLen (Utf8.encode "a\x00b".toList)))) = _
    rw [newStringLen_encode, fromUtf8_toCString]
    decide
  refine ⟨hcut, ?_, fun h => ?_⟩
  · have hname : newAtom (Utf8.encode "__proto__".toList) = "__proto__" := newAtom_whole (by decide)
    show jsValueToQJson ((JsValue.newObject).setProperty
      (newAtom (Utf8.encode "__proto__".toList)) (.obj .objectPrototype [])) = _
    rw [hname]
    rfl
  · have hheld : Everywhere Held (.str "a\x00b") :=
      (everywhere_leaf fun w hw => by cases hw; rfl).mpr trivial
    have hsame := h _ hheld
    rw [hcut] at hsame
    exact absurd (Json.str.inj hsame) (by decide)

end Stdiolink.Js
