/-
  Stdiolink.Protocol.Json — JSON values as the programs hold them.

  `Json` follows `QJsonValue`: a missing value is `undefined`, an object is the
  list of its members in key order.  Numbers are kept exact; a JSON number read
  into a double is one of these.  The text parser (`QJsonDocument::fromJson`) is
  Qt's and enters the models as a parameter.
-/
import Stdiolink.Lib.SortedMap
import Mathlib.Data.Rat.Defs
import Mathlib.Data.String.Basic

namespace Stdiolink.Protocol

/-- A JSON value, with `undefined` for "no such member". -/
inductive Json where
  | undefined
  | null
  | bool (b : Bool)
  | num (q : ℚ)
  | str (s : String)
  | arr (items : List Json)
  | obj (members : List (String × Json))

namespace Json

/-! ## Equality of values -/

mutual

/-- Structural equality. -/
def beq : Json → Json → Bool
  | undefined, undefined => true
  | null, null => true
  | bool a, bool b => a == b
  | num a, num b => a == b
  | str a, str b => a == b
  | arr a, arr b => beqItems a b
  | obj a, obj b => beqMembers a b
  | _, _ => false

def beqItems : List Json → List Json → Bool
  | [], [] => true
  | a :: as, b :: bs => beq a b && beqItems as bs
  | _, _ => false

def beqMembers : List (String × Json) → List (String × Json) → Bool
  | [], [] => true
  | (k, a) :: as, (l, b) :: bs => k == l && beq a b && beqMembers as bs
  | _, _ => false

end

instance : BEq Json := ⟨beq⟩

/-- Induction on values: items and members are smaller. -/
@[elab_as_elim]
theorem ind {P : Json → Prop} (undefined : P undefined) (null : P null) (bool : ∀ b, P (bool b))
    (num : ∀ q, P (num q)) (str : ∀ s, P (str s))
    (arr : ∀ items, (∀ v ∈ items, P v) → P (arr items))
    (obj : ∀ members, (∀ k v, (k, v) ∈ members → P v) → P (obj members)) (v : Json) : P v := by
  refine @Json.rec P (fun items => ∀ v ∈ items, P v)
    (fun members => ∀ k v, (k, v) ∈ members → P v) (fun member => P member.2)
    undefined null bool num str arr obj ?_ ?_ ?_ ?_ ?_ v
  · intro v hv
    cases hv
  · intro head tail hhead htail v hv
    rcases List.mem_cons.mp hv with rfl | hv
    · exact hhead
    · exact htail v hv
  · intro k v hv
    cases hv
  · intro head tail hhead htail k v hv
    rcases List.mem_cons.mp hv with rfl | hv
    · exact hhead
    · exact htail k v hv
  · intro k v hv
    exact hv

theorem beqItems_iff {as bs : List Json} (h : ∀ a ∈ as, ∀ b, beq a b = true ↔ a = b) :
    beqItems as bs = true ↔ as = bs := by
  induction as generalizing bs with
  | nil => cases bs <;> simp [beqItems]
  | cons a as ih =>
    cases bs with
    | nil => simp [beqItems]
    | cons b bs =>
      rw [beqItems, Bool.and_eq_true, h a (by simp), ih fun c hc => h c (List.mem_cons_of_mem _ hc),
        List.cons.injEq]

theorem beqMembers_iff {as bs : List (String × Json)}
    (h : ∀ k a, (k, a) ∈ as → ∀ b, beq a b = true ↔ a = b) : beqMembers as bs = true ↔ as = bs := by
  induction as generalizing bs with
  | nil => cases bs <;> simp [beqMembers]
  | cons a as ih =>
    obtain ⟨k, a⟩ := a
    cases bs with
    | nil => simp [beqMembers]
    | cons b bs =>
      obtain ⟨l, b⟩ := b
      rw [beqMembers, Bool.and_eq_true, Bool.and_eq_true, h k a (by simp),
        ih fun l c hc => h l c (List.mem_cons_of_mem _ hc), List.cons.injEq, Prod.mk.injEq,
        beq_iff_eq]

/-- **Equality is decided.** -/
theorem beq_iff (a b : Json) : beq a b = true ↔ a = b := by
  induction a using ind generalizing b with
  | undefined => cases b <;> simp [beq]
  | null => cases b <;> simp [beq]
  | bool x => cases b <;> simp [beq]
  | num x => cases b <;> simp [beq]
  | str x => cases b <;> simp [beq]
  | arr items ih =>
    cases b with
    | arr items' => rw [beq, beqItems_iff ih, Json.arr.injEq]
    | _ => simp [beq]
  | obj members ih =>
    cases b with
    | obj members' => rw [beq, beqMembers_iff ih, Json.obj.injEq]
    | _ => simp [beq]

instance : DecidableEq Json := fun a b => decidable_of_iff _ (beq_iff a b)

instance : LawfulBEq Json where
  eq_of_beq h := (beq_iff _ _).mp h
  rfl := (beq_iff _ _).mpr rfl

/-! ## Member access -/

/-- `QJsonObject::value`: `undefined` when the member is missing. -/
def value (members : List (String × Json)) (key : String) : Json :=
  (members.lookup key).getD undefined

/-- `QJsonObject::contains`. -/
def hasKey (members : List (String × Json)) (key : String) : Bool :=
  (members.lookup key).isSome

/-- `QJsonValue::toString`: the empty string unless the value is a string. -/
def toStr : Json → String
  | str s => s
  | _ => ""

variable {v : Json} {n : Int} {members entries : List (String × Json)} {key : String}

/-- A text that is not empty comes from a string. -/
theorem toStr_eq_iff {s : String} (hs : s ≠ "") : v.toStr = s ↔ v = .str s := by
  cases v <;> simp [toStr, Ne.symm hs]

/-- `QJsonValue::toInt`: 0 unless the value is an integral number that fits. -/
def toInt : Json → Int
  | num q => if q.den = 1 ∧ -2147483648 ≤ q.num ∧ q.num ≤ 2147483647 then q.num else 0
  | _ => 0

/-- `QJsonValue::toInt`, with a default. -/
def toIntOr (default : Int) (v : Json) : Int :=
  match v with
  | num q => if q.den = 1 ∧ -2147483648 ≤ q.num ∧ q.num ≤ 2147483647 then q.num else default
  | _ => default

/-- `QJsonValue::toString`, with a default. -/
def toStrOr (default : String) (v : Json) : String :=
  match v with
  | str s => s
  | _ => default

/-- `QJsonValue::toObject`: empty unless the value is an object. -/
def toObject : Json → List (String × Json)
  | obj members => members
  | _ => []

/-- `QJsonValue::toBool`: false unless the value is a boolean. -/
def toBool : Json → Bool
  | bool b => b
  | _ => false

/-- `isNull() || isUndefined()`. -/
def isNullish : Json → Bool
  | undefined => true
  | null => true
  | _ => false

/-! ## Numbers -/

/-- The nearest double of an integer, ties to even. -/
def roundToDouble (n : Int) : Int :=
  let m := n.natAbs
  let ulp := 2 ^ (m.log2 + 1 - 53)
  let high := m / ulp
  let low := m % ulp
  let rounded := if 2 * low > ulp || (2 * low = ulp && high % 2 = 1) then high + 1 else high
  n.sign * (rounded * ulp)

/-- An integer up to 2^53 is a double itself. -/
theorem roundToDouble_small (h : n.natAbs ≤ 2 ^ 53) : roundToDouble n = n := by
  by_cases heq : n.natAbs = 2 ^ 53
  · obtain rfl | rfl := Int.natAbs_eq_iff.mp heq <;> decide
  have hulp : n.natAbs.log2 + 1 - 53 = 0 := by
    by_cases hzero : n.natAbs = 0
    · rw [hzero]
      rfl
    · have hlog := (Nat.log2_lt hzero).mpr (lt_of_le_of_ne h heq)
      omega
  have hround : roundToDouble n = n.sign * n.natAbs := by
    rw [roundToDouble, hulp]
    simp [Nat.mod_one]
  rw [hround, Int.sign_mul_natAbs]

/-- An integer from 2^53 on is rounded to one from 2^53 on. -/
theorem roundToDouble_large (h : 2 ^ 53 ≤ n.natAbs) : 2 ^ 53 ≤ (roundToDouble n).natAbs := by
  have hne : n.natAbs ≠ 0 := by omega
  have hlog : 53 ≤ n.natAbs.log2 := (Nat.le_log2 hne).mpr h
  -- the leading 53 bits alone are that much
  have hhigh : 2 ^ 52 ≤ n.natAbs / 2 ^ (n.natAbs.log2 + 1 - 53) := by
    rw [Nat.le_div_iff_mul_le (Nat.two_pow_pos _), ← pow_add,
      show 52 + (n.natAbs.log2 + 1 - 53) = n.natAbs.log2 by omega]
    exact Nat.log2_self_le hne
  have hulp : 2 ≤ 2 ^ (n.natAbs.log2 + 1 - 53) := by
    rw [show n.natAbs.log2 + 1 - 53 = n.natAbs.log2 - 53 + 1 by omega, pow_succ]
    have hpos := Nat.two_pow_pos (n.natAbs.log2 - 53)
    omega
  have hsign : n.sign.natAbs = 1 := by
    rw [Int.natAbs_sign, if_neg (by omega)]
  have hprod : ∀ r, 2 ^ 52 ≤ r → 2 ^ 53 ≤ r * 2 ^ (n.natAbs.log2 + 1 - 53) := by
    intro r hr
    calc 2 ^ 53 = 2 ^ 52 * 2 := rfl
      _ ≤ r * 2 ^ (n.natAbs.log2 + 1 - 53) := Nat.mul_le_mul hr hulp
  rw [roundToDouble, Int.natAbs_mul, hsign, one_mul, ← Int.natCast_mul, Int.natAbs_natCast]
  apply hprod
  split_ifs <;> omega

/-- `QJsonValue::toDouble`: 0 unless the value is a number.  An integer is kept as one and
rounded here. -/
def toDouble : Json → ℚ
  | num q => if q.den = 1 then roundToDouble q.num else q
  | _ => 0

theorem toDouble_int (n : Int) : (num n).toDouble = roundToDouble n := by
  rw [toDouble, Rat.den_intCast, if_pos rfl, Rat.num_intCast]

/-- Only the integer itself is rounded to an integer below 2^53. -/
theorem eq_of_toDouble_eq {q : ℚ} (h : (num q).toDouble = n) (hn : n.natAbs < 2 ^ 53) : q = n := by
  rw [toDouble] at h
  split at h
  · rename_i hden
    obtain hsmall | hlarge := le_or_gt q.num.natAbs (2 ^ 53)
    · rw [roundToDouble_small hsmall] at h
      rw [← h]
      exact (Rat.coe_int_num_of_den_eq_one hden).symm
    · have hround := roundToDouble_large hlarge.le
      rw [Rat.intCast_inj.mp h] at hround
      omega
  · exact h

/-! ## Changing objects -/

/-- Replace the value of the first member with this key. -/
def replaceMember (key : String) (v : Json) : List (String × Json) → List (String × Json)
  | [] => []
  | (k, w) :: rest => if key = k then (k, v) :: rest else (k, w) :: replaceMember key v rest

/-- `object[key] = v`: replace the member, or put a new one at its place. -/
def insert (members : List (String × Json)) (key : String) (v : Json) : List (String × Json) :=
  if hasKey members key then replaceMember key v members
  else Lib.SortedMap.insertEntry key v members

/-- The first member decides, or the rest. -/
theorem lookup_member (k : String) (w : Json) (rest : List (String × Json)) (key : String) :
    ((k, w) :: rest).lookup key = if key = k then some w else rest.lookup key := by
  rw [List.lookup_cons]
  by_cases hk : key = k
  · rw [if_pos hk, beq_iff_eq.mpr hk]
  · rw [if_neg hk, beq_eq_false_iff_ne.mpr hk]

theorem mem_of_lookup (h : members.lookup key = some v) : (key, v) ∈ members := by
  obtain ⟨l₁, l₂, heq, -⟩ := List.lookup_eq_some_iff.mp h
  rw [heq]
  simp

theorem hasKey_eq_false : hasKey members key = false ↔ members.lookup key = none := by
  rw [hasKey, Option.isSome_eq_false_iff, Option.isNone_iff_eq_none]

theorem lookup_replaceMember (h : hasKey members key = true) (key' : String) :
    (replaceMember key v members).lookup key' =
      if key' = key then some v else members.lookup key' := by
  induction members with
  | nil => simp [hasKey] at h
  | cons member rest ih =>
    obtain ⟨k, w⟩ := member
    rw [hasKey, lookup_member] at h
    rw [replaceMember]
    by_cases hk : key = k
    · subst hk
      rw [if_pos rfl, lookup_member, lookup_member]
      by_cases hk' : key' = key <;> simp [hk']
    · rw [if_neg hk] at h
      rw [if_neg hk, lookup_member, lookup_member, ih h]
      by_cases hk' : key' = k
      · simp [hk', Ne.symm hk]
      · simp [hk']

theorem lookup_insertEntry (h : members.lookup key = none) (key' : String) :
    (Lib.SortedMap.insertEntry key v members).lookup key' =
      if key' = key then some v else members.lookup key' := by
  induction members with
  | nil => rw [Lib.SortedMap.insertEntry, lookup_member]
  | cons member rest ih =>
    obtain ⟨k, w⟩ := member
    have hk : key ≠ k := by
      intro hk
      rw [lookup_member, if_pos hk] at h
      cases h
    rw [lookup_member, if_neg hk] at h
    rw [Lib.SortedMap.insertEntry]
    by_cases hlt : key < k
    · rw [if_pos hlt, lookup_member]
    · rw [if_neg hlt, if_neg hk, lookup_member, lookup_member, ih h]
      by_cases hk' : key' = k
      · simp [hk', Ne.symm hk]
      · simp [hk']

/-- **Insertion.**  The key has the value, every other key keeps its own. -/
theorem lookup_insert (members : List (String × Json)) (key : String) (v : Json)
    (key' : String) :
    (insert members key v).lookup key' = if key' = key then some v else members.lookup key' := by
  unfold insert
  cases h : hasKey members key with
  | true => exact lookup_replaceMember h key'
  | false => exact lookup_insertEntry (hasKey_eq_false.mp h) key'

theorem lookup_insert_self (members : List (String × Json)) (key : String) (v : Json) :
    (insert members key v).lookup key = some v := by
  rw [lookup_insert, if_pos rfl]

theorem lookup_insert_of_ne (members : List (String × Json)) {key' : String} (v : Json)
    (h : key' ≠ key) : (insert members key v).lookup key' = members.lookup key' := by
  rw [lookup_insert, if_neg h]

/-- Writing back what is there changes nothing. -/
theorem insert_same (h : members.lookup key = some v) : insert members key v = members := by
  have hkey : hasKey members key = true := by rw [hasKey, h, Option.isSome_some]
  rw [insert, if_pos hkey]
  clear hkey
  induction members with
  | nil => rfl
  | cons member rest ih =>
    obtain ⟨k, w⟩ := member
    rw [lookup_member] at h
    rw [replaceMember]
    by_cases hk : key = k
    · rw [if_pos hk] at h
      rw [if_pos hk, Option.some.inj h]
    · rw [if_neg hk] at h
      rw [if_neg hk, ih h]

/-! ## Members in key order -/

/-- The members are in key order, one for each key: what a `QJsonObject` holds. -/
def Sorted (members : List (String × Json)) : Prop := members.Pairwise fun a b => a.1 < b.1

theorem keys_replaceMember (key : String) (v : Json) (members : List (String × Json)) :
    (replaceMember key v members).map Prod.fst = members.map Prod.fst := by
  induction members with
  | nil => rfl
  | cons member rest ih =>
    obtain ⟨k, w⟩ := member
    rw [replaceMember]
    by_cases hk : key = k
    · rw [if_pos hk, List.map_cons, List.map_cons]
    · rw [if_neg hk, List.map_cons, List.map_cons, ih]

/-- The order depends on the keys alone. -/
theorem sorted_iff_keys : Sorted members ↔ (members.map Prod.fst).Pairwise (· < ·) := by
  rw [List.pairwise_map]
  rfl

theorem Sorted.insert {members : List (String × Json)} (h : Sorted members) (key : String)
    (v : Json) : Sorted (insert members key v) := by
  unfold Json.insert
  split
  · rw [sorted_iff_keys, keys_replaceMember, ← sorted_iff_keys]
    exact h
  · exact Lib.SortedMap.pairwise_insertEntry h

/-- Behind all keys. -/
theorem insert_last (h : ∀ member ∈ members, member.1 < key) (v : Json) :
    insert members key v = members ++ [(key, v)] := by
  have hkey : hasKey members key = false := by
    rw [hasKey_eq_false, List.lookup_eq_none_iff]
    intro member hmember
    exact bne_iff_ne.mpr (ne_of_gt (h member hmember))
  rw [insert, hkey, if_neg (by simp)]
  exact Lib.SortedMap.insertEntry_last h

/-- A key below all keys is not there. -/
theorem lookup_eq_none_of_lt (h : ∀ member ∈ members, key < member.1) :
    members.lookup key = none := by
  rw [List.lookup_eq_none_iff]
  intro member hmember
  exact bne_iff_ne.mpr (ne_of_lt (h member hmember))

/-- A member is found under its key. -/
theorem Sorted.lookup_of_mem (h : Sorted members) (hmem : (key, v) ∈ members) :
    members.lookup key = some v := by
  induction members with
  | nil => cases hmem
  | cons member rest ih =>
    obtain ⟨k, w⟩ := member
    obtain ⟨hlt, hrest⟩ := List.pairwise_cons.mp h
    rw [lookup_member]
    obtain heq | hmem := List.mem_cons.mp hmem
    · obtain ⟨rfl, rfl⟩ := Prod.mk.inj heq
      rw [if_pos rfl]
    · rw [if_neg (ne_of_gt (hlt _ hmem))]
      exact ih hrest hmem

/-- **Two objects with the same values are the same.** -/
theorem Sorted.ext {members' : List (String × Json)} (h : Sorted members) (h' : Sorted members')
    (heq : ∀ key, members.lookup key = members'.lookup key) :
    members = members' := by
  induction members generalizing members' with
  | nil =>
    cases members' with
    | nil => rfl
    | cons member' rest' =>
      obtain ⟨k', w'⟩ := member'
      have hk := heq k'
      rw [lookup_member, if_pos rfl] at hk
      cases hk
  | cons member rest ih =>
    obtain ⟨k, w⟩ := member
    obtain ⟨hlt, hrest⟩ := List.pairwise_cons.mp h
    cases members' with
    | nil =>
      have hk := heq k
      rw [lookup_member, if_pos rfl] at hk
      cases hk
    | cons member' rest' =>
      obtain ⟨k', w'⟩ := member'
      obtain ⟨hlt', hrest'⟩ := List.pairwise_cons.mp h'
      -- the smaller of the first keys would be missing on the other side
      have hkeys : k = k' := by
        by_contra hne
        obtain hk | hk := lt_or_gt_of_ne hne
        · have hmissing : ((k', w') :: rest').lookup k = none := by
            apply lookup_eq_none_of_lt
            intro member hmember
            obtain rfl | hmember := List.mem_cons.mp hmember
            · exact hk
            · exact lt_trans hk (hlt' member hmember)
          rw [← heq k, lookup_member, if_pos rfl] at hmissing
          cases hmissing
        · have hmissing : ((k, w) :: rest).lookup k' = none := by
            apply lookup_eq_none_of_lt
            intro member hmember
            obtain rfl | hmember := List.mem_cons.mp hmember
            · exact hk
            · exact lt_trans hk (hlt member hmember)
          rw [heq k', lookup_member, if_pos rfl] at hmissing
          cases hmissing
      subst hkeys
      have hvalue := heq k
      rw [lookup_member, if_pos rfl, lookup_member, if_pos rfl] at hvalue
      have htail : rest = rest' := by
        apply ih hrest hrest'
        intro key
        have hkey := heq key
        rw [lookup_member, lookup_member] at hkey
        by_cases hk : key = k
        · subst hk
          rw [lookup_eq_none_of_lt hlt, lookup_eq_none_of_lt hlt']
        · rw [if_neg hk, if_neg hk] at hkey
          exact hkey
      rw [Option.some.inj hvalue, htail]

/-! ## Records

A record is written member by member, most of them only under a condition, and read back member by
member.  `record` is the object that a table of such writes leaves; a read finds what the table says.
-/

/-- `if (c) obj[key] = v` writes `given c v`. -/
def given (c : Bool) (v : Json) : Json := if c then v else undefined

/-- `obj[key] = v`, which stores nothing where the value is undefined. -/
def put (members : List (String × Json)) (entry : String × Json) : List (String × Json) :=
  if entry.2 = undefined then members else insert members entry.1 entry.2

/-- The writes of a table, one after another. -/
def putAll (members entries : List (String × Json)) : List (String × Json) := entries.foldl put members

/-- A record with the members of the table. -/
def record (entries : List (String × Json)) : List (String × Json) := putAll [] entries

@[simp] theorem value_nil (key : String) : value [] key = undefined := rfl

theorem value_cons (k : String) (v : Json) (rest : List (String × Json)) (key : String) :
    value ((k, v) :: rest) key = if key = k then v else value rest key := by
  rw [value, lookup_member]
  by_cases hk : key = k
  · rw [if_pos hk, if_pos hk]
    rfl
  · rw [if_neg hk, if_neg hk]
    rfl

theorem value_eq_undefined_of_not_mem (h : key ∉ members.map Prod.fst) :
    value members key = undefined := by
  have hlookup : members.lookup key = none := by
    rw [List.lookup_eq_none_iff]
    intro member hmember
    apply bne_iff_ne.mpr
    intro heq
    exact h (List.mem_map.mpr ⟨member, hmember, heq.symm⟩)
  rw [value, hlookup]
  rfl

theorem value_put (members : List (String × Json)) (k : String) (v : Json) (key : String) :
    value (put members (k, v)) key =
      if key = k ∧ v ≠ undefined then v else value members key := by
  unfold put
  by_cases hv : v = undefined
  · rw [if_pos hv, if_neg fun h => h.2 hv]
  · rw [if_neg hv, value, lookup_insert]
    by_cases hk : key = k
    · rw [if_pos hk, if_pos ⟨hk, hv⟩]
      rfl
    · rw [if_neg hk, if_neg fun h => hk h.1]
      rfl

theorem hasKey_put (members : List (String × Json)) (k : String) (v : Json) (key : String) :
    hasKey (put members (k, v)) key = (decide (key = k ∧ v ≠ undefined) || hasKey members key) := by
  unfold put
  by_cases hv : v = undefined
  · simp [hv]
  · rw [if_neg hv, hasKey, lookup_insert]
    by_cases hk : key = k
    · simp [hk, hv]
    · simp [hk, hasKey]

/-- **Reading a written table.**  What the table has under a key is there, over what was there. -/
theorem value_putAll (h : (entries.map Prod.fst).Nodup) (members : List (String × Json))
    (key : String) :
    value (putAll members entries) key =
      if value entries key = undefined then value members key else value entries key := by
  induction entries generalizing members with
  | nil => rfl
  | cons entry rest ih =>
    obtain ⟨k, v⟩ := entry
    obtain ⟨hnew, hrest⟩ := List.nodup_cons.mp h
    show value (putAll (put members (k, v)) rest) key = _
    rw [ih hrest, value_put, value_cons]
    by_cases hk : key = k
    · -- the rest has no entry for this key
      subst hk
      rw [value_eq_undefined_of_not_mem hnew]
      by_cases hv : v = undefined <;> simp [hv]
    · simp [hk]

theorem value_record (h : (entries.map Prod.fst).Nodup) (key : String) :
    value (record entries) key = value entries key := by
  rw [record, value_putAll h, value_nil]
  by_cases hv : value entries key = undefined
  · rw [if_pos hv, hv]
  · rw [if_neg hv]

/-- No member is stored without a value. -/
def Defined (members : List (String × Json)) : Prop :=
  ∀ key, hasKey members key = decide (value members key ≠ undefined)

theorem Defined.put {members : List (String × Json)} (h : Defined members)
    (entry : String × Json) : Defined (put members entry) := by
  obtain ⟨k, v⟩ := entry
  intro key
  rw [hasKey_put, value_put, h key]
  by_cases hkv : key = k ∧ v ≠ undefined
  · simp [hkv]
  · simp [hkv]

theorem Defined.putAll {members : List (String × Json)} (h : Defined members)
    (entries : List (String × Json)) : Defined (putAll members entries) := by
  induction entries generalizing members with
  | nil => exact h
  | cons entry rest ih => exact ih (h.put entry)

theorem defined_record (entries : List (String × Json)) : Defined (record entries) := by
  apply Defined.putAll
  intro key
  rfl

theorem Sorted.putAll {members : List (String × Json)} (h : Sorted members)
    (entries : List (String × Json)) : Sorted (putAll members entries) := by
  induction entries generalizing members with
  | nil => exact h
  | cons entry rest ih =>
    apply ih
    show Sorted (put members entry)
    unfold put
    split
    · exact h
    · exact h.insert entry.1 entry.2

theorem sorted_record (entries : List (String × Json)) : Sorted (record entries) :=
  Sorted.putAll List.Pairwise.nil entries

theorem Sorted.nodup_keys (h : Sorted members) : (members.map Prod.fst).Nodup := by
  apply List.Pairwise.imp _ (sorted_iff_keys.mp h)
  intro a b hab
  exact ne_of_lt hab

/-- A record has no keys but those of its table. -/
theorem key_of_mem_record {member : String × Json} (hnodup : (entries.map Prod.fst).Nodup)
    (h : member ∈ record entries) :
    member.1 ∈ entries.map Prod.fst := by
  have hlookup : (record entries).lookup member.1 = some member.2 := by
    exact (sorted_record entries).lookup_of_mem h
  have hkey : hasKey (record entries) member.1 = true := by
    rw [hasKey, hlookup]
    rfl
  rw [defined_record, decide_eq_true_eq, value_record hnodup] at hkey
  by_contra hnot
  exact hkey (value_eq_undefined_of_not_mem hnot)

/-- A table in key order is its own record. -/
theorem record_sorted (h : Sorted entries) (hvalues : ∀ entry ∈ entries, entry.2 ≠ undefined) :
    record entries = entries := by
  have hall : ∀ (rest done : List (String × Json)), Sorted (done ++ rest) →
      (∀ entry ∈ rest, entry.2 ≠ undefined) → putAll done rest = done ++ rest := by
    intro rest
    induction rest with
    | nil =>
      intro done _ _
      exact (List.append_nil done).symm
    | cons entry rest ih =>
      intro done hsorted hdefined
      -- the entry goes behind what is there
      have hput : put done entry = done ++ [entry] := by
        rw [put, if_neg (hdefined entry (by simp))]
        apply insert_last
        intro member hmember
        exact (List.pairwise_append.mp hsorted).2.2 member hmember entry (by simp)
      show putAll (put done entry) rest = done ++ entry :: rest
      rw [hput, ih (done ++ [entry]), List.append_assoc]
      · rfl
      · rw [List.append_assoc]
        exact hsorted
      · intro e he
        exact hdefined e (List.mem_cons_of_mem _ he)
  exact hall entries [] h hvalues

end Json

end Stdiolink.Protocol
