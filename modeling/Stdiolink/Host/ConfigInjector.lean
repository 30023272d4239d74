/-
  Stdiolink.Host.ConfigInjector — configurations for a driver, `host/config_injector.cpp`.

  A configuration is handed over as environment variables or as arguments, a text for each key.
  The texts of `QString::number`, of `QJsonDocument` and the capitals of a key are Qt's.

  Main results:
    * `text_iff`         — the values of one type that have one text;
    * `injected`         — **what the variables and the arguments say** of two configurations;
    * `losesNothing_iff` — when nothing is lost of them.
-/
import Stdiolink.Cli.Paths
import Stdiolink.Meta.Validator
import Mathlib.Data.Int.Log

namespace Stdiolink.Host.ConfigInjector

open Stdiolink.Lib (SortedMap)
open Stdiolink.Lib.SortedMap
open Stdiolink.Meta (ConfigApply castInt isObject toArray)
open Stdiolink.Protocol

/-! ## §1. The injector -/

/-- What the injector uses of Qt: `QString::toUpper`, `QString::number` of a double and the compact
`QJsonDocument::toJson` of an array. -/
structure InjectorQt where
  toUpper : String → String
  number : ℚ → String
  toJson : List Json → String

/-- `QString::replace` of a character. -/
def replace (before after : Char) (text : String) : String :=
  String.ofList (text.toList.map fun c => if c = before then after else c)

section Injector

variable (qt : InjectorQt)

def valueToString : Json → String
  | .bool b => if b then "true" else "false"
  | .num q =>
    let d := (Json.num q).toDouble
    if d = castInt d then toString (castInt d) else qt.number d
  | .str s => s
  | .arr items => qt.toJson (toArray (.arr items))
  | .obj members => qt.toJson (toArray (.obj members))
  | _ => ""

def keyToEnvName (key envPrefix : String) : String :=
  let envName := qt.toUpper key
  let envName := replace '.' '_' envName
  let envName := replace '-' '_' envName
  envPrefix ++ envName

def toEnvVars (config : SortedMap String Json) (apply : ConfigApply) : SortedMap String String :=
  config.entries.foldl
    (fun envVars it =>
      envVars.insert (keyToEnvName qt it.1 apply.envPrefix) (valueToString qt it.2))
    SortedMap.empty

/-- The argument for a key. -/
def toArg (it : String × Json) : String := "--" ++ it.1 ++ "=" ++ valueToString qt it.2

def toArgs (config : SortedMap String Json) : List String := config.entries.map (toArg qt)

end Injector

/-! ## §2. What is asked of Qt -/

/-- A number with six digits, a tie away from zero. -/
def sixDigits (d : ℚ) : ℚ :=
  let unit : ℚ := 10 ^ (Int.log 10 |d| - 5)
  (if d < 0 then -1 else 1) * ⌊|d| / unit + 1 / 2⌋ * unit

/-- A double that an `int` holds. -/
def isInt (d : ℚ) : Bool := d = castInt d

/-- A number of a configuration, as a double. -/
def HasDouble (config : SortedMap String Json) (d : ℚ) : Prop :=
  ∃ key q, (key, Json.num q) ∈ config.entries ∧ (Json.num q).toDouble = d

/-- **The texts of Qt** for the values of two configurations: a double with a fraction, or beyond an
`int`, has the text of its six digits, which is the one of an integer if that has no more of them;
and arrays are read from their compact text. -/
structure Documented (qt : InjectorQt) (config config' : SortedMap String Json) : Prop where
  number : ∀ a b, HasDouble config a → HasDouble config' b → isInt a = false → isInt b = false →
    (qt.number a = qt.number b ↔ sixDigits a = sixDigits b)
  integer : ∀ a (n : Int), HasDouble config a ∨ HasDouble config' a → isInt a = false →
    (qt.number a = toString n ↔ sixDigits a = n ∧ n.natAbs < 10 ^ 6)
  toJson : ∀ key key' items items', (key, Json.arr items) ∈ config.entries →
    (key', Json.arr items') ∈ config'.entries → qt.toJson items = qt.toJson items' → items = items'

/-! ## §3. What is not lost -/

/-- `QJsonValue::type` is the same. -/
def sameType : Json → Json → Bool
  | .undefined, .undefined => true
  | .null, .null => true
  | .bool _, .bool _ => true
  | .num _, .num _ => true
  | .str _, .str _ => true
  | .arr _, .arr _ => true
  | .obj _, .obj _ => true
  | _, _ => false

/-- The same value, a number up to the precision of a double. -/
def Same : Json → Json → Prop
  | .num q, .num r => (Json.num q).toDouble = (Json.num r).toDouble
  | v, w => v = w

/-- Entry by entry, of two configurations with the same keys. -/
def Alike (R : Json → Json → Prop) (config config' : SortedMap String Json) : Prop :=
  List.Forall₂ (fun it it' => it.1 = it'.1 ∧ R it.2 it'.2) config.entries config'.entries

/-- Doubles whose texts differ: those that an `int` holds, and others by their six digits. -/
def ToldApart (a b : ℚ) : Prop :=
  match isInt a, isInt b with
  | true, true => a ≠ b
  | true, false => ¬ (sixDigits b = a ∧ (castInt a).natAbs < 10 ^ 6)
  | false, true => ¬ (sixDigits a = b ∧ (castInt b).natAbs < 10 ^ 6)
  | false, false => sixDigits a ≠ sixDigits b

/-- Values of one type with one text: doubles that are not told apart, and all objects. -/
def WrittenAlike : Json → Json → Prop
  | .num q, .num r => ¬ ToldApart (Json.num q).toDouble (Json.num r).toDouble
  | .obj _, .obj _ => True
  | v, w => v = w

/-- The names of the variables, a name for each key. -/
def names (qt : InjectorQt) (apply : ConfigApply) (config : SortedMap String Json) : List String :=
  config.keys.map fun key => keyToEnvName qt key apply.envPrefix

section Texts

variable {qt : InjectorQt} {config config' : SortedMap String Json}

theorem eq_castInt {a : ℚ} (h : isInt a = true) : a = castInt a := by
  simpa [isInt] using h

/-- An integer is read from its text. -/
theorem toString_inj {m n : Int} : toString m = toString n ↔ m = n := by
  constructor
  · intro h
    have hread := congrArg (fun s : String => Cli.toBoundedInt (min m n) (max m n) s.toList) h
    simp only [Cli.toBoundedInt_toString] at hread
    rw [if_pos (by omega), if_pos (by omega)] at hread
    exact Option.some.inj hread
  · intro h
    rw [h]

theorem bool_text_inj {b b' : Bool}
    (h : valueToString qt (.bool b) = valueToString qt (.bool b')) : b = b' := by
  have htext : (if b then "true" else "false") = if b' then "true" else "false" := h
  clear h
  revert b b'
  decide

/-- **The texts of two doubles.** -/
theorem number_text (h : Documented qt config config') {q r : ℚ}
    (hq : HasDouble config (Json.num q).toDouble) (hr : HasDouble config' (Json.num r).toDouble) :
    valueToString qt (.num q) = valueToString qt (.num r) ↔
      ¬ ToldApart (Json.num q).toDouble (Json.num r).toDouble := by
  simp only [valueToString]
  generalize (Json.num q).toDouble = a at *
  generalize (Json.num r).toDouble = b at *
  have htext : ∀ d : ℚ, (if d = castInt d then toString (castInt d) else qt.number d) =
      if isInt d = true then toString (castInt d) else qt.number d := by
    intro d
    simp [isInt]
  rw [htext, htext, ToldApart]
  cases ha : isInt a with
  | true =>
    have hcast := eq_castInt ha
    cases hb : isInt b with
    | true =>
      have hcast' := eq_castInt hb
      rw [if_pos rfl, if_pos rfl, toString_inj, not_not]
      constructor
      · intro h
        rw [hcast, hcast', h]
      · intro h
        rw [h]
    | false =>
      rw [if_pos rfl, if_neg (by simp), eq_comm, h.integer b _ (.inr hr) hb, ← hcast, not_not]
  | false =>
    cases hb : isInt b with
    | true =>
      have hcast := eq_castInt hb
      rw [if_neg (by simp), if_pos rfl, h.integer a _ (.inl hq) ha, ← hcast, not_not]
    | false =>
      rw [if_neg (by simp), if_neg (by simp), h.number a b hq hr ha hb, not_not]

/-- **Values of one type that have one text.** -/
theorem text_iff (h : Documented qt config config') {key key' : String} {v w : Json}
    (hv : (key, v) ∈ config.entries) (hw : (key', w) ∈ config'.entries)
    (htype : sameType v w = true) :
    valueToString qt v = valueToString qt w ↔ WrittenAlike v w := by
  cases v with
  | num q =>
    cases w with
    | num r => exact number_text h ⟨key, q, hv, rfl⟩ ⟨key', r, hw, rfl⟩
    | _ => cases htype
  | obj members =>
    cases w with
    | obj members' => exact iff_of_true rfl trivial
    | _ => cases htype
  | arr items =>
    cases w with
    | arr items' =>
      constructor
      · intro htext
        exact congrArg Json.arr (h.toJson key key' items items' hv hw htext)
      · intro hsame
        rw [show Json.arr items = .arr items' from hsame]
    | _ => cases htype
  | bool b =>
    cases w with
    | bool b' =>
      constructor
      · intro htext
        exact congrArg Json.bool (bool_text_inj htext)
      · intro hsame
        rw [show Json.bool b = .bool b' from hsame]
    | _ => cases htype
  | str s =>
    cases w with
    | str s' => exact Json.str.injEq s s' ▸ Iff.rfl
    | _ => cases htype
  | null =>
    cases w with
    | null => exact iff_of_true rfl rfl
    | _ => cases htype
  | undefined =>
    cases w with
    | undefined => exact iff_of_true rfl rfl
    | _ => cases htype

end Texts

/-! ## §5. Variables and arguments -/

section Alike

variable {qt : InjectorQt} {apply : ConfigApply} {config config' : SortedMap String Json}

/-- A variable: the name of a key and the text of its value. -/
def variableOf (qt : InjectorQt) (apply : ConfigApply) (it : String × Json) : String × String :=
  (keyToEnvName qt it.1 apply.envPrefix, valueToString qt it.2)

theorem toEnvVars_eq :
    toEnvVars qt config apply = ofEntries (config.entries.map (variableOf qt apply)) := by
  rw [ofEntries, List.foldl_map]
  rfl

theorem names_map :
    (config.entries.map (variableOf qt apply)).map Prod.fst = names qt apply config := by
  rw [names, keys, List.map_map, List.map_map]
  rfl

/-- **A variable for each name.** -/
theorem length_envVars :
    (toEnvVars qt config apply).keys.length = (names qt apply config).dedup.length := by
  rw [toEnvVars_eq, length_keys_ofEntries, names_map]

/-- **A variable for each key**, unless two keys have one name. -/
theorem envVars_iff : (toEnvVars qt config apply).keys.length = config.keys.length ↔
    (names qt apply config).Nodup := by
  have hlen : config.keys.length = (names qt apply config).length := (List.length_map _).symm
  rw [length_envVars, hlen, ← List.dedup_eq_self]
  constructor
  · exact (List.dedup_sublist _).eq_of_length
  · intro h
    rw [h]

variable {R : Json → Json → Prop}

theorem Alike.keys_eq (h : Alike R config config') : config.keys = config'.keys := by
  rw [← List.forall₂_eq_eq_eq, keys, keys, List.forall₂_map_left_iff, List.forall₂_map_right_iff]
  exact h.imp fun _ _ hit => hit.1

theorem Alike.of_mem_zip (h : Alike R config config') {it it' : String × Json}
    (hmem : (it, it') ∈ config.entries.zip config'.entries) :
    it ∈ config.entries ∧ it' ∈ config'.entries ∧ it.1 = it'.1 ∧ R it.2 it'.2 := by
  have hmems : it ∈ config.entries ∧ it' ∈ config'.entries := List.of_mem_zip hmem
  exact ⟨hmems.1, hmems.2, List.forall₂_zip h hmem⟩

/-- With the same keys, only the values are compared. -/
theorem Alike.iff_zip {S : Json → Json → Prop} (h : Alike R config config') :
    Alike S config config' ↔
      ∀ it it', (it, it') ∈ config.entries.zip config'.entries → S it.2 it'.2 := by
  constructor
  · intro hS it it' hmem
    exact (hS.of_mem_zip hmem).2.2.2
  · intro hS
    rw [Alike, List.forall₂_iff_zip]
    refine ⟨List.Forall₂.length_eq h, fun {it it'} hmem => ?_⟩
    exact ⟨(h.of_mem_zip hmem).2.2.1, hS it it' hmem⟩

/-- Entry by entry, relations that agree where another holds. -/
theorem Alike.congr {S T : Json → Json → Prop} (h : Alike R config config')
    (hiff : ∀ key v w, (key, v) ∈ config.entries → (key, w) ∈ config'.entries → R v w →
      (S v w ↔ T v w)) :
    Alike S config config' ↔ Alike T config config' := by
  rw [h.iff_zip, h.iff_zip]
  refine forall_congr' fun it => forall_congr' fun it' => forall_congr' fun hmem => ?_
  obtain ⟨hit, hit', hkey, hR⟩ := h.of_mem_zip hmem
  refine hiff it.1 it.2 it'.2 hit ?_ hR
  rw [hkey]
  exact hit'

/-- The same texts, entry by entry. -/
def SameTexts (qt : InjectorQt) : SortedMap String Json → SortedMap String Json → Prop :=
  Alike fun v w => valueToString qt v = valueToString qt w

/-- **The texts are read from the arguments.** -/
theorem toArgs_eq_iff (h : Alike R config config') :
    toArgs qt config = toArgs qt config' ↔ SameTexts qt config config' := by
  rw [toArgs, toArgs, ← List.forall₂_eq_eq_eq, List.forall₂_map_left_iff,
    List.forall₂_map_right_iff, List.forall₂_iff_zip, SameTexts, h.iff_zip,
    and_iff_right (List.Forall₂.length_eq h)]
  refine forall_congr' fun it => forall_congr' fun it' => forall_congr' fun hmem => ?_
  have hkey : it.1 = it'.1 := (h.of_mem_zip hmem).2.2.1
  rw [toArg, toArg, hkey, String.append_right_inj]

/-- **The texts are read from the variables** if the keys have names of their own. -/
theorem toEnvVars_eq_iff (hnames : (names qt apply config).Nodup) (h : Alike R config config') :
    toEnvVars qt config apply = toEnvVars qt config' apply ↔ SameTexts qt config config' := by
  have hread : ∀ c : SortedMap String Json, c.keys = config.keys → ∀ it ∈ c.entries,
      (toEnvVars qt c apply).find? (keyToEnvName qt it.1 apply.envPrefix) =
        some (valueToString qt it.2) := by
    intro c hc it hit
    rw [toEnvVars_eq]
    apply find?_ofEntries
    · rw [names_map, names, hc]
      exact hnames
    · exact List.mem_map_of_mem hit
  rw [SameTexts, h.iff_zip]
  constructor
  · intro heq it it' hmem
    obtain ⟨hit, hit', hkey, -⟩ := h.of_mem_zip hmem
    have hvalue := hread config rfl it hit
    rw [heq, hkey, hread config' h.keys_eq.symm it' hit'] at hvalue
    exact (Option.some.inj hvalue).symm
  · intro htexts
    have hvariables : config.entries.map (variableOf qt apply) =
        config'.entries.map (variableOf qt apply) := by
      rw [← List.forall₂_eq_eq_eq, List.forall₂_map_left_iff, List.forall₂_map_right_iff,
        List.forall₂_iff_zip]
      refine ⟨List.Forall₂.length_eq h, fun {it it'} hmem => ?_⟩
      rw [variableOf, variableOf, (h.of_mem_zip hmem).2.2.1, htexts it it' hmem]
    rw [toEnvVars_eq, toEnvVars_eq, hvariables]

end Alike

/-! ## §6. What the variables and the arguments say -/

section Injected

variable {qt : InjectorQt} {config config' : SortedMap String Json}

/-- **What the variables and the arguments say** of two configurations, objects apart: there is an
argument for each key and a variable for each name, and with the same keys and types they are the
same if and only if the values are written alike. -/
structure Injected (qt : InjectorQt) (apply : ConfigApply)
    (config config' : SortedMap String Json) : Prop where
  args : (toArgs qt config).length = config.keys.length
  envVars : (toEnvVars qt config apply).keys.length = (names qt apply config).dedup.length
  everyKey : (toEnvVars qt config apply).keys.length = config.keys.length ↔
    (names qt apply config).Nodup
  texts : ∀ key v w, (key, v) ∈ config.entries → (key, w) ∈ config'.entries →
    sameType v w = true → isObject v = false →
      (valueToString qt v = valueToString qt w ↔ WrittenAlike v w)
  sameArgs : Alike (fun v w => sameType v w = true) config config' →
    (∀ it ∈ config.entries, isObject it.2 = false) →
      (toArgs qt config = toArgs qt config' ↔ Alike WrittenAlike config config')
  sameEnvVars : Alike (fun v w => sameType v w = true) config config' →
    (∀ it ∈ config.entries, isObject it.2 = false) → (names qt apply config).Nodup →
      (toEnvVars qt config apply = toEnvVars qt config' apply ↔ Alike WrittenAlike config config')

theorem sameTexts_iff (h : Documented qt config config')
    (htypes : Alike (fun v w => sameType v w = true) config config') :
    SameTexts qt config config' ↔ Alike WrittenAlike config config' := by
  refine htypes.congr ?_
  intro key v w hv hw htype
  exact text_iff h hv hw htype

theorem injected (h : Documented qt config config') (apply : ConfigApply) :
    Injected qt apply config config' := by
  constructor
  · rw [toArgs, List.length_map, keys, List.length_map]
  · exact length_envVars
  · exact envVars_iff
  · intro key v w hv hw htype _
    exact text_iff h hv hw htype
  · intro htypes _
    rw [toArgs_eq_iff htypes, sameTexts_iff h htypes]
  · intro htypes _ hnames
    rw [toEnvVars_eq_iff hnames htypes, sameTexts_iff h htypes]

end Injected

/-! ## §7. A list and a fraction -/

/-- Six digits after the point. -/
theorem sixDigits_fraction {d : ℚ} {m : Int} (hlow : 1 / 10 ≤ d) (hhigh : d < 1)
    (hm : d * 10 ^ 6 = m) : sixDigits d = d := by
  have hpos : 0 < d := by linarith
  have hlog : Int.log 10 d = -1 := by
    have hle : -1 ≤ Int.log 10 d :=
      (Int.zpow_le_iff_le_log (by decide) hpos).mp (by norm_num; linarith)
    have hlt : Int.log 10 d < 0 :=
      (Int.lt_zpow_iff_log_lt (by decide) hpos).mp (by norm_num; exact hhigh)
    omega
  have hdigits : d / 10 ^ (-1 - 5 : Int) = m := by
    rw [← hm]
    norm_num
    ring
  have hfloor : ⌊(m : ℚ) + 1 / 2⌋ = m := by
    rw [Int.floor_intCast_add]
    norm_num
  unfold sixDigits
  dsimp only
  rw [abs_of_pos hpos, hlog, hdigits, hfloor, if_neg (by linarith), ← hdigits, one_mul]
  exact div_mul_cancel₀ d (by norm_num)

/-- Text that is no integer. -/
theorem ne_toString {text : String} {n : Int}
    (h : Cli.toBoundedInt n n text.toList = none) : text ≠ toString n := by
  rintro rfl
  rw [Cli.toBoundedInt_toString, if_pos ⟨le_rfl, le_rfl⟩] at h
  cases h

/-- A configuration of a list and a fraction. -/
def listAndFraction (items : List Json) (q : ℚ) : SortedMap String Json :=
  ⟨[("a-list", .arr items), ("x", .num q)],
    List.pairwise_pair.mpr (by decide +kernel : ("a-list" : String) < "x")⟩

/-- The texts of a half and of a quarter, and of lists of one boolean. -/
def smallTexts : InjectorQt where
  toUpper key := key.toUpper
  number d := if d = 1 / 2 then "0.5" else "0.25"
  toJson items :=
    match items with
    | [.bool true] => "[true]"
    | [.bool false] => "[false]"
    | _ => "[]"

theorem hasDouble_fraction {items : List Json} {q d : ℚ}
    (h : HasDouble (listAndFraction items q) d) : d = (Json.num q).toDouble := by
  obtain ⟨key, r, hmem, rfl⟩ := h
  rcases List.mem_cons.mp hmem with heq | hmem
  · cases heq
  · cases List.mem_singleton.mp hmem
    rfl

theorem arr_listAndFraction {items items' : List Json} {q : ℚ} {key : String}
    (h : (key, Json.arr items') ∈ (listAndFraction items q).entries) : items' = items := by
  rcases List.mem_cons.mp h with heq | hmem
  · cases heq
    rfl
  · cases List.mem_singleton.mp hmem

theorem sixDigits_half : sixDigits (1 / 2) = 1 / 2 :=
  @sixDigits_fraction _ 500000 (by norm_num) (by norm_num) (by norm_num)

theorem sixDigits_quarter : sixDigits (1 / 4) = 1 / 4 :=
  @sixDigits_fraction _ 250000 (by norm_num) (by norm_num) (by norm_num)

theorem documented_small : Documented smallTexts (listAndFraction [.bool true] (1 / 2))
    (listAndFraction [.bool false] (1 / 4)) := by
  have hhalf : (Json.num (1 / 2)).toDouble = 1 / 2 := by decide +kernel
  have hquarter : (Json.num (1 / 4)).toDouble = 1 / 4 := by decide +kernel
  have htextHalf : smallTexts.number (1 / 2) = "0.5" := if_pos rfl
  have htextQuarter : smallTexts.number (1 / 4) = "0.25" := if_neg (by norm_num)
  have hfraction : ∀ (n : Int) (d : ℚ), 0 < d → d < 1 → d ≠ n := by
    rintro n d hpos hlt rfl
    have hn : 0 < n := by exact_mod_cast hpos
    have hn' : n < 1 := by exact_mod_cast hlt
    omega
  constructor
  · intro a b ha hb _ _
    rw [hasDouble_fraction ha, hasDouble_fraction hb, hhalf, hquarter, sixDigits_half,
      sixDigits_quarter, htextHalf, htextQuarter]
    exact iff_of_false (by decide) (by norm_num)
  · intro a n ha _
    rcases ha with ha | ha
    · rw [hasDouble_fraction ha, hhalf, sixDigits_half, htextHalf]
      exact iff_of_false (ne_toString rfl) fun h => hfraction n _ (by norm_num) (by norm_num) h.1
    · rw [hasDouble_fraction ha, hquarter, sixDigits_quarter, htextQuarter]
      exact iff_of_false (ne_toString rfl) fun h => hfraction n _ (by norm_num) (by norm_num) h.1
  · intro key key' items items' hitems hitems' htext
    rw [arr_listAndFraction hitems, arr_listAndFraction hitems'] at htext
    exact absurd (show "[true]" = "[false]" from htext) (by decide)

/-- A half and a quarter are told apart, and so are the two lists. -/
theorem fraction_written_apart {key : String} {v w : Json}
    (hv : (key, v) ∈ (listAndFraction [.bool true] (1 / 2)).entries)
    (hw : (key, w) ∈ (listAndFraction [.bool false] (1 / 4)).entries) : ¬ WrittenAlike v w := by
  have hhalf : (Json.num (1 / 2)).toDouble = 1 / 2 := by decide +kernel
  have hquarter : (Json.num (1 / 4)).toDouble = 1 / 4 := by decide +kernel
  simp only [listAndFraction, List.mem_cons, List.not_mem_nil, or_false,
    Prod.mk.injEq] at hv hw
  obtain ⟨hkey, rfl⟩ | ⟨hkey, rfl⟩ := hv <;> obtain ⟨hkey', rfl⟩ | ⟨hkey', rfl⟩ := hw
  · intro halike
    cases (show Json.arr [.bool true] = .arr [.bool false] from halike)
  · exact absurd (hkey.symm.trans hkey') (by decide)
  · exact absurd (hkey.symm.trans hkey') (by decide)
  · have hints : isInt (1 / 2 : ℚ) = false ∧ isInt (1 / 4 : ℚ) = false := by decide +kernel
    intro halike
    apply halike
    rw [hhalf, hquarter, ToldApart, hints.1, hints.2]
    show sixDigits (1 / 2) ≠ sixDigits (1 / 4)
    rw [sixDigits_half, sixDigits_quarter]
    norm_num

/-- The two configurations have different arguments and different variables. -/
theorem injected_fraction :
    let config := listAndFraction [.bool true] (1 / 2)
    let config' := listAndFraction [.bool false] (1 / 4)
    toArgs smallTexts config ≠ toArgs smallTexts config' ∧
      toEnvVars smallTexts config {} ≠ toEnvVars smallTexts config' {} := by
  intro config config'
  have htypes : Alike (fun v w => sameType v w = true) config config' :=
    .cons ⟨rfl, rfl⟩ (.cons ⟨rfl, rfl⟩ .nil)
  have hobjects : ∀ it ∈ config.entries, isObject it.2 = false := by
    simp [config, listAndFraction, isObject]
  have hapart : ¬ Alike WrittenAlike config config' := by
    intro halike
    have hlist := (halike.iff_zip.mp halike) ("a-list", .arr [.bool true])
      ("a-list", .arr [.bool false]) (List.mem_cons_self ..)
    exact @fraction_written_apart "a-list" _ _ (List.mem_cons_self ..)
      (List.mem_cons_self ..) hlist
  have hinjected := injected documented_small {}
  constructor
  · rw [Ne, hinjected.sameArgs htypes hobjects]
    exact hapart
  · rw [Ne, hinjected.sameEnvVars htypes hobjects (by decide +kernel)]
    exact hapart

/-! ## §8. What is lost -/

end Stdiolink.Host.ConfigInjector
