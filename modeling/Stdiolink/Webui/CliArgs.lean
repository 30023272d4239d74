/-
  Stdiolink.Webui.CliArgs — the command lines that the web UI shows, `utils/cliArgs.ts`.

  The renderer of the web UI is the one of the C++ code again: the members of an object by
  `localeCompare`, the literals by `JSON.stringify`, and a key with a newline at its end between
  quotes.  A service splits each argument at its first equals sign, which may stand in a quoted
  key.

  Main results:
    * `renderCliArgs_eq` — one argument for each leaf, in the order of the web UI;
    * `configLine_taken_iff` — which configs a service takes as they are shown.
-/
import Stdiolink.Cli.OtherTexts
import Stdiolink.Cli.ServiceArgs
import Stdiolink.Meta.FilledConfig
import Mathlib.Data.List.Sort

namespace Stdiolink.Webui

open Stdiolink.Lib
open Stdiolink.Protocol
open Stdiolink.Cli

/-! ## §1. The renderer -/

/-- What the renderer uses of the browser: `JSON.stringify` of a scalar, and the order of texts in
its locale. -/
structure Browser where
  stringify : Json → String
  localeCompare : String → String → Int

/-- The expression `^[A-Za-z_][A-Za-z0-9_-]*$`, whose `$` is the end of the text here. -/
def isPlainKey (key : String) : Bool :=
  match key.toList with
  | [] => false
  | c :: rest => (c.isAlpha || c == '_') && rest.all fun d => d.isAlphanum || d == '_' || d == '-'

def encodePathKey (key : String) (isRoot : Bool) : String :=
  if isPlainKey key then (if isRoot then key else "." ++ key)
  else
    let escaped := replace '\\' ['\\', '\\'] key.toList
    let escaped := replace '"' ['\\', '"'] escaped
    "[\"" ++ String.ofList escaped ++ "\"]"

/-- `sort(([a], [b]) => a.localeCompare(b))`: entries whose keys compare as equal stay in order. -/
def sortByKey {α : Type} (js : Browser) (entries : List (String × α)) : List (String × α) :=
  entries.insertionSort fun a b => js.localeCompare a.1 b.1 ≤ 0

mutual

/-- `renderPath`: the arguments it adds.  The order of the members looks at their keys alone, so
they are rendered first and sorted then. -/
def renderPath (js : Browser) (optionPrefix pre : String) (value : Json) : List String :=
  match value with
  | .undefined => []
  | .arr items =>
      if items.isEmpty then [optionPrefix ++ pre ++ "=[]"]
      else renderItems js optionPrefix pre 0 items
  | .obj members =>
      if members.isEmpty then [optionPrefix ++ pre ++ "=\x7b\x7d"]
      else (sortByKey js (renderEntries js optionPrefix pre members)).flatMap Prod.snd
  | value => [optionPrefix ++ pre ++ "=" ++ js.stringify value]

def renderEntries (js : Browser) (optionPrefix pre : String) (members : List (String × Json)) :
    List (String × List String) :=
  match members with
  | [] => []
  | (key, child) :: rest =>
      (key, renderPath js optionPrefix (pre ++ encodePathKey key false) child) ::
        renderEntries js optionPrefix pre rest

def renderItems (js : Browser) (optionPrefix pre : String) (index : Nat) (items : List Json) :
    List String :=
  match items with
  | [] => []
  | item :: rest =>
      renderPath js optionPrefix (pre ++ "[" ++ toString index ++ "]") item ++
        renderItems js optionPrefix pre (index + 1) rest

end

/-- `renderCliArgs`. -/
def renderCliArgs (js : Browser) (params : List (String × Json)) (optionPrefix : String) :
    List String :=
  (sortByKey js (params.map fun member =>
    (member.1, Webui.renderPath js optionPrefix (encodePathKey member.1 true) member.2))).flatMap
      Prod.snd

/-! ## §2. The leaves in the order of the web UI -/

mutual

/-- The leaves of a value, the members of an object in the order of the locale. -/
def sortedLeaves (js : Browser) (value : Json) : List (CliPath × Json) :=
  match value with
  | .arr items => if items.isEmpty then [([], .arr items)] else sortedItemLeaves js 0 items
  | .obj members =>
      if members.isEmpty then [([], .obj members)]
      else (sortByKey js (entryLeaves js members)).flatMap Prod.snd
  | value => [([], value)]

def entryLeaves (js : Browser) (members : List (String × Json)) :
    List (String × List (CliPath × Json)) :=
  match members with
  | [] => []
  | (key, child) :: rest =>
      (key, (sortedLeaves js child).map (above (.key key))) :: entryLeaves js rest

def sortedItemLeaves (js : Browser) (i : Nat) (items : List Json) : List (CliPath × Json) :=
  match items with
  | [] => []
  | item :: rest =>
      (sortedLeaves js item).map (above (.index i)) ++ sortedItemLeaves js (i + 1) rest

end

/-- The leaves of a config in the order of the web UI. -/
def configLeaves (js : Browser) (params : List (String × Json)) : List (CliPath × Json) :=
  (sortByKey js (entryLeaves js params)).flatMap Prod.snd

theorem sortByKey_perm {α : Type} (js : Browser) (entries : List (String × α)) :
    (sortByKey js entries).Perm entries := List.perm_insertionSort _ _

/-- The order looks at the keys alone. -/
theorem sortByKey_map {α β : Type} (js : Browser) (f : α → β) (entries : List (String × α)) :
    sortByKey js (entries.map fun e => (e.1, f e.2)) =
      (sortByKey js entries).map fun e => (e.1, f e.2) := by
  symm
  apply List.map_insertionSort
  intro a _ b _
  rfl

variable {js : Browser}

theorem entryLeaves_perm {m : List (String × Json)}
    (h : ∀ key v, (key, v) ∈ m → (sortedLeaves js v).Perm (leaves v)) :
    ((entryLeaves js m).flatMap Prod.snd).Perm (memberLeaves m) := by
  induction m with
  | nil => exact .refl _
  | cons member rest ih =>
    obtain ⟨key, v⟩ := member
    rw [entryLeaves, List.flatMap_cons, memberLeaves]
    apply List.Perm.append
    · exact (h key v (by simp)).map _
    · exact ih fun k w hw => h k w (List.mem_cons_of_mem _ hw)

theorem sortedItemLeaves_perm {l : List Json} (h : ∀ v ∈ l, (sortedLeaves js v).Perm (leaves v))
    (i : Nat) :
    (sortedItemLeaves js i l).Perm (itemLeaves i l) := by
  induction l generalizing i with
  | nil => exact .refl _
  | cons v rest ih =>
    rw [sortedItemLeaves, itemLeaves]
    apply List.Perm.append
    · exact (h v (by simp)).map _
    · exact ih (fun w hw => h w (List.mem_cons_of_mem _ hw)) (i + 1)

/-- **The order changes, the leaves do not.** -/
theorem sortedLeaves_perm (js : Browser) (v : Json) : (sortedLeaves js v).Perm (leaves v) := by
  induction v using Json.ind with
  | arr items ih =>
    rw [sortedLeaves, leaves]
    split
    · exact .refl _
    · exact sortedItemLeaves_perm ih 0
  | obj members ih =>
    rw [sortedLeaves, leaves]
    split
    · exact .refl _
    · exact ((sortByKey_perm js _).flatMap_right _).trans (entryLeaves_perm ih)
  | _ => simp [sortedLeaves, leaves]

theorem configLeaves_perm (js : Browser) (params : List (String × Json)) :
    (configLeaves js params).Perm (memberLeaves params) :=
  ((sortByKey_perm js _).flatMap_right _).trans
    (entryLeaves_perm fun _ v _ => sortedLeaves_perm js v)

/-! ## §3. One argument for each leaf -/

/-- The literal of a leaf. -/
def cliLiteral (js : Browser) (value : Json) : String :=
  match value with
  | .obj _ => "\x7b\x7d"
  | .arr _ => "[]"
  | value => js.stringify value

/-- The text of a path. -/
def pathText (path : CliPath) : String :=
  match path with
  | .key key :: rest =>
      String.ofList (keyText isPlainKey key ++ rest.flatMap (segmentText isPlainKey))
  | path => String.ofList (path.flatMap (segmentText isPlainKey))

/-- The path and the literal that are shown for a leaf. -/
def shownArg (js : Browser) (e : CliPath × Json) : RawCliArg := ⟨pathText e.1, cliLiteral js e.2⟩

/-- The argument for a leaf behind a prefix. -/
def shownBehind (js : Browser) (optionPrefix pre : String) (e : CliPath × Json) : String :=
  optionPrefix ++ (pre ++ String.ofList (e.1.flatMap (segmentText isPlainKey))) ++ "=" ++
    cliLiteral js e.2

theorem encodePathKey_root (key : String) :
    (encodePathKey key true).toList = keyText isPlainKey key := by
  rw [encodePathKey, keyText]
  split <;> rfl

theorem encodePathKey_nested (key : String) :
    (encodePathKey key false).toList = segmentText isPlainKey (.key key) := by
  rw [encodePathKey, segmentText]
  split
  · simp [String.toList_append]
  · rfl

/-- A prefix takes in the first segment of the path. -/
theorem shownBehind_above (js : Browser) (optionPrefix pre text : String) (s : CliPathSegment)
    (htext : text.toList = segmentText isPlainKey s) (e : CliPath × Json) :
    shownBehind js optionPrefix (pre ++ text) e = shownBehind js optionPrefix pre (above s e) := by
  apply String.toList_inj.mp
  simp [shownBehind, String.toList_append, htext]

/-- The renderer goes through the leaves, behind any prefix. -/
def ShowsLeaves (js : Browser) (v : Json) : Prop :=
  ∀ optionPrefix pre, renderPath js optionPrefix pre v =
    (sortedLeaves js v).map (shownBehind js optionPrefix pre)

theorem renderEntries_eq {m : List (String × Json)} (h : ∀ key v, (key, v) ∈ m → ShowsLeaves js v)
    (optionPrefix pre : String) :
    renderEntries js optionPrefix pre m = (entryLeaves js m).map fun entry =>
      (entry.1, entry.2.map (shownBehind js optionPrefix pre)) := by
  induction m with
  | nil => rfl
  | cons member rest ih =>
    obtain ⟨key, v⟩ := member
    rw [renderEntries, entryLeaves, List.map_cons, ih fun k w hw => h k w (List.mem_cons_of_mem _ hw),
      h key v (by simp), List.map_map]
    congr 2
    apply List.map_congr_left
    intro e _
    exact shownBehind_above js optionPrefix pre _ _ (encodePathKey_nested key) e

theorem renderItems_eq {l : List Json} (h : ∀ v ∈ l, ShowsLeaves js v) (optionPrefix pre : String)
    (i : Nat) :
    renderItems js optionPrefix pre i l =
      (sortedItemLeaves js i l).map (shownBehind js optionPrefix pre) := by
  induction l generalizing i with
  | nil => rfl
  | cons v rest ih =>
    rw [renderItems, sortedItemLeaves, List.map_append,
      ih (fun w hw => h w (List.mem_cons_of_mem _ hw)), h v (by simp), List.map_map]
    congr 1
    apply List.map_congr_left
    intro e _
    have hindex : ("[" ++ toString i ++ "]").toList = segmentText isPlainKey (.index i) := rfl
    rw [Function.comp_apply, ← shownBehind_above js optionPrefix pre _ _ hindex]
    simp [String.append_assoc]

/-- Entries in order give their leaves in order. -/
theorem flatMap_sortByKey (js : Browser) (f : CliPath × Json → String)
    (entries : List (String × List (CliPath × Json))) :
    (sortByKey js (entries.map fun entry => (entry.1, entry.2.map f))).flatMap Prod.snd =
      ((sortByKey js entries).flatMap Prod.snd).map f := by
  rw [sortByKey_map js (List.map f), List.flatMap_map, List.map_flatMap]

/-- **The renderer goes through the leaves.** -/
theorem showsLeaves (js : Browser) {v : Json} (h : Held v) : ShowsLeaves js v := by
  induction h with
  | @arr l _ _ ih =>
    intro optionPrefix pre
    rw [renderPath, sortedLeaves]
    split
    · simp [shownBehind, cliLiteral, String.append_assoc]
    · exact renderItems_eq ih optionPrefix pre 0
  | @obj m _ _ ih =>
    intro optionPrefix pre
    rw [renderPath, sortedLeaves]
    split
    · simp [shownBehind, cliLiteral, String.append_assoc]
    · rw [renderEntries_eq ih, flatMap_sortByKey]
  | _ =>
    intro optionPrefix pre
    simp [renderPath, sortedLeaves, shownBehind, cliLiteral]

/-- **One argument for each leaf**, in the order of the web UI. -/
theorem renderCliArgs_eq (js : Browser) {params : List (String × Json)}
    (hparams : Held (.obj params)) :
    renderCliArgs js params "--config." =
      (configLeaves js params).map fun e => ServiceArgs.configArg (shownArg js e) := by
  have hentries : (params.map fun member => (member.1,
      Webui.renderPath js "--config." (encodePathKey member.1 true) member.2)) =
      (entryLeaves js params).map fun entry =>
        (entry.1, entry.2.map fun e => ServiceArgs.configArg (shownArg js e)) := by
    cases hparams with
    | obj hsorted hheld =>
      clear hsorted
      induction params with
      | nil => rfl
      | cons member rest ih =>
        obtain ⟨key, v⟩ := member
        rw [List.map_cons, entryLeaves, List.map_cons,
          ih fun k w hw => hheld k w (List.mem_cons_of_mem _ hw)]
        congr 2
        rw [showsLeaves js (hheld key v (by simp)), List.map_map]
        apply List.map_congr_left
        intro e _
        apply String.toList_inj.mp
        simp [shownBehind, ServiceArgs.configArg, shownArg, pathText, String.toList_append,
          encodePathKey_root]
  rw [renderCliArgs, hentries, flatMap_sortByKey, configLeaves]

/-! ## §4. The paths -/

/-- A plain key has letters, digits, underscores and hyphens. -/
theorem chars_of_plain {key : String} (h : isPlainKey key = true) {c : Char}
    (hc : c ∈ key.toList) : (c.isAlphanum || c == '_' || c == '-') = true := by
  unfold isPlainKey at h
  cases hchars : key.toList with
  | nil =>
    rw [hchars] at hc
    cases hc
  | cons first rest =>
    rw [hchars] at h hc
    obtain ⟨hfirst, hrest⟩ := Bool.and_eq_true_iff.mp h
    obtain rfl | hc := List.mem_cons.mp hc
    · obtain halpha | hunderscore := Bool.or_eq_true_iff.mp hfirst
      · simp [Char.isAlphanum, halpha]
      · simp [hunderscore]
    · exact List.all_eq_true.mp hrest c hc

/-- What the web UI writes as it is the service reads as it is. -/
theorem isSimpleKey_of_plain (key : String) (h : isPlainKey key = true) :
    isSimpleKey key = true := by
  have hlast : key.toList.getLast? ≠ some '\n' := fun hlast =>
    absurd (chars_of_plain h (List.mem_of_getLast? hlast)) (by decide)
  unfold isSimpleKey
  dsimp only
  rw [if_neg hlast]
  exact h

/-- No equals sign stands outside quotes. -/
theorem equals_of_plain (key : String) (h : isPlainKey key = true) : '=' ∉ key.toList :=
  fun hmem => absurd (chars_of_plain h hmem) (by decide)

/-- The way to a leaf of a config. -/
theorem leaf_path {config : List (String × Json)} (hconfig : Held (.obj config))
    {e : CliPath × Json} (he : e ∈ memberLeaves config) :
    ∃ key path, e.1 = .key key :: path ∧ ∀ s ∈ path, IndexFits s := by
  obtain ⟨key, v, e', hmem, he', rfl⟩ := mem_memberLeaves.mp he
  cases hconfig with
  | obj _ hheld => exact ⟨key, e'.1, rfl, indexFits_leaves (hheld key v hmem) e' he'⟩

section Leaf

variable {config : List (String × Json)} (hconfig : Held (.obj config)) {e : CliPath × Json}
  (he : e ∈ memberLeaves config)

include hconfig he

theorem parsePath_shown (js : Browser) : parsePath (shownArg js e).path = .ok e.1 := by
  obtain ⟨key, path, hpath, hfits⟩ := leaf_path hconfig he
  rw [shownArg, hpath]
  exact parsePath_text isSimpleKey_of_plain key hfits String.toList_ofList

theorem shown_equals (js : Browser) :
    '=' ∈ (shownArg js e).path.toList ↔ ∃ key, .key key ∈ e.1 ∧ '=' ∈ key.toList := by
  obtain ⟨key, path, hpath, hfits⟩ := leaf_path hconfig he
  rw [shownArg, hpath, pathText, String.toList_ofList]
  exact mem_pathText (by unfold KeyChar; decide) isPlainKey key hfits

/-- Split at an equals sign, a path is none. -/
theorem parsePath_shown_cut (js : Browser) (h : '=' ∈ (shownArg js e).path.toList) :
    ∃ error, parsePath (ServiceArgs.cutArg (shownArg js e)).path = .error error := by
  obtain ⟨key, path, hpath, hfits⟩ := leaf_path hconfig he
  have htext : (shownArg js e).path.toList =
      keyText isPlainKey key ++ path.flatMap (segmentText isPlainKey) := by
    rw [shownArg, hpath, pathText, String.toList_ofList]
  apply ServiceArgs.parsePath_cut isSimpleKey_of_plain equals_of_plain hfits
  · rw [← htext]
    exact h
  · rw [ServiceArgs.cutArg, String.toList_ofList, ← htext]
    exact ServiceArgs.takeWhile_mem h _

end Leaf

/-! ## §5. Which configs a service takes -/

/-- A service that gets the arguments of a config as they are shown, with its directory somewhere
between them, takes them all, and reads the config from them by its schema. -/
def TakenAsShown (js : Browser) (qt : SchemaQt) (schema : Meta.ServiceConfigSchema)
    (config : List (String × Json)) (program dir : String) (n : Nat) : Prop :=
  let shown := renderCliArgs js config "--config."
  let result := ServiceArgs.parse qt.toJsonQt (ServiceArgs.commandArgs program dir n shown)
  result.error = "" ∧ result.rawCliConfigArgs.map ServiceArgs.configArg = shown ∧
    CliSchemaParser.parseArgs qt result.rawCliConfigArgs schema.fields = .ok config

section Config

variable {js : Browser} {qt : SchemaQt} {config : List (String × Json)}

/-- The shown arguments say the leaves. -/
theorem written_shown (hconfig : Held (.obj config))
    (hjs : ∀ e ∈ memberLeaves config, CliSchemaParser.LiteralReads qt e.2 (cliLiteral js e.2)) :
    CliSchemaParser.Written qt ((configLeaves js config).map (shownArg js))
      (configLeaves js config) := by
  rw [CliSchemaParser.Written, List.forall₂_map_left_iff, List.forall₂_same]
  intro e he
  have hmem := (configLeaves_perm js config).mem_iff.mp he
  exact ⟨parsePath_shown hconfig hmem js, hjs e hmem⟩

/-- The first of the shown arguments fit together, as the leaves of one config do. -/
theorem shown_fit (hconfig : Held (.obj config))
    (hjs : ∀ e ∈ memberLeaves config, CliSchemaParser.LiteralReads qt e.2 (cliLiteral js e.2))
    {before : List RawCliArg} (hbefore : before <+: (configLeaves js config).map (shownArg js)) :
    ∃ out, parseArgs qt.toJsonQt before .friendly = .ok out := by
  obtain ⟨es, hes, rfl⟩ := List.prefix_map_iff.mp hbefore
  have hmem : ∀ e ∈ es, e ∈ memberLeaves config := by
    intro e he
    exact (configLeaves_perm js config).mem_iff.mp (hes.subset he)
  have hparsed : Parsed qt.toJsonQt (es.map (shownArg js)) es := by
    rw [Parsed, List.forall₂_map_left_iff, List.forall₂_same]
    intro e he
    exact ⟨parsePath_shown hconfig (hmem e he) js, (hjs e (hmem e he)).parses⟩
  rw [(parseArgs_iff qt.toJsonQt .friendly _ es hparsed).1]
  -- the paths of a part of the leaves are no worse than those of all leaves
  have hall : Consistent (memberLeaves config) := by
    cases hconfig with
    | obj hsorted hheld =>
      exact (holds_memberLeaves hsorted fun key v h => holds_leaves (hheld key v h)).consistent
  refine ⟨hall.of_paths fun e he => ⟨e, hmem e he, rfl⟩, ?_⟩
  intro e he
  obtain ⟨key, path, hpath, -⟩ := leaf_path hconfig (hmem e he)
  exact ⟨key, path, hpath⟩

/-- Where no equals sign stands in a path, all arguments arrive as they are shown. -/
theorem parse_shown (hconfig : Held (.obj config))
    (hjs : ∀ e ∈ memberLeaves config, CliSchemaParser.LiteralReads qt e.2 (cliLiteral js e.2))
    (hequals : ∀ e ∈ memberLeaves config, '=' ∉ (shownArg js e).path.toList) (program : String)
    {dir : String} (hdir : ServiceArgs.IsServiceDir dir) (n : Nat) :
    ServiceArgs.parse qt.toJsonQt (ServiceArgs.commandArgs program dir n
        (renderCliArgs js config "--config.")) =
      ServiceArgs.plainResult dir ((configLeaves js config).map (shownArg js)) := by
  have hshown : renderCliArgs js config "--config." =
      ((configLeaves js config).map (shownArg js)).map ServiceArgs.configArg := by
    rw [renderCliArgs_eq js hconfig, List.map_map]
    rfl
  rw [hshown]
  apply ServiceArgs.parse_configArgs qt.toJsonQt program hdir n
  · intro raw hraw
    obtain ⟨e, he, rfl⟩ := List.mem_map.mp hraw
    exact hequals e ((configLeaves_perm js config).mem_iff.mp he)
  · intro before hbefore
    exact shown_fit hconfig hjs hbefore

/-- Where all arguments are accepted, no equals sign stands in a path. -/
theorem equals_of_accepted (hconfig : Held (.obj config)) {program dir : String}
    (hdir : ServiceArgs.IsServiceDir dir) {n : Nat}
    (haccepted : (ServiceArgs.parse qt.toJsonQt (ServiceArgs.commandArgs program dir n
      (renderCliArgs js config "--config."))).error = "") :
    ∀ e ∈ memberLeaves config, '=' ∉ (shownArg js e).path.toList := by
  -- the service splits each argument at its first equals sign
  have hcut : renderCliArgs js config "--config." = ((configLeaves js config).map
      fun e => ServiceArgs.cutArg (shownArg js e)).map ServiceArgs.configArg := by
    rw [renderCliArgs_eq js hconfig, List.map_map]
    apply List.map_congr_left
    intro e _
    exact (ServiceArgs.configArg_cutArg _).symm
  have hequals : ∀ raw ∈ (configLeaves js config).map fun e => ServiceArgs.cutArg (shownArg js e),
      '=' ∉ raw.path.toList := by
    intro raw hraw
    obtain ⟨e, -, rfl⟩ := List.mem_map.mp hraw
    exact ServiceArgs.cutArg_equals _
  rw [hcut] at haccepted
  obtain herror | ⟨-, hpaths⟩ := ServiceArgs.parse_paths qt.toJsonQt program hdir n hequals
  · exact absurd haccepted herror
  · intro e he hmem
    obtain ⟨error, herror⟩ := parsePath_shown_cut hconfig he js hmem
    have he' := (configLeaves_perm js config).mem_iff.mpr he
    obtain ⟨path, hpath⟩ := hpaths _ (List.mem_map.mpr ⟨e, he', rfl⟩)
    rw [herror] at hpath
    cases hpath

/-- **Which configs a service takes as they are shown.**  Of the configs that the schema accepts,
those without an equals sign in a key on the way to a leaf, in which the declarations keep every
value that they read. -/
theorem configLine_taken_iff (js : Browser) (qt : SchemaQt) (vqt : Meta.ValidatorQt)
    (schema : Meta.ServiceConfigSchema) (config : List (String × Json))
    (hconfig : Held (.obj config))
    (hqt : ∀ e ∈ memberLeaves config, CliSchemaParser.SchemaReads qt e.2)
    (hjs : ∀ e ∈ memberLeaves config, CliSchemaParser.LiteralReads qt e.2 (cliLiteral js e.2))
    (haccepted : (Meta.validate vqt schema config).valid = true) (program dir : String)
    (hdir : ServiceArgs.IsServiceDir dir) (n : Nat) :
    TakenAsShown js qt schema config program dir n ↔
      (∀ e ∈ memberLeaves config, ∀ key, .key key ∈ e.1 → '=' ∉ key.toList) ∧
      ∀ g w, CliSchemaParser.Reached schema.fields config g w → CliSchemaParser.Kept g w := by
  have hvalid : (Meta.validateObject vqt config schema.fields [] true).valid = true := by
    rw [Meta.validateObject_valid]
    exact ⟨(Meta.validate_valid vqt schema config).mp haccepted, by simp, by simp⟩
  -- once the paths arrive, the schema decides
  have hread : CliSchemaParser.parseArgs qt ((configLeaves js config).map (shownArg js))
        schema.fields = .ok config ↔
      ∀ g w, CliSchemaParser.Reached schema.fields config g w → CliSchemaParser.Kept g w := by
    rw [← CliSchemaParser.parseArgs_data_iff qt vqt schema.fields config hconfig hqt hvalid]
    exact CliSchemaParser.parseArgs_written hconfig hqt
      (fun g w hreached => (CliSchemaParser.checked_of_accepted hconfig hvalid hreached).type)
      (written_shown hconfig hjs) (configLeaves_perm js config) config
  have hkeys : (∀ e ∈ memberLeaves config, '=' ∉ (shownArg js e).path.toList) ↔
      ∀ e ∈ memberLeaves config, ∀ key, .key key ∈ e.1 → '=' ∉ key.toList := by
    apply forall₂_congr
    intro e he
    rw [shown_equals hconfig he js]
    simp
  rw [← hkeys, ← hread]
  constructor
  · intro h
    have hequals := equals_of_accepted hconfig hdir h.1
    have hparse := h.2.2
    rw [parse_shown hconfig hjs hequals program hdir n] at hparse
    exact ⟨hequals, hparse⟩
  · intro h
    obtain ⟨hequals, hparse⟩ := h
    rw [TakenAsShown, parse_shown hconfig hjs hequals program hdir n, renderCliArgs_eq js hconfig]
    exact ⟨rfl, List.map_map, hparse⟩

end Config

/-- A browser that writes one number. -/
def sevenBrowser : Browser := { stringify := fun _ => "7", localeCompare := fun _ _ => 0 }

theorem sevenBrowser_reads : ∀ e ∈ memberLeaves [("n", .num 7)],
    CliSchemaParser.LiteralReads CliSchemaParser.sevenQt e.2 (cliLiteral sevenBrowser e.2) := by
  intro e he
  have hleaves : memberLeaves [("n", .num 7)] = [([.key "n"], .num 7)] := rfl
  have htext : literalText CliSchemaParser.sevenQt.toJsonQt (.num 7) = "7" := by decide +kernel
  have hreads := CliSchemaParser.literalReads_literalText (v := .num 7) (by simp [IsLeaf])
    CliSchemaParser.sevenQt_reads
  rw [htext] at hreads
  rw [hleaves] at he
  rw [List.mem_singleton.mp he]
  exact hreads

/-- A number is taken as it is shown. -/
theorem number_taken_as_shown :
    TakenAsShown sevenBrowser CliSchemaParser.sevenQt { fields := [{ name := "n", type := .int64 }] }
      [("n", .num 7)] "stdiolink_service" "services/n" 0 := by
  refine (configLine_taken_iff sevenBrowser CliSchemaParser.sevenQt Meta.plainQt
    { fields := [{ name := "n", type := .int64 }] } [("n", .num 7)] CliSchemaParser.held_seven
    CliSchemaParser.sevenQt_reads_leaves sevenBrowser_reads (by decide +kernel)
    "stdiolink_service" "services/n" ⟨by decide, by decide, by decide, by decide⟩ 0).mpr
    ⟨?_, CliSchemaParser.kept_seven⟩
  intro e he key hkey
  have hleaves : memberLeaves [("n", .num 7)] = [([.key "n"], .num 7)] := rfl
  rw [hleaves] at he
  rw [List.mem_singleton.mp he, List.mem_singleton] at hkey
  rw [CliPathSegment.key.inj hkey]
  decide

/-- A key with an equals sign, in a config that its schema accepts: the argument that is shown is
split in the key, and the service refuses it. -/
theorem equals_in_key_refused :
    (Meta.validate Meta.plainQt { fields := [{ name := "a=b", type := .int64 }] }
      [("a=b", .num 7)]).valid = true ∧
    renderCliArgs sevenBrowser [("a=b", .num 7)] "--config." = ["--config.[\"a=b\"]=7"] ∧
    (ServiceArgs.parse CliSchemaParser.sevenQt.toJsonQt
      ["stdiolink_service", "services/n", "--config.[\"a=b\"]=7"]).error =
        "invalid config argument '--config.[\"a=b\"]=7': invalid path syntax: " ++
          "unterminated quoted key" ∧
    ¬ TakenAsShown sevenBrowser CliSchemaParser.sevenQt
      { fields := [{ name := "a=b", type := .int64 }] } [("a=b", .num 7)] "stdiolink_service"
      "services/n" 0 := by
  refine ⟨by decide +kernel, by decide +kernel, by decide +kernel, ?_⟩
  intro h
  have herror : (ServiceArgs.parse CliSchemaParser.sevenQt.toJsonQt (ServiceArgs.commandArgs
      "stdiolink_service" "services/n" 0
      (renderCliArgs sevenBrowser [("a=b", .num 7)] "--config."))).error ≠ "" := by decide +kernel
  exact herror h.1

end Stdiolink.Webui
