/-
  Stdiolink.Meta.ConfigPrecedence — what a merged config holds, path by path.

  `mergeAndValidate` merges the command line over the file and fills the result from the schema.
  Both recurse through the objects; a path of keys is described by what the two configs and the
  schema say about it, without either recursion.

  Main results:
    * `leafAt_deepMerge`     — the merge, path by path;
    * `leafAt_fillDefaults`  — filling adds the schema's default where nothing is given;
    * `config_precedence`    — the command line over the file over the defaults.
-/
import Stdiolink.Meta.ServiceConfig

namespace Stdiolink.Meta

open Stdiolink.Protocol
open Stdiolink.Server
open ValidationResult

/-! ## §1. Paths -/

/-- A value without the members of an object. -/
def shape : Json → Json
  | .obj _ => .obj []
  | v => v

/-- The value at a path, an object there as an object whatever its members: these have paths of
their own. -/
def leafAt (v : Json) (path : List String) : Option Json := (atPath v path).map shape

@[simp] theorem leafAt_nil (v : Json) : leafAt v [] = some (shape v) := rfl

theorem leafAt_cons (m : List (String × Json)) (key : String) (path : List String) :
    leafAt (.obj m) (key :: path) = (m.lookup key).bind fun w => leafAt w path := by
  unfold leafAt
  rw [atPath_cons]
  cases m.lookup key <;> rfl

/-- Nothing is below a value that is no object. -/
theorem leafAt_below {v : Json} (hv : ∀ m, v ≠ .obj m) {path : List String} (hpath : path ≠ []) :
    leafAt v path = none := by
  cases path with
  | nil => exact absurd rfl hpath
  | cons key path =>
    cases v with
    | obj m => exact absurd rfl (hv m)
    | _ => rfl

/-- Every object in the config has its members in key order: it is a `QJsonObject`. -/
def Ordered (m : List (String × Json)) : Prop :=
  ∀ path u, atPath (.obj m) path = some (.obj u) → Json.Sorted u

theorem Ordered.sorted {m : List (String × Json)} (h : Ordered m) : Json.Sorted m := h [] m rfl

theorem Ordered.inside {m u : List (String × Json)} (h : Ordered m) {key : String}
    (hkey : m.lookup key = some (.obj u)) : Ordered u := by
  intro path u' hu'
  apply h (key :: path)
  rw [atPath_cons, hkey]
  exact hu'

theorem Ordered.of_members {m : List (String × Json)} (h : Json.Sorted m)
    (hmembers : ∀ key u, m.lookup key = some (.obj u) → Ordered u) : Ordered m := by
  intro path u hu
  cases path with
  | nil =>
    obtain rfl := Json.obj.inj (Option.some.inj hu)
    exact h
  | cons key path =>
    rw [atPath_cons] at hu
    obtain ⟨w, hw, hrest⟩ := Option.bind_eq_some_iff.mp hu
    cases w with
    | obj m' => exact hmembers key m' hw path u hrest
    | _ => cases path <;> cases hrest

/-! ## §2. What is given -/

/-- A value that is no object stands above the path. -/
def overridden : List (String × Json) → List String → Bool
  | _, [] => false
  | m, key :: path =>
    match m.lookup key with
    | none => false
    | some (.obj u) => overridden u path
    | some _ => !path.isEmpty

/-- What the two configs give a path: the value of the command line, else that of the file unless
the command line has a value in its place above. -/
def given (fileConfig cliConfig : List (String × Json)) (path : List String) : Option Json :=
  match leafAt (.obj cliConfig) path with
  | some v => some v
  | none => if overridden cliConfig path then none else leafAt (.obj fileConfig) path

/-! ## §3. The merge -/

/-- **The merge**, name by name. -/
theorem lookup_deepMerge (base : List (String × Json)) {override : List (String × Json)}
    (h : Json.Sorted override) (key : String) :
    (deepMerge base override).lookup key =
      ((override.lookup key).map (mergeValue (base.lookup key))).or (base.lookup key) := by
  induction override generalizing base with
  | nil => rfl
  | cons member rest ih =>
    obtain ⟨k, v⟩ := member
    obtain ⟨hlt, hrest⟩ := List.pairwise_cons.mp h
    show (deepMerge (Json.insert base k (mergeValue (base.lookup k) v)) rest).lookup key = _
    rw [ih _ hrest, Json.lookup_insert, Json.lookup_member]
    by_cases hkey : key = k
    · subst hkey
      -- the name comes once
      have hnone : rest.lookup key = none := Json.lookup_eq_none_of_lt hlt
      rw [if_pos rfl, if_pos rfl, hnone]
      rfl
    · rw [if_neg hkey, if_neg hkey]

theorem mergeValue_of_not_obj (old : Option Json) {v : Json} (hv : ∀ m, v ≠ .obj m) :
    mergeValue old v = v := by
  cases v with
  | obj m => exact absurd rfl (hv m)
  | _ => rfl

theorem mergeValue_obj_of_not_obj {old : Option Json} (hold : ∀ u, old ≠ some (.obj u))
    (m : List (String × Json)) : mergeValue old (.obj m) = .obj m := by
  cases old with
  | none => rfl
  | some w =>
    cases w with
    | obj u => exact absurd rfl (hold u)
    | _ => rfl

theorem mergeValue_obj_obj (u m : List (String × Json)) :
    mergeValue (some (.obj u)) (.obj m) = .obj (deepMerge u m) := rfl

/-- **The merge, path by path.** -/
theorem leafAt_deepMerge (fileConfig : List (String × Json)) {cliConfig : List (String × Json)}
    (h : Ordered cliConfig) (path : List String) :
    leafAt (.obj (deepMerge fileConfig cliConfig)) path = given fileConfig cliConfig path := by
  induction path generalizing fileConfig cliConfig with
  | nil => rfl
  | cons key path ih =>
    unfold given overridden
    rw [leafAt_cons, leafAt_cons, leafAt_cons, lookup_deepMerge _ h.sorted]
    cases hcli : cliConfig.lookup key with
    | none => rfl
    | some v =>
      by_cases hobject : ∃ u, v = .obj u
      · obtain ⟨u, rfl⟩ := hobject
        by_cases hfile : ∃ w, fileConfig.lookup key = some (.obj w)
        · -- two objects are merged in turn
          obtain ⟨w, hw⟩ := hfile
          rw [hw, Option.map_some, mergeValue_obj_obj, Option.some_or, Option.bind_some,
            ih w (h.inside hcli)]
          rfl
        · -- the object of the command line takes the place of what is no object
          have hold : ∀ w, fileConfig.lookup key ≠ some (.obj w) := fun w hw => hfile ⟨w, hw⟩
          rw [Option.map_some, mergeValue_obj_of_not_obj hold, Option.some_or, Option.bind_some]
          cases hleaf : leafAt (.obj u) path with
          | some v => rfl
          | none =>
            have hpath : path ≠ [] := by
              rintro rfl
              cases hleaf
            have hnone : ((fileConfig.lookup key).bind fun w => leafAt w path) = none := by
              cases hw : fileConfig.lookup key with
              | none => rfl
              | some w =>
                apply leafAt_below _ hpath
                intro m hm
                exact hold m (by rw [hw, hm])
            dsimp only
            rw [hnone, ite_self]
      · have hno : ∀ u, v ≠ .obj u := fun u hu => hobject ⟨u, hu⟩
        rw [Option.map_some, mergeValue_of_not_obj _ hno, Option.some_or, Option.bind_some]
        cases path with
        | nil => rfl
        | cons k path =>
          rw [leafAt_below hno (by simp)]
          cases v with
          | obj u => exact absurd rfl (hno u)
          | _ => rfl

variable {fields : List FieldMeta}

/-- Object fields that hold objects in both configs hold objects in the merge. -/
theorem Clash.of_deepMerge {fileConfig cliConfig : List (String × Json)}
    (hordered : Ordered cliConfig) (h : Clash fields (deepMerge fileConfig cliConfig)) :
    Clash fields fileConfig ∨ Clash fields cliConfig := by
  generalize hmerged : deepMerge fileConfig cliConfig = merged at h
  induction h generalizing fileConfig cliConfig with
  | @here fields d f w hf hnested hlookup hno =>
    subst hmerged
    rw [lookup_deepMerge _ hordered.sorted] at hlookup
    cases hcli : cliConfig.lookup f.name with
    | none =>
      rw [hcli] at hlookup
      exact .inl (.here hf hnested hlookup hno)
    | some v =>
      rw [hcli, Option.map_some, Option.some_or] at hlookup
      have hw := Option.some.inj hlookup
      by_cases hobject : ∃ u, v = .obj u
      · obtain ⟨u, rfl⟩ := hobject
        -- what is merged with an object is an object
        unfold mergeValue at hw
        split at hw
        · exact absurd hw.symm (hno _)
        · exact absurd hw.symm (hno _)
      · exact .inr (.here hf hnested hcli fun u hu => hobject ⟨u, hu⟩)
  | @inside fields d m f hf hnested hlookup hinside ih =>
    subst hmerged
    rw [lookup_deepMerge _ hordered.sorted] at hlookup
    cases hcli : cliConfig.lookup f.name with
    | none =>
      rw [hcli] at hlookup
      exact .inl (.inside hf hnested hlookup hinside)
    | some v =>
      rw [hcli, Option.map_some, Option.some_or] at hlookup
      have hm := Option.some.inj hlookup
      by_cases hobject : ∃ u, v = .obj u
      · obtain ⟨u, rfl⟩ := hobject
        by_cases hfile : ∃ w, fileConfig.lookup f.name = some (.obj w)
        · obtain ⟨w, hw⟩ := hfile
          rw [hw, mergeValue_obj_obj] at hm
          obtain hclash | hclash := ih (hordered.inside hcli) (Json.obj.inj hm)
          · exact .inl (.inside hf hnested hw hclash)
          · exact .inr (.inside hf hnested hcli hclash)
        · rw [mergeValue_obj_of_not_obj fun w hw => hfile ⟨w, hw⟩] at hm
          obtain rfl := Json.obj.inj hm
          exact .inr (.inside hf hnested hcli hinside)
      · have hno : ∀ u, v ≠ .obj u := fun u hu => hobject ⟨u, hu⟩
        rw [mergeValue_of_not_obj _ hno] at hm
        exact absurd hm (hno m)

/-! ## §4. The defaults -/

/-- What an object that is filled holds at a path: what stands there, or the first default of the
name; inside an object field, with its fields in turn. -/
def filledAt : List FieldMeta → List (String × Json) → List String → Option Json
  | _, _, [] => some (.obj [])
  | fields, d, key :: path =>
    (started fields d key).bind fun v =>
      if nestedName fields key then filledAt (innerFields fields key) v.toObject path
      else leafAt v path

/-- The default of the schema at a path to which nothing is given: what filling an empty object
makes of the first name that is not given, under the declarations at the object above it. -/
def defaultAt : List FieldMeta → (List String → Option Json) → List String → Option Json
  | _, _, [] => none
  | fields, given, key :: path =>
    match given [key] with
    | some (.obj _) => defaultAt (innerFields fields key) (fun q => given (key :: q)) path
    | some _ => none
    | none => filledAt fields [] (key :: path)

/-- **Filling, path by path.** -/
theorem leafAt_filled (fields : List FieldMeta) (d : List (String × Json)) (path : List String) :
    leafAt (.obj (fillDefaults d fields)) path = filledAt fields d path := by
  induction path generalizing fields d with
  | nil => rfl
  | cons key path ih =>
    rw [leafAt_cons, lookup_fillDefaults]
    unfold filledAt
    cases started fields d key with
    | none => cases nestedName fields key <;> rfl
    | some v =>
      cases nestedName fields key with
      | false => rfl
      | true => exact ih _ _

/-- Where nothing is declared nothing is added. -/
theorem defaultAt_nil (given : List String → Option Json) (path : List String) :
    defaultAt [] given path = none := by
  induction path generalizing given with
  | nil => rfl
  | cons key path ih =>
    unfold defaultAt
    cases given [key] with
    | none => rfl
    | some v =>
      cases v with
      | obj m => exact ih _
      | _ => rfl

/-- A clash inside a name is a clash. -/
theorem Clash.of_innerFields {d u : List (String × Json)} {key : String}
    (hkey : d.lookup key = some (.obj u)) (h : Clash (innerFields fields key) u) :
    Clash fields d := by
  have hinside : ∀ {g : FieldMeta}, g ∈ innerFields fields key →
      (∀ {f : FieldMeta}, g ∈ f.fields → Clash f.fields u) → Clash fields d := by
    intro g hg hclash
    obtain ⟨f, hf, rfl, hnested, hgf⟩ := mem_innerFields.mp hg
    exact .inside hf hnested hkey (hclash hgf)
  cases h with
  | here hg hnested hlookup hno => exact hinside hg fun hgf => .here hgf hnested hlookup hno
  | inside hg hnested hlookup hrest =>
    exact hinside hg fun hgf => .inside hgf hnested hlookup hrest

/-- **Filling adds the default where nothing is given.** -/
theorem leafAt_fillDefaults {d : List (String × Json)} (h : ¬ Clash fields d) (path : List String) :
    leafAt (.obj (fillDefaults d fields)) path =
      (leafAt (.obj d) path).or (defaultAt fields (leafAt (.obj d)) path) := by
  induction path generalizing fields d with
  | nil => rfl
  | cons key path ih =>
    have hgiven : leafAt (.obj d) [key] = (d.lookup key).map shape := by
      rw [leafAt_cons]
      cases d.lookup key <;> rfl
    unfold defaultAt
    rw [leafAt_cons, leafAt_cons, lookup_fillDefaults, hgiven]
    cases hkey : d.lookup key with
    | none =>
      -- nothing is given: the name is filled as in an empty object
      rw [started, hkey]
      show _ = filledAt fields [] (key :: path)
      unfold filledAt
      have hempty : started fields [] key = made fields key := rfl
      rw [hempty, Option.none_or]
      cases made fields key with
      | none => cases nestedName fields key <;> rfl
      | some v =>
        cases nestedName fields key with
        | false => rfl
        | true => exact leafAt_filled _ _ _
    | some w =>
      rw [started, hkey, Option.some_or]
      by_cases hobject : ∃ u, w = .obj u
      · obtain ⟨u, rfl⟩ := hobject
        have hbelow : (fun q => leafAt (.obj d) (key :: q)) = leafAt (.obj u) := by
          funext q
          rw [leafAt_cons, hkey]
          rfl
        show _ = (leafAt (.obj u) path).or
          (defaultAt (innerFields fields key) (fun q => leafAt (.obj d) (key :: q)) path)
        rw [hbelow]
        cases hnested : nestedName fields key with
        | true => exact ih fun hclash => h (hclash.of_innerFields hkey)
        | false =>
          rw [innerFields_eq_nil hnested, defaultAt_nil, Option.or_none]
          rfl
      · have hno : ∀ u, w ≠ .obj u := fun u hu => hobject ⟨u, hu⟩
        have hflat : nestedName fields key = false := by
          by_contra hnested
          obtain ⟨f, hf, rfl, hdeclared⟩ := nestedName_iff.mp (by simpa using hnested)
          exact h (.here hf hdeclared hkey hno)
        have hright : (match (some w).map shape with
            | some (.obj _) => defaultAt (innerFields fields key)
                (fun q => leafAt (.obj d) (key :: q)) path
            | some _ => none
            | none => filledAt fields [] (key :: path)) = none := by
          cases w with
          | obj u => exact absurd rfl (hno u)
          | _ => rfl
        rw [hright, hflat, Option.or_none]
        rfl

/-- **The command line over the file over the defaults**, path by path. -/
theorem config_precedence (qt : ValidatorQt) (schema : ServiceConfigSchema)
    (policy : UnknownFieldPolicy) {fileConfig cliConfig out m : List (String × Json)}
    (hordered : Ordered cliConfig) (hfile : ¬ Clash schema.fields fileConfig)
    (hcli : ¬ Clash schema.fields cliConfig)
    (h : mergeAndValidate qt schema fileConfig cliConfig policy out = (ok, m))
    (path : List String) :
    leafAt (.obj m) path = (given fileConfig cliConfig path).or
      (defaultAt schema.fields (given fileConfig cliConfig) path) := by
  obtain ⟨rfl, -, -⟩ := (mergeAndValidate_accepted qt schema _ _ policy out m).mp h
  have hmerged : leafAt (.obj (deepMerge fileConfig cliConfig)) = given fileConfig cliConfig := by
    funext q
    exact leafAt_deepMerge fileConfig hordered q
  rw [← hmerged]
  apply leafAt_fillDefaults
  intro hclash
  exact (hclash.of_deepMerge hordered).elim hfile hcli

/-- A field for anything, and a server with two defaults of which its own default has one. -/
def anySchema : ServiceConfigSchema := { fields := [{ name := "x" }] }

def serverField : FieldMeta where
  name := "server"
  type := .object
  defaultValue := .obj [("host", .str "h")]
  fields := [{ name := "host", type := .string },
    { name := "port", type := .int, defaultValue := .num 80 }]

def serverSchema : ServiceConfigSchema := { fields := [serverField] }

/-- With nothing given the host comes from the server's own default and the port from the field. -/
example : defaultAt serverSchema.fields (given [] []) ["server", "host"] = some (.str "h") ∧
    defaultAt serverSchema.fields (given [] []) ["server", "port"] = some (.num 80) := by
  decide +kernel

/-- **An object over a value of the file.**  The command line has no value but an object at `x`,
the file has one, and the merged config has the object. -/
theorem object_over_value :
    mergeAndValidate plainQt anySchema [("x", .num 1)] [("x", .obj [("a", .num 2)])] .reject [] =
        (ok, [("x", .obj [("a", .num 2)])]) ∧
      ¬ Clash anySchema.fields [("x", .num 1)] ∧
      ¬ Clash anySchema.fields [("x", .obj [("a", .num 2)])] ∧
      atPath (.obj [("x", .num 1)]) ["x"] = some (.num 1) ∧
      (∀ q w, q <+: ["x"] → atPath (.obj [("x", .obj [("a", .num 2)])]) q = some w →
        ∃ u, w = .obj u) ∧
      atPath (.obj [("x", .obj [("a", .num 2)])]) ["x"] ≠ some (.num 1) := by
  have hflat : ∀ d, ¬ Clash anySchema.fields d := by
    intro d h
    cases h with
    | here hf hnested _ _ =>
      obtain rfl := List.mem_singleton.mp hf
      cases hnested
    | inside hf hnested _ _ =>
      obtain rfl := List.mem_singleton.mp hf
      cases hnested
  refine ⟨by rw [mergeAndValidate_accepted]; decide +kernel, hflat _, hflat _, rfl, ?_, by decide⟩
  intro q w hq hw
  cases q with
  | nil => exact ⟨_, (Option.some.inj hw).symm⟩
  | cons key q =>
    obtain ⟨rfl, hrest⟩ := List.cons_prefix_cons.mp hq
    obtain rfl := List.prefix_nil.mp hrest
    exact ⟨_, (Option.some.inj hw).symm⟩

/-- The server of the file with the port of the command line: its own default is not used, as the
object is given, and the host has none. -/
theorem server_precedence :
    leafAt (.obj [("server", .obj [("port", .num 81)])]) ["server", "host"] =
      (given [("server", .obj [])] [("server", .obj [("port", .num 81)])]
        ["server", "host"]).or
        (defaultAt serverSchema.fields
          (given [("server", .obj [])] [("server", .obj [("port", .num 81)])])
          ["server", "host"]) := by
  have hclash : ∀ u, ¬ Clash serverSchema.fields [("server", .obj u)] := by
    intro u h
    cases h with
    | here hf hnested hlookup hno =>
      obtain rfl := List.mem_singleton.mp hf
      exact hno u (Option.some.inj hlookup).symm
    | inside hf hnested hlookup hinside =>
      obtain rfl := List.mem_singleton.mp hf
      have hflat : ∀ g ∈ serverField.fields, g.isNested = false := by decide
      cases hinside with
      | here hg hgnested _ _ =>
        rw [hflat _ hg] at hgnested
        cases hgnested
      | inside hg hgnested _ _ =>
        rw [hflat _ hg] at hgnested
        cases hgnested
  have hordered : Ordered [("server", .obj [("port", .num 81)])] := by
    apply Ordered.of_members (List.pairwise_singleton _ _)
    intro key u hu
    rw [Json.lookup_member] at hu
    split at hu
    · obtain rfl := Json.obj.inj (Option.some.inj hu)
      apply Ordered.of_members (List.pairwise_singleton _ _)
      intro key u hu
      rw [Json.lookup_member] at hu
      split at hu <;> cases hu
    · cases hu
  have hmerged : mergeAndValidate plainQt serverSchema [("server", .obj [])]
      [("server", .obj [("port", .num 81)])] .reject [] =
        (ok, [("server", .obj [("port", .num 81)])]) := by
    rw [mergeAndValidate_accepted]
    decide +kernel
  exact config_precedence plainQt serverSchema .reject hordered (hclash _) (hclash _) hmerged _

end Stdiolink.Meta
