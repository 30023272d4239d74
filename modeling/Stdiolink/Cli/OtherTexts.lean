/-
  Stdiolink.Cli.OtherTexts — arguments that another renderer wrote.

  The schema parser knows its own renderer only by what it reads: the paths, and of a literal
  what Qt's readers make of it.  Arguments of another order, with other quotes in the paths
  and other digits in the numbers, give the same verdict and the same object.

  Main results:
    * `resolveFieldValue_text` — two texts of a value are read alike where the type is right;
    * `parseArgs_written`      — the arguments of another renderer.
-/
import Stdiolink.Cli.SchemaParser

namespace Stdiolink.Cli.CliSchemaParser

open Stdiolink.Lib
open Stdiolink.Protocol
open Stdiolink.Meta

/-! ## §1. Two texts of one value -/

/-- A text that is read as the value: as a literal, as true and false, as an integer up to 2^53,
which is written in decimal, and as a double. -/
structure LiteralReads (qt : SchemaQt) (v : Json) (text : String) : Prop where
  parses : parseJsonLiteral qt.toJsonQt text = some v
  bool : ∀ b : Bool, text = (if b then "true" else "false") ↔ v = .bool b
  decimal : ∀ n : Int, v = .num n → n.natAbs ≤ 2 ^ 53 → text = toString n
  integer : ∀ lo hi n, toBoundedInt lo hi text.toList = some n → n.natAbs ≤ 2 ^ 53 → v = .num n
  double : ∀ d, qt.toDouble text.toList = some d ↔ (∃ q, v = .num q) ∧ d = v.toDouble

/-- The literal of a leaf is such a text. -/
theorem literalReads_literalText {qt : SchemaQt} {v : Json} (hleaf : IsLeaf v)
    (h : SchemaReads qt v) : LiteralReads qt v (literalText qt.toJsonQt v) := by
  have htext := toJson_literalText hleaf h.toReadsBack
  have hbrackets : ∀ word : String,
      literalText qt.toJsonQt v = word ↔ qt.toJson [v] = "[" ++ word ++ "]" := by
    intro word
    rw [htext]
    exact ⟨fun heq => by rw [heq], fun heq => bracket_inj heq⟩
  refine ⟨parseJsonLiteral_literalText hleaf h.toReadsBack, ?_, ?_, ?_, ?_⟩
  · intro b
    rw [hbrackets, ← h.bool b]
    cases b <;> rfl
  · intro n hv hn
    rw [hbrackets]
    exact h.decimal n hv hn
  · intro lo hi n hread _
    exact h.integer _ lo hi n htext hread
  · intro d
    exact h.double _ d htext

section Texts

variable {qt : SchemaQt} {v : Json} {raw raw' : String}

theorem inferType_text (h : LiteralReads qt v raw) : inferType qt.toJsonQt raw = v := by
  rw [inferType, h.parses, Option.getD_some]

theorem decodeStringOrKeepRaw_text (h : LiteralReads qt v raw) (htype : ∃ s, v = .str s) :
    decodeStringOrKeepRaw qt.toJsonQt raw = v := by
  obtain ⟨s, rfl⟩ := htype
  rw [decodeStringOrKeepRaw, h.parses]

theorem parseBoolValue_text (h : LiteralReads qt v raw) (h' : LiteralReads qt v raw') :
    parseBoolValue raw = parseBoolValue raw' := by
  have htrue : raw = "true" ↔ raw' = "true" := (h.bool true).trans (h'.bool true).symm
  have hfalse : raw = "false" ↔ raw' = "false" := (h.bool false).trans (h'.bool false).symm
  unfold parseBoolValue
  simp only [htrue, hfalse]

/-- An integer that one text is read as is written in decimal in the other. -/
theorem toBoundedInt_text (h : LiteralReads qt v raw) (h' : LiteralReads qt v raw') {lo hi n : Int}
    (hread : toBoundedInt lo hi raw.toList = some n) (hn : n.natAbs ≤ 2 ^ 53) :
    toBoundedInt lo hi raw'.toList = some n := by
  have hv := h.integer lo hi n hread hn
  rw [h'.decimal n hv hn, toBoundedInt_toString, if_pos (toBoundedInt_range hread)]

variable {t : Json}

theorem parseIntValue_text (h : LiteralReads qt v raw) (h' : LiteralReads qt v raw')
    (hok : parseIntValue raw = .ok t) : parseIntValue raw' = .ok t := by
  unfold parseIntValue at hok ⊢
  cases hread : toInt raw.toList with
  | none =>
    rw [hread] at hok
    cases hok
  | some n =>
    have hrange := toBoundedInt_range hread
    have hread' : toInt raw'.toList = some n := toBoundedInt_text h h' hread (by omega)
    rw [hread] at hok
    rw [hread']
    exact hok

theorem parseSafeInt64Value_text (h : LiteralReads qt v raw) (h' : LiteralReads qt v raw')
    (hok : parseSafeInt64Value raw = .ok t) : parseSafeInt64Value raw' = .ok t := by
  unfold parseSafeInt64Value at hok ⊢
  cases hread : toLongLong raw.toList with
  | none =>
    rw [hread] at hok
    cases hok
  | some n =>
    rw [hread] at hok
    dsimp only at hok
    split at hok
    · cases hok
    · -- in the safe range the digits are the integer's own
      rename_i hsafe
      simp only [Bool.or_eq_true, decide_eq_true_eq, not_or, not_lt, gt_iff_lt] at hsafe
      have hread' : toLongLong raw'.toList = some n := toBoundedInt_text h h' hread (by omega)
      rw [hread']
      dsimp only
      rw [if_neg (by simp only [Bool.or_eq_true, decide_eq_true_eq, gt_iff_lt]; omega)]
      exact hok

theorem parseDoubleValue_text (h : LiteralReads qt v raw) (h' : LiteralReads qt v raw') :
    parseDoubleValue qt raw = parseDoubleValue qt raw' := by
  have hread : qt.toDouble raw.toList = qt.toDouble raw'.toList := by
    apply Option.ext
    intro d
    rw [h.double d, h'.double d]
  unfold parseDoubleValue
  rw [hread]

theorem parseExpectedContainerValue_text (h : LiteralReads qt v raw)
    (h' : LiteralReads qt v raw') (expected : Json → Bool) (error : String) :
    parseExpectedContainerValue qt.toJsonQt expected error raw =
      parseExpectedContainerValue qt.toJsonQt expected error raw' := by
  rw [parseExpectedContainerValue, parseExpectedContainerValue, h.parses, h'.parses]

/-- **Two texts of a value.**  Where its type is right, what the one is read as the other is read
as, too. -/
theorem resolveFieldValue_text (h : LiteralReads qt v raw) (h' : LiteralReads qt v raw')
    {field : Option FieldMeta} (htype : ∀ g, field = some g → TypeChecked g.type v)
    (hok : resolveFieldValue qt raw field = .ok t) : resolveFieldValue qt raw' field = .ok t := by
  cases field with
  | none =>
    rw [resolveFieldValue, inferType_text h] at hok
    rw [resolveFieldValue, inferType_text h']
    exact hok
  | some g =>
    have htype := htype g rfl
    unfold resolveFieldValue at hok ⊢
    dsimp only at hok ⊢
    cases ht : g.type with
    | string | enum =>
      rw [ht] at hok htype
      dsimp only at hok ⊢
      rw [decodeStringOrKeepRaw_text h htype] at hok
      rw [decodeStringOrKeepRaw_text h' htype]
      exact hok
    | any =>
      rw [ht] at hok
      dsimp only at hok ⊢
      rw [inferType_text h] at hok
      rw [inferType_text h']
      exact hok
    | bool =>
      rw [ht] at hok
      dsimp only at hok ⊢
      rw [← parseBoolValue_text h h']
      exact hok
    | int =>
      rw [ht] at hok
      exact parseIntValue_text h h' hok
    | int64 =>
      rw [ht] at hok
      exact parseSafeInt64Value_text h h' hok
    | double =>
      rw [ht] at hok
      dsimp only at hok ⊢
      rw [← parseDoubleValue_text h h']
      exact hok
    | object | array =>
      rw [ht] at hok
      dsimp only at hok ⊢
      rw [← parseExpectedContainerValue_text h h']
      exact hok

end Texts

/-! ## §2. One leaf -/

/-- The declaration that the path of a leaf ends at is one that reads the leaf. -/
theorem resolveTail_routed {v : Json} (hheld : Held v) {field : FieldMeta} {e : CliPath × Json}
    (he : e ∈ leaves v) {g : FieldMeta} (h : resolveTail field e.1 = .ok (some g)) :
    Routed (some field) v g e.2 := by
  have hall : ∀ {e : CliPath × Json}, e ∈ leaves v → ∀ f, some field = some f →
      resolveTail f e.1 = .ok (some g) → Routed (some field) v g e.2 := by
    apply routed_ind (M := fun field v => ∀ {e : CliPath × Json}, e ∈ leaves v →
      ∀ f, field = some f → resolveTail f e.1 = .ok (some g) → Routed field v g e.2) _ _ _ _ hheld
    · intro v _ e _ f hf
      cases hf
    · intro field v hleaf e he f hf htail
      obtain rfl := Option.some.inj hf
      rw [leaves_eq_self hleaf] at he
      obtain rfl := List.mem_singleton.mp he
      obtain rfl := Option.some.inj (Except.ok.inj htail)
      exact .here field v
    · intro field v hrefuses hheld e he f hf htail
      obtain rfl := Option.some.inj hf
      obtain ⟨s, e', rfl⟩ := path_ne_nil hheld hrefuses.notLeaf he
      obtain ⟨error, herror⟩ := hrefuses.error s e' he
      rw [above_path, resolveTail, herror] at htail
      cases htail
    · intro field v ι segment next child hdescends ih e he f hf htail
      obtain rfl := Option.some.inj hf
      obtain ⟨i, e', he', rfl⟩ := (hdescends.split e).mp he
      rw [above_path, resolveTail, hdescends.resolves i] at htail
      cases hnext : next i with
      | none =>
        rw [hnext] at htail
        cases Except.ok.inj htail
      | some f =>
        rw [hnext] at htail
        have hroute := ih i he' f hnext htail
        exact hdescends.routed i g _ hroute
  exact hall he field rfl h

/-- The path of a leaf decides the leaf. -/
theorem memberLeaves_functional {data : List (String × Json)} (hdata : Held (.obj data))
    {e f : CliPath × Json} (he : e ∈ memberLeaves data) (hf : f ∈ memberLeaves data)
    (hpath : e.1 = f.1) : e = f := by
  have hleaves := leaves_of_memberLeaf he
  rw [← hleaves] at he hf
  have hvalue := jsonAt_leaf hdata e he
  rw [hpath, jsonAt_leaf hdata f hf] at hvalue
  exact Prod.ext hpath (Option.some.inj hvalue).symm

section Run

variable {qt : SchemaQt} {fields : List FieldMeta} {data : List (String × Json)}

/-- Where the types are right, a leaf is read from another text as from its literal. -/
theorem typedArg_written (hdata : Held (.obj data))
    (hqt : ∀ e ∈ memberLeaves data, SchemaReads qt e.2)
    (htype : ∀ g w, Reached fields data g w → TypeChecked g.type w) {e : CliPath × Json}
    (he : e ∈ memberLeaves data) {arg : RawCliArg} (hpath : parsePath arg.path = .ok e.1)
    (hraw : LiteralReads qt e.2 arg.rawValue) :
    (∀ t, typed qt (some (rootField fields)) e = .ok t →
      typedArg qt fields arg = .ok ⟨arg.path, canonicalLiteral qt.toJsonQt t⟩) ∧
    ∀ error, typed qt (some (rootField fields)) e = .error error →
      ∃ error', typedArg qt fields arg = .error error' := by
  have hmem : e ∈ leaves (.obj data) := by
    rw [leaves_of_memberLeaf he]
    exact he
  have hliteral := literalReads_literalText (isLeaf_of_mem hdata e hmem) (hqt e he)
  obtain ⟨key, path, hkey⟩ : ∃ key path, e.1 = .key key :: path := by
    obtain ⟨key, v, e', -, -, rfl⟩ := mem_memberLeaves.mp he
    exact ⟨key, e'.1, rfl⟩
  have hresolve : resolveFieldMetaByPath fields e.1 = resolveTail (rootField fields) e.1 := by
    rw [hkey]
    exact resolveFieldMetaByPath_key key path
  -- the type at the end of the path is right
  have hroot : ∀ field, resolveTail (rootField fields) e.1 = .ok field →
      ∀ g, field = some g → TypeChecked g.type e.2 := by
    intro field htail g hg
    obtain rfl := hg
    have hroute := resolveTail_routed hdata hmem htail
    obtain ⟨rfl, hvalue⟩ | hreached := Reached.of_root hroute
    · exact ⟨data, hvalue⟩
    · exact htype g e.2 hreached
  rw [typedArg, hpath]
  dsimp only
  rw [hresolve]
  cases htail : resolveTail (rootField fields) e.1 with
  | error error =>
    refine ⟨?_, fun _ _ => ⟨_, rfl⟩⟩
    intro t hok
    rw [typed, htail] at hok
    cases hok
  | ok field =>
    have htyped : typed qt (some (rootField fields)) e =
        resolveFieldValue qt (literalText qt.toJsonQt e.2) field := by
      rw [typed, htail]
      rfl
    rw [htyped]
    constructor
    · intro t hok
      dsimp only
      rw [resolveFieldValue_text hliteral hraw (hroot field htail) hok]
    · intro error herror
      dsimp only
      cases hread : resolveFieldValue qt arg.rawValue field with
      | error error' => exact ⟨_, rfl⟩
      | ok t =>
        -- then the literal would be read as well
        rw [resolveFieldValue_text hraw hliteral (hroot field htail) hread] at herror
        cases herror

/-! ## §3. The run -/

/-- The arguments say these values at these paths, in whatever text. -/
def Written (qt : SchemaQt) (args : List RawCliArg) (es : List (CliPath × Json)) : Prop :=
  List.Forall₂ (fun arg e => parsePath arg.path = .ok e.1 ∧ LiteralReads qt e.2 arg.rawValue)
    args es

/-- The rendered arguments say the leaves. -/
theorem written_renderedArgs (hdata : Held (.obj data))
    (hqt : ∀ e ∈ memberLeaves data, SchemaReads qt e.2) :
    Written qt (renderedArgs qt.toJsonQt data) (memberLeaves data) := by
  have hparsed := parsed_renderedArgs hdata fun e he => (hqt e he).toReadsBack
  rw [Parsed, renderedArgs, List.forall₂_map_left_iff, List.forall₂_same] at hparsed
  rw [Written, renderedArgs, List.forall₂_map_left_iff, List.forall₂_same]
  intro e he
  have hleaf := isLeaf_of_mem hdata e (by rw [leaves_of_memberLeaf he]; exact he)
  exact ⟨(hparsed e he).1, literalReads_literalText hleaf (hqt e he)⟩

variable {args : List RawCliArg} {es : List (CliPath × Json)}

/-- The loop, where every leaf is read. -/
theorem typedArgs_written (hdata : Held (.obj data))
    (hqt : ∀ e ∈ memberLeaves data, SchemaReads qt e.2)
    (htype : ∀ g w, Reached fields data g w → TypeChecked g.type w) {t : CliPath × Json → Json}
    (hargs : Written qt args es)
    (hok : ∀ e ∈ es, e ∈ memberLeaves data ∧ typed qt (some (rootField fields)) e = .ok (t e) ∧
      ReadsBack qt.toJsonQt (t e)) (i : Nat) :
    ∃ args', typedArgs qt fields i args = .ok args' ∧
      Parsed qt.toJsonQt args' (es.map fun e => (e.1, t e)) := by
  induction hargs generalizing i with
  | nil => exact ⟨[], rfl, .nil⟩
  | @cons arg e args es harg _ ih =>
    obtain ⟨hpath, hraw⟩ := harg
    obtain ⟨he, htyped, hback⟩ := hok e (by simp)
    obtain ⟨args', hrest, hparsed⟩ := ih (fun f hf => hok f (List.mem_cons_of_mem _ hf)) (i + 1)
    refine ⟨⟨arg.path, canonicalLiteral qt.toJsonQt (t e)⟩ :: args', ?_, ?_⟩
    · rw [typedArgs, (typedArg_written hdata hqt htype he hpath hraw).1 (t e) htyped]
      dsimp only
      rw [hrest]
      rfl
    · exact .cons ⟨hpath, canonicalLiteral_reads hback⟩ hparsed

/-- The loop, where some leaf is refused. -/
theorem typedArgs_written_error (hdata : Held (.obj data))
    (hqt : ∀ e ∈ memberLeaves data, SchemaReads qt e.2)
    (htype : ∀ g w, Reached fields data g w → TypeChecked g.type w) (hargs : Written qt args es)
    (hes : ∀ e ∈ es, e ∈ memberLeaves data) {e : CliPath × Json} (he : e ∈ es) {error : String}
    (herror : typed qt (some (rootField fields)) e = .error error) (i : Nat) :
    ∃ error', typedArgs qt fields i args = .error error' := by
  induction hargs generalizing i with
  | nil => cases he
  | @cons arg f args es harg _ ih =>
    obtain ⟨hpath, hraw⟩ := harg
    obtain ⟨hread, hrefused⟩ := typedArg_written hdata hqt htype (hes f (by simp)) hpath hraw
    rw [typedArgs]
    cases hf : typed qt (some (rootField fields)) f with
    | error error' =>
      obtain ⟨error'', herror'⟩ := hrefused error' hf
      rw [herror']
      exact ⟨_, rfl⟩
    | ok t =>
      rw [hread t hf]
      dsimp only
      obtain rfl | he := List.mem_cons.mp he
      · rw [herror] at hf
        cases hf
      · obtain ⟨error', hrest⟩ := ih (fun g hg => hes g (List.mem_cons_of_mem _ hg)) he (i + 1)
        rw [hrest]
        exact ⟨_, rfl⟩

/-- Once the loop is through, the generic codec decides. -/
theorem parseArgs_of_typedArgs {args' : List RawCliArg} (h : typedArgs qt fields 0 args = .ok args')
    (out : List (String × Json)) :
    parseArgs qt args fields = .ok out ↔
      (Cli.parseArgs qt.toJsonQt args' .canonical).toOption = some out := by
  rw [parseArgs, h]
  dsimp only
  cases Cli.parseArgs qt.toJsonQt args' .canonical with
  | error error => simp [Except.toOption]
  | ok out' => simp [Except.toOption]

/-- **The arguments of another renderer.**  Where the types are right, arguments that say the
leaves of an object, in any order and in texts that are read as the leaves, give what the rendered
ones give. -/
theorem parseArgs_written (hdata : Held (.obj data))
    (hqt : ∀ e ∈ memberLeaves data, SchemaReads qt e.2)
    (htype : ∀ g w, Reached fields data g w → TypeChecked g.type w) (hargs : Written qt args es)
    (hperm : es.Perm (memberLeaves data)) (out : List (String × Json)) :
    parseArgs qt args fields = .ok out ↔
      parseArgs qt (renderedArgs qt.toJsonQt data) fields = .ok out := by
  have hrendered := written_renderedArgs hdata hqt
  have hes : ∀ e ∈ es, e ∈ memberLeaves data := fun e he => hperm.mem_iff.mp he
  by_cases hread : ∀ e ∈ memberLeaves data, ∃ t, typed qt (some (rootField fields)) e = .ok t
  · have hnonempty : Nonempty Json := ⟨.null⟩
    choose! t ht using hread
    have hback : ∀ e ∈ memberLeaves data, ReadsBack qt.toJsonQt (t e) := by
      intro e he
      have hleaves := leaves_of_memberLeaf he
      rw [← hleaves] at he hqt
      refine reads_back_of_typed hdata hqt ?_ he (ht e (hleaves ▸ he))
      intro g w hroute
      obtain ⟨rfl, rfl⟩ | hreached := Reached.of_root hroute
      · exact ⟨data, rfl⟩
      · exact htype g w hreached
    obtain ⟨args', hargs', hparsed⟩ := typedArgs_written hdata hqt htype hargs
      (fun e he => ⟨hes e he, ht e (hes e he), hback e (hes e he)⟩) 0
    obtain ⟨args₀, hargs₀, hparsed₀⟩ := typedArgs_written hdata hqt htype hrendered
      (fun e he => ⟨he, ht e he, hback e he⟩) 0
    rw [parseArgs_of_typedArgs hargs', parseArgs_of_typedArgs hargs₀]
    -- the path of a leaf decides what was read for it
    have hsame : SameByPath ((memberLeaves data).map fun e => (e.1, t e))
        (es.map fun e => (e.1, t e)) := by
      apply SameByPath.of_perm (hperm.symm.map _)
      intro x hx y hy hpath
      obtain ⟨e, he, rfl⟩ := List.mem_map.mp hx
      obtain ⟨f, hf, rfl⟩ := List.mem_map.mp hy
      rw [memberLeaves_functional hdata he hf hpath]
    rw [(parseArgs_iff qt.toJsonQt .canonical args₀ _ hparsed₀).2.2 args' _ hparsed hsame]
  · push Not at hread
    obtain ⟨e, he, hno⟩ := hread
    cases htyped : typed qt (some (rootField fields)) e with
    | ok t => exact absurd htyped (hno t)
    | error error =>
      obtain ⟨error₁, herror₁⟩ := typedArgs_written_error hdata hqt htype hargs hes
        (hperm.mem_iff.mpr he) htyped 0
      obtain ⟨error₂, herror₂⟩ := typedArgs_written_error hdata hqt htype hrendered
        (fun _ h => h) he htyped 0
      simp [parseArgs, herror₁, herror₂]

end Run

end Stdiolink.Cli.CliSchemaParser
