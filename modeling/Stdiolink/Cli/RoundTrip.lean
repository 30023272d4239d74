/-
  Stdiolink.Cli.RoundTrip — an object written as arguments is read back.

  The leaves of a value are its scalars and its empty containers, each with its path.  The
  renderer writes one argument for each leaf, and the leaves of an object give the object
  itself, in the sense of `Holds`; so the tree takes them all and the object comes back.

  Main results:
    * `holds_leaves`         — the leaves of a value give the value;
    * `renderArgs_roundTrip` — what is rendered parses to the object.
-/
import Stdiolink.Cli.Paths
import Stdiolink.Cli.Tree
import Mathlib.Data.List.Forall2

namespace Stdiolink.Cli

open Stdiolink.Lib
open Stdiolink.Protocol

/-! ## §1. The leaves of a value -/

/-- A value that Qt holds: keys in order and once, nothing undefined in it, and no more items
in an array than an `int` counts. -/
inductive Held : Json → Prop where
  | null : Held .null
  | bool (b : Bool) : Held (.bool b)
  | num (q : ℚ) : Held (.num q)
  | str (s : String) : Held (.str s)
  | arr {l : List Json} : l.length ≤ 2147483647 → (∀ v ∈ l, Held v) → Held (.arr l)
  | obj {m : List (String × Json)} : Json.Sorted m → (∀ k v, (k, v) ∈ m → Held v) →
      Held (.obj m)

mutual

/-- The scalars and empty containers in a value, with their paths. -/
def leaves (value : Json) : List (CliPath × Json) :=
  match value with
  | .obj m => if m.isEmpty then [([], .obj m)] else memberLeaves m
  | .arr l => if l.isEmpty then [([], .arr l)] else itemLeaves 0 l
  | value => [([], value)]

def memberLeaves (members : List (String × Json)) : List (CliPath × Json) :=
  match members with
  | [] => []
  | (key, value) :: rest => (leaves value).map (above (.key key)) ++ memberLeaves rest

def itemLeaves (i : Nat) (items : List Json) : List (CliPath × Json) :=
  match items with
  | [] => []
  | value :: rest => (leaves value).map (above (.index i)) ++ itemLeaves (i + 1) rest

end

variable {m : List (String × Json)} {e : CliPath × Json} {v value : Json} {qt : JsonQt}

theorem mem_memberLeaves :
    e ∈ memberLeaves m ↔ ∃ key v e', (key, v) ∈ m ∧ e' ∈ leaves v ∧ e = above (.key key) e' := by
  induction m with
  | nil => simp [memberLeaves]
  | cons member rest ih =>
    obtain ⟨k, w⟩ := member
    rw [memberLeaves, List.mem_append, ih, List.mem_map]
    constructor
    · intro h
      obtain ⟨e', he', rfl⟩ | ⟨key, v, e', hmem, he', rfl⟩ := h
      · exact ⟨k, w, e', by simp, he', rfl⟩
      · exact ⟨key, v, e', List.mem_cons_of_mem _ hmem, he', rfl⟩
    · intro h
      obtain ⟨key, v, e', hmem, he', rfl⟩ := h
      obtain heq | hmem := List.mem_cons.mp hmem
      · obtain ⟨rfl, rfl⟩ := Prod.mk.inj heq
        exact Or.inl ⟨e', he', rfl⟩
      · exact Or.inr ⟨key, v, e', hmem, he', rfl⟩

theorem mem_itemLeaves {l : List Json} {j : Nat} :
    e ∈ itemLeaves j l ↔ ∃ (i : Nat) (v : Json) (e' : CliPath × Json), l[i]? = some v ∧
      e' ∈ leaves v ∧ e = above (.index ((j + i : Nat) : Int)) e' := by
  induction l generalizing j with
  | nil => simp [itemLeaves]
  | cons w rest ih =>
    rw [itemLeaves, List.mem_append, ih, List.mem_map]
    constructor
    · intro h
      obtain ⟨e', he', rfl⟩ | ⟨i, v, e', hv, he', rfl⟩ := h
      · exact ⟨0, w, e', rfl, he', rfl⟩
      · exact ⟨i + 1, v, e', hv, he', by rw [show j + (i + 1) = j + 1 + i by omega]⟩
    · intro h
      obtain ⟨i, v, e', hv, he', rfl⟩ := h
      cases i with
      | zero =>
        obtain rfl := Option.some.inj hv
        exact Or.inl ⟨e', he', rfl⟩
      | succ i => exact Or.inr ⟨i, v, e', hv, he', by rw [show j + (i + 1) = j + 1 + i by omega]⟩

/-- Every value has a leaf. -/
theorem leaves_ne_nil (v : Json) : leaves v ≠ [] := by
  induction v using Json.ind with
  | arr items ih =>
    cases items with
    | nil => simp [leaves]
    | cons v rest => simp [leaves, itemLeaves, ih v (by simp)]
  | obj members ih =>
    cases members with
    | nil => simp [leaves]
    | cons member rest =>
      obtain ⟨key, v⟩ := member
      simp [leaves, memberLeaves, ih key v (by simp)]
  | _ => simp [leaves]

/-! ## §2. The leaves give the value -/

/-- Below a key are the leaves of its member. -/
theorem under_memberLeaves (hsorted : Json.Sorted m) (key : String) :
    under (.key key) (memberLeaves m) = ((m.lookup key).map leaves).getD [] := by
  induction m with
  | nil => rfl
  | cons member rest ih =>
    obtain ⟨k, w⟩ := member
    obtain ⟨hlt, hrest⟩ := List.pairwise_cons.mp hsorted
    rw [memberLeaves, under_append, ih hrest, Json.lookup_member]
    by_cases hk : key = k
    · subst hk
      -- the key is not among the others
      rw [if_pos rfl, under_above_self, Json.lookup_eq_none_of_lt hlt]
      exact List.append_nil _
    · have hne : CliPathSegment.key k ≠ .key key := by
        intro h
        exact hk (CliPathSegment.key.inj h).symm
      rw [if_neg hk, under_above_of_ne hne]
      rfl

/-- Below an index are the leaves of its item. -/
theorem under_itemLeaves (l : List Json) (j i : Nat) :
    under (.index ((j + i : Nat) : Int)) (itemLeaves j l) = (l[i]?.map leaves).getD [] := by
  induction l generalizing j i with
  | nil => rfl
  | cons w rest ih =>
    rw [itemLeaves, under_append]
    cases i with
    | zero =>
      have hnone : under (.index ((j + 0 : Nat) : Int)) (itemLeaves (j + 1) rest) = [] := by
        rw [under_eq_nil]
        intro e he p hpath
        obtain ⟨i, v, e', -, -, rfl⟩ := mem_itemLeaves.mp he
        have hij := CliPathSegment.index.inj (List.cons.inj hpath).1
        omega
      rw [hnone, List.append_nil]
      exact under_above_self _ _
    | succ i =>
      have hne : CliPathSegment.index (j : Int) ≠ .index ((j + (i + 1) : Nat) : Int) := by
        intro h
        have hij := CliPathSegment.index.inj h
        omega
      rw [under_above_of_ne hne, List.nil_append, show j + (i + 1) = j + 1 + i by omega, ih]
      rfl

/-- The leaves of the members give the object. -/
theorem holds_memberLeaves (hsorted : Json.Sorted m)
    (hheld : ∀ key v, (key, v) ∈ m → Holds (leaves v) v) : Holds (memberLeaves m) (.obj m) := by
  refine Holds.object ?_ hsorted ?_ ?_
  · intro e he
    obtain ⟨key, v, e', -, -, rfl⟩ := mem_memberLeaves.mp he
    exact ⟨key, e'.1, rfl⟩
  · intro key
    rw [under_memberLeaves hsorted]
    cases m.lookup key with
    | none => simp
    | some v => simp [leaves_ne_nil v]
  · intro key v hv
    rw [under_memberLeaves hsorted, hv]
    exact hheld key v (Json.mem_of_lookup hv)

/-- The leaves of the items give the array. -/
theorem holds_itemLeaves {l : List Json} (hne : l ≠ []) (hheld : ∀ v ∈ l, Holds (leaves v) v) :
    Holds (itemLeaves 0 l) (.arr l) := by
  have hunder : ∀ i : Nat, under (.index (i : Int)) (itemLeaves 0 l) =
      (l[i]?.map leaves).getD [] := by
    intro i
    have h := under_itemLeaves l 0 i
    rwa [Nat.zero_add] at h
  have hitem : ∀ i (hi : i < l.length), ∃ e ∈ itemLeaves 0 l, ∃ rest,
      e.1 = .index (i : Int) :: rest := by
    intro i hi
    obtain ⟨e, he⟩ := List.exists_mem_of_ne_nil _ (leaves_ne_nil l[i])
    refine ⟨above (.index (i : Int)) e, ?_, e.1, rfl⟩
    exact mem_itemLeaves.mpr ⟨i, l[i], e, List.getElem?_eq_getElem hi, he, by rw [Nat.zero_add]⟩
  have hpos : 0 < l.length := List.length_pos_of_ne_nil hne
  refine Holds.array ?_ ?_ ?_ ?_ ?_
  · obtain ⟨e, he, -⟩ := hitem 0 hpos
    exact List.ne_nil_of_mem he
  · intro e he
    obtain ⟨i, v, e', hv, -, rfl⟩ := mem_itemLeaves.mp he
    rw [Nat.zero_add]
    exact ⟨i, e'.1, rfl, (List.getElem?_eq_some_iff.mp hv).1⟩
  · obtain ⟨e, he, rest, hpath⟩ := hitem (l.length - 1) (by omega)
    exact ⟨e, he, l.length - 1, rest, hpath, by omega⟩
  · intro i v hv hempty
    rw [hunder, hv] at hempty
    exact absurd hempty (leaves_ne_nil v)
  · intro i v hv _
    rw [hunder, hv]
    exact hheld v (List.mem_of_getElem? hv)

/-- **The leaves of a value give the value.** -/
theorem holds_leaves (h : Held v) : Holds (leaves v) v := by
  induction h with
  | @arr l _ _ ih =>
    by_cases hne : l = []
    · subst hne
      exact .literal (by simp [leaves]) rfl
    · have hleaves : leaves (.arr l) = itemLeaves 0 l := by simp [leaves, hne]
      rw [hleaves]
      exact holds_itemLeaves hne ih
  | @obj m hsorted _ ih =>
    by_cases hne : m = []
    · subst hne
      exact .literal (by simp [leaves]) rfl
    · have hleaves : leaves (.obj m) = memberLeaves m := by simp [leaves, hne]
      rw [hleaves]
      exact holds_memberLeaves hsorted ih
  | _ => exact .literal (by simp [leaves]) rfl

/-- Leaves are scalars or empty, and not undefined. -/
def IsLeaf (value : Json) : Prop :=
  value ≠ .undefined ∧ (∀ l, value = .arr l → l = []) ∧ ∀ m, value = .obj m → m = []

/-- What holds of leaves and is kept by one more segment holds of all leaves in a value. -/
theorem leaves_ind {Q : CliPath × Json → Prop} (leaf : ∀ v, IsLeaf v → Q ([], v))
    (above : ∀ s e, IndexFits s → Q e → Q (above s e)) (h : Held v) :
    ∀ e ∈ leaves v, Q e := by
  induction h with
  | @arr l hlen _ ih =>
    intro e he
    rw [leaves] at he
    split at he
    · rename_i hempty
      obtain rfl := List.isEmpty_iff.mp hempty
      rw [List.mem_singleton.mp he]
      exact leaf _ (by simp [IsLeaf])
    · obtain ⟨i, v, e', hv, he', rfl⟩ := mem_itemLeaves.mp he
      refine above _ e' ?_ (ih v (List.mem_of_getElem? hv) e' he')
      -- the array is no longer than an int
      intro j hj
      obtain rfl := CliPathSegment.index.inj hj
      have hi := (List.getElem?_eq_some_iff.mp hv).1
      omega
  | @obj m _ _ ih =>
    intro e he
    rw [leaves] at he
    split at he
    · rename_i hempty
      obtain rfl := List.isEmpty_iff.mp hempty
      rw [List.mem_singleton.mp he]
      exact leaf _ (by simp [IsLeaf])
    · obtain ⟨key, v, e', hmem, he', rfl⟩ := mem_memberLeaves.mp he
      apply above _ e' _ (ih key v hmem e' he')
      intro j hj
      cases hj
  | _ =>
    intro e he
    rw [leaves, List.mem_singleton] at he
    · rw [he]
      exact leaf _ (by simp [IsLeaf])
    all_goals simp

/-- The indices on the way to a leaf are ints. -/
theorem indexFits_leaves (h : Held v) : ∀ e ∈ leaves v, ∀ s ∈ e.1, IndexFits s := by
  apply leaves_ind (Q := fun e => ∀ s ∈ e.1, IndexFits s) _ _ h
  · intro v _ s hs
    cases hs
  · intro s e hs ih t ht
    obtain rfl | ht := List.mem_cons.mp ht
    · exact hs
    · exact ih t ht

theorem isLeaf_of_mem (h : Held v) : ∀ e ∈ leaves v, IsLeaf e.2 :=
  leaves_ind (Q := fun e => IsLeaf e.2) (fun _ hv => hv) (fun _ _ _ he => he) h

/-- A leaf is the value at its path. -/
theorem jsonAt_leaf (h : Held v) : ∀ e ∈ leaves v, jsonAt v e.1 = some e.2 := by
  induction h with
  | @arr l _ _ ih =>
    intro e he
    rw [leaves] at he
    split at he
    · rw [List.mem_singleton.mp he]
      rfl
    · obtain ⟨i, v, e', hv, he', rfl⟩ := mem_itemLeaves.mp he
      rw [above_path, jsonAt, if_neg (by omega), Int.toNat_natCast, Nat.zero_add, hv]
      exact ih v (List.mem_of_getElem? hv) e' he'
  | @obj m hsorted _ ih =>
    intro e he
    rw [leaves] at he
    split at he
    · rw [List.mem_singleton.mp he]
      rfl
    · obtain ⟨key, v, e', hmem, he', rfl⟩ := mem_memberLeaves.mp he
      rw [above_path, jsonAt, hsorted.lookup_of_mem hmem]
      exact ih key v hmem e' he'
  | _ =>
    intro e he
    rw [leaves, List.mem_singleton] at he
    · rw [he]
      rfl
    all_goals simp

/-- A leaf is its own only leaf. -/
theorem leaves_eq_self (h : IsLeaf v) : leaves v = [([], v)] := by
  obtain ⟨-, harr, hobj⟩ := h
  cases v with
  | arr l =>
    obtain rfl := harr l rfl
    rfl
  | obj m =>
    obtain rfl := hobj m rfl
    rfl
  | _ => rfl

/-- A value is a leaf, or an object or an array with something in it. -/
theorem leaf_or_container (h : Held v) :
    IsLeaf v ∨ (∃ m, v = .obj m ∧ m ≠ [] ∧ leaves v = memberLeaves m) ∨
      ∃ l, v = .arr l ∧ l ≠ [] ∧ leaves v = itemLeaves 0 l := by
  cases h with
  | @arr l =>
    by_cases hne : l = []
    · exact Or.inl (by simp [IsLeaf, hne])
    · exact Or.inr (Or.inr ⟨l, rfl, hne, by simp [leaves, hne]⟩)
  | @obj m =>
    by_cases hne : m = []
    · exact Or.inl (by simp [IsLeaf, hne])
    · exact Or.inr (Or.inl ⟨m, rfl, hne, by simp [leaves, hne]⟩)
  | _ => exact Or.inl (by simp [IsLeaf])

/-- An object that is not empty has the leaves of its members. -/
theorem leaves_obj (hne : m ≠ []) : leaves (.obj m) = memberLeaves m := by
  cases m with
  | nil => exact absurd rfl hne
  | cons member rest => simp [leaves]

theorem leaves_of_memberLeaf (he : e ∈ memberLeaves m) : leaves (.obj m) = memberLeaves m := by
  apply leaves_obj
  rintro rfl
  cases he

/-- In an object or an array the way to a leaf has a first segment. -/
theorem path_ne_nil (hheld : Held v) (hleaf : ¬ IsLeaf v) (he : e ∈ leaves v) :
    ∃ s e', e = above s e' := by
  obtain h | ⟨m, -, -, hleaves⟩ | ⟨l, -, -, hleaves⟩ := leaf_or_container hheld
  · exact absurd h hleaf
  · rw [hleaves] at he
    obtain ⟨key, v, e', -, -, heq⟩ := mem_memberLeaves.mp he
    exact ⟨.key key, e', heq⟩
  · rw [hleaves] at he
    obtain ⟨i, v, e', -, -, heq⟩ := mem_itemLeaves.mp he
    exact ⟨_, e', heq⟩

/-- Only a leaf is reached without a step. -/
theorem isLeaf_of_nil_path {w : Json} (hheld : Held v) (h : ([], w) ∈ leaves v) : IsLeaf v := by
  by_contra hleaf
  obtain ⟨s, e', heq⟩ := path_ne_nil hheld hleaf h
  cases (Prod.mk.inj heq).1

/-! ## §3. The rendered arguments -/

/-- The literal of a leaf. -/
def literalText (qt : JsonQt) (value : Json) : String :=
  match value with
  | .obj _ => "\x7b\x7d"
  | .arr _ => "[]"
  | value => canonicalLiteral qt value

/-- The rendered leaves of an object: the text of each path, and the literal behind it. -/
def renderedArgs (qt : JsonQt) (data : List (String × Json)) : List RawCliArg :=
  (memberLeaves data).map fun e => ⟨renderPath e.1, literalText qt e.2⟩

/-- The renderer goes through the leaves of a value, behind any prefix. -/
def RendersLeaves (qt : JsonQt) (opts : CliRenderOptions) (v : Json) : Prop :=
  ∀ pre, renderValueRecursive qt opts pre v =
    (leaves v).map fun e => renderArg opts (pre ++ e.1) (literalText qt e.2)

section Render

variable {qt : JsonQt} {opts : CliRenderOptions}

/-- Behind one more segment. -/
theorem RendersLeaves.above {v : Json} (h : RendersLeaves qt opts v) (pre : CliPath)
    (s : CliPathSegment) : renderValueRecursive qt opts (pre ++ [s]) v =
      ((leaves v).map (Lib.above s)).map fun e =>
        renderArg opts (pre ++ e.1) (literalText qt e.2) := by
  rw [h, List.map_map]
  apply List.map_congr_left
  intro e _
  simp

theorem renderMembers_eq {m : List (String × Json)}
    (h : ∀ key v, (key, v) ∈ m → RendersLeaves qt opts v) (pre : CliPath) :
    renderMembers qt opts pre m =
      (memberLeaves m).map fun e => renderArg opts (pre ++ e.1) (literalText qt e.2) := by
  induction m with
  | nil => rfl
  | cons member rest ih =>
    obtain ⟨key, v⟩ := member
    rw [renderMembers, memberLeaves, List.map_append, (h key v (by simp)).above,
      ih fun k w hw => h k w (List.mem_cons_of_mem _ hw)]

theorem renderItems_eq {l : List Json} (h : ∀ v ∈ l, RendersLeaves qt opts v) (pre : CliPath)
    (i : Nat) : renderItems qt opts pre i l =
      (itemLeaves i l).map fun e => renderArg opts (pre ++ e.1) (literalText qt e.2) := by
  induction l generalizing i with
  | nil => rfl
  | cons v rest ih =>
    rw [renderItems, itemLeaves, List.map_append, (h v (by simp)).above,
      ih fun w hw => h w (List.mem_cons_of_mem _ hw)]

theorem rendersLeaves (v : Json) : RendersLeaves qt opts v := by
  induction v using Json.ind with
  | arr items ih =>
    intro pre
    rw [renderValueRecursive, leaves]
    split
    · simp [literalText]
    · exact renderItems_eq ih pre 0
  | obj members ih =>
    intro pre
    rw [renderValueRecursive, leaves]
    split
    · simp [literalText]
    · exact renderMembers_eq ih pre
  | _ =>
    intro pre
    simp [renderValueRecursive, leaves, literalText]

end Render

/-- The rendered arguments of an object are the texts of its leaves. -/
theorem renderArgs_eq (qt : JsonQt) (data : List (String × Json)) (opts : CliRenderOptions) :
    renderArgs qt data opts =
      (memberLeaves data).map fun e => renderArg opts e.1 (literalText qt e.2) :=
  renderMembers_eq (fun _ v _ => rendersLeaves v) []

/-- What the codec relies on for a value: its compact text, in an array, has the brackets of the
array around it and is read back. -/
structure ReadsBack (qt : JsonQt) (value : Json) : Prop where
  brackets : ∃ text, qt.toJson [value] = "[" ++ text ++ "]"
  null : value = .null → qt.toJson [value] = "[null]"
  emptyObject : value = .obj [] → qt.toJson [value] = "[\x7b\x7d]"
  emptyArray : value = .arr [] → qt.toJson [value] = "[[]]"
  parses : qt.fromJson (qt.toJson [value]) = some (.arr [value])

/-- Brackets around a text are taken off. -/
theorem brackets_off (text : String) :
    (let json := ("[" ++ text ++ "]").toList
      if json.length ≥ 2 && json.head? = some '[' && json.getLast? = some ']' then
        String.ofList json.tail.dropLast
      else String.ofList json) = text := by
  have hchars : ("[" ++ text ++ "]").toList = '[' :: (text.toList ++ [']']) := by
    simp [String.toList_append]
  have hlast : ('[' :: (text.toList ++ [']'])).getLast? = some ']' := by
    rw [← List.cons_append, List.getLast?_concat]
  dsimp only
  rw [hchars, hlast, if_pos, List.tail_cons, List.dropLast_concat, String.ofList_toList]
  simp

/-- `canonicalLiteral` takes the brackets off. -/
theorem canonicalLiteral_eq (hnull : value.isNullish = false) {text : String}
    (htext : qt.toJson [value] = "[" ++ text ++ "]") :
    canonicalLiteral qt value = text := by
  rw [canonicalLiteral, hnull, if_neg (by simp), htext]
  exact brackets_off text

theorem toJson_literalText (hleaf : IsLeaf value) (h : ReadsBack qt value) :
    qt.toJson [value] = "[" ++ literalText qt value ++ "]" := by
  obtain ⟨hdef, harr, hobj⟩ := hleaf
  have hscalar : value.isNullish = false →
      qt.toJson [value] = "[" ++ canonicalLiteral qt value ++ "]" := by
    intro hnull
    obtain ⟨text, htext⟩ := h.brackets
    rw [canonicalLiteral_eq hnull htext]
    exact htext
  cases value with
  | undefined => exact absurd rfl hdef
  | null => exact h.null rfl
  | arr l =>
    obtain rfl := harr l rfl
    exact h.emptyArray rfl
  | obj m =>
    obtain rfl := hobj m rfl
    exact h.emptyObject rfl
  | _ => exact hscalar rfl

theorem parseJsonLiteral_literalText (hleaf : IsLeaf value) (h : ReadsBack qt value) :
    parseJsonLiteral qt (literalText qt value) = some value := by
  rw [parseJsonLiteral, ← toJson_literalText hleaf h, h.parses]

/-- The rendered arguments parse to the leaves. -/
theorem parsed_renderedArgs {data : List (String × Json)} (hdata : Held (.obj data))
    (hqt : ∀ e ∈ memberLeaves data, ReadsBack qt e.2) :
    Parsed qt (renderedArgs qt data) (memberLeaves data) := by
  rw [Parsed, renderedArgs, List.forall₂_map_left_iff, List.forall₂_same]
  intro e he
  cases hdata with
  | obj _ hheld =>
    obtain ⟨key, v, e', hmem, he', rfl⟩ := mem_memberLeaves.mp he
    have hleaf := isLeaf_of_mem (hheld key v hmem) e' he'
    exact ⟨parsePath_renderPath key e'.1 (indexFits_leaves (hheld key v hmem) e' he'),
      parseJsonLiteral_literalText hleaf (hqt _ he)⟩

/-- Arguments that parse to the leaves of an object give the object. -/
theorem parseArgs_leaves {args : List RawCliArg} {data : List (String × Json)}
    (hdata : Held (.obj data)) (hargs : Parsed qt args (memberLeaves data)) (mode : CliValueMode) :
    parseArgs qt args mode = .ok data := by
  have hheld : Holds (memberLeaves data) (.obj data) := by
    cases hdata with
    | obj hsorted hheld =>
      exact holds_memberLeaves hsorted fun key v hmem => holds_leaves (hheld key v hmem)
  obtain ⟨out, hok, -, hout⟩ | ⟨-, hno⟩ := parseArgs_decided hargs mode
  · rw [hok, Json.obj.inj (hout.unique hheld)]
  · -- what the leaves give is given by consistent assignments
    refine absurd ⟨hheld.consistent, ?_⟩ hno
    intro e he
    obtain ⟨key, v, e', -, -, rfl⟩ := mem_memberLeaves.mp he
    exact ⟨key, e'.1, rfl⟩

/-- **What is rendered is read back.**  Each rendered argument is the text of a path, an equals
sign and a literal; cut there, the arguments parse to the object. -/
theorem renderArgs_roundTrip (qt : JsonQt) (data : List (String × Json)) (hdata : Held (.obj data))
    (hqt : ∀ e ∈ memberLeaves data, ReadsBack qt e.2) :
    renderArgs qt data {} = (renderedArgs qt data).map (fun arg =>
      "--" ++ arg.path ++ "=" ++ arg.rawValue) ∧
    parseArgs qt (renderedArgs qt data) .canonical = .ok data := by
  constructor
  · rw [renderArgs_eq, renderedArgs, List.map_map]
    rfl
  · exact parseArgs_leaves hdata (parsed_renderedArgs hdata hqt) .canonical

/-- A Qt that knows some texts. -/
def tableQt (table : List (Json × String)) : JsonQt where
  toJson
    | [v] => (table.lookup v).getD ""
    | _ => ""
  fromJson text := (table.find? fun entry => entry.2 = text).map fun entry => .arr [entry.1]

/-- An empty key, a key with a dot, an empty container and a null. -/
def nestedData : List (String × Json) :=
  [("", .obj [("a.b", .arr [])]), ("k", .arr [.null, .bool true])]

theorem nestedData_held : Held (.obj nestedData) := by
  refine .obj ?_ ?_
  · simp only [Json.Sorted, nestedData]
    decide
  · intro key v hmem
    simp only [nestedData, List.mem_cons, Prod.mk.injEq, List.not_mem_nil, or_false] at hmem
    obtain ⟨-, rfl⟩ | ⟨-, rfl⟩ := hmem
    · refine .obj (by simp [Json.Sorted]) ?_
      intro key v hmem
      obtain ⟨-, rfl⟩ := Prod.mk.inj (List.mem_singleton.mp hmem)
      exact .arr (by simp) (by simp)
    · refine .arr (by simp) ?_
      intro v hv
      simp only [List.mem_cons, List.not_mem_nil, or_false] at hv
      obtain rfl | rfl := hv
      · exact .null
      · exact .bool true

/-- A text that is known is read back. -/
theorem tableQt_readsBack {table : List (Json × String)} (text : String)
    (hto : table.lookup v = some ("[" ++ text ++ "]"))
    (hfrom : table.find? (fun entry => entry.2 = "[" ++ text ++ "]") = some (v, "[" ++ text ++ "]"))
    (hnull : v = .null → text = "null") (hobject : v = .obj [] → text = "\x7b\x7d")
    (harray : v = .arr [] → text = "[]") : ReadsBack (tableQt table) v := by
  have htext : (tableQt table).toJson [v] = "[" ++ text ++ "]" := by
    show (table.lookup v).getD "" = _
    rw [hto, Option.getD_some]
  refine ⟨⟨text, htext⟩, ?_, ?_, ?_, ?_⟩
  · intro h
    rw [htext, hnull h]
    rfl
  · intro h
    rw [htext, hobject h]
    rfl
  · intro h
    rw [htext, harray h]
    rfl
  · rw [htext]
    show (table.find? _).map _ = _
    rw [hfrom]
    rfl

def nestedTexts : List (Json × String) :=
  [(.arr [], "[[]]"), (.null, "[null]"), (.bool true, "[true]")]

theorem nestedTexts_readBack : ∀ e ∈ memberLeaves nestedData,
    ReadsBack (tableQt nestedTexts) e.2 := by
  have hleaves : memberLeaves nestedData = [([.key "", .key "a.b"], .arr []),
      ([.key "k", .index 0], .null), ([.key "k", .index 1], .bool true)] := rfl
  rw [hleaves]
  intro e he
  simp only [List.mem_cons, List.not_mem_nil, or_false] at he
  obtain rfl | rfl | rfl := he
  · exact tableQt_readsBack "[]" rfl rfl (by simp) (by simp) (by simp)
  · exact tableQt_readsBack "null" rfl rfl (by simp) (by simp) (by simp)
  · exact tableQt_readsBack "true" rfl rfl (by simp) (by simp) (by simp)

theorem nested_roundTrip :
    renderArgs (tableQt nestedTexts) nestedData {} =
      (renderedArgs (tableQt nestedTexts) nestedData).map (fun arg =>
        "--" ++ arg.path ++ "=" ++ arg.rawValue) ∧
    parseArgs (tableQt nestedTexts) (renderedArgs (tableQt nestedTexts) nestedData) .canonical =
      .ok nestedData :=
  renderArgs_roundTrip (tableQt nestedTexts) nestedData nestedData_held nestedTexts_readBack

end Stdiolink.Cli
