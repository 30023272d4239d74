/-
  Stdiolink.Cli.Tree — which assignments the tree takes, and what it holds.

  The tree finds conflicts one argument at a time, by the kind, the origin and the flags of
  the nodes on the way.  `Represents` says what a node that took some assignments looks like;
  one more assignment is taken exactly if the assignments are still consistent, and then the
  node represents them all.  Consistency and the object that is held depend on the values at
  each path only, not on the order of the arguments.

  Main results:
    * `parseArgs_iff` — acceptance, the object, and independence of the order;
    * `Holds.unique`  — the assignments determine what is held.
-/
import Stdiolink.Cli.Codec
import Stdiolink.Lib.Assignments

namespace Stdiolink.Cli

open Stdiolink.Lib
open Stdiolink.Protocol

/-! ## §1. Consistent assignments -/

/-- `CliPathSegment::Kind`. -/
inductive CliPathSegmentKind where
  | key
  | index
  | append
  deriving Repr, DecidableEq

def CliPathSegment.kind : CliPathSegment → CliPathSegmentKind
  | .key _ => .key
  | .index _ => .index
  | .append => .append

/-- Assignments that one tree can take: an append is the last segment, indices are not
negative, no path is a proper prefix of another, and the next segments at a node are of one
kind. -/
structure Consistent (es : List (CliPath × Json)) : Prop where
  appendLast : ∀ e ∈ es, ∀ before after, e.1 = before ++ .append :: after → after = []
  nonneg : ∀ e ∈ es, ∀ i, .index i ∈ e.1 → 0 ≤ i
  prefixFree : PrefixFree es
  sameKind : ∀ e ∈ es, ∀ e' ∈ es, ∀ before s s' after after',
    e.1 = before ++ s :: after → e'.1 = before ++ s' :: after' → s.kind = s'.kind

/-- Assignments that an object can take: every path begins with a key, too. -/
structure Compatible (es : List (CliPath × Json)) : Prop extends Consistent es where
  startsWithKey : ∀ e ∈ es, ∃ key rest, e.1 = .key key :: rest

namespace Consistent

variable {es : List (CliPath × Json)}

/-- Consistency is about the paths alone. -/
theorem of_paths {es' : List (CliPath × Json)} (h : Consistent es')
    (hpaths : ∀ e ∈ es, ∃ e' ∈ es', e'.1 = e.1) : Consistent es where
  appendLast e he before after heq := by
    obtain ⟨e', he', hpath⟩ := hpaths e he
    exact h.appendLast e' he' before after (hpath.trans heq)
  nonneg e he i hi := by
    obtain ⟨e', he', hpath⟩ := hpaths e he
    exact h.nonneg e' he' i (hpath ▸ hi)
  prefixFree e he f hf hprefix := by
    obtain ⟨e', he', hpath⟩ := hpaths e he
    obtain ⟨f', hf', hpath'⟩ := hpaths f hf
    rw [← hpath, ← hpath'] at hprefix ⊢
    exact h.prefixFree e' he' f' hf' hprefix
  sameKind e he f hf before s s' after after' heq heq' := by
    obtain ⟨e', he', hpath⟩ := hpaths e he
    obtain ⟨f', hf', hpath'⟩ := hpaths f hf
    exact h.sameKind e' he' f' hf' before s s' after after' (hpath.trans heq) (hpath'.trans heq')

theorem under (h : Consistent es) (s : CliPathSegment) : Consistent (under s es) where
  appendLast e he before after heq := by
    apply h.appendLast (s :: e.1, e.2) (mem_under.mp he) (s :: before) after
    show s :: e.1 = _
    rw [heq]
    rfl
  nonneg e he i hi := h.nonneg (s :: e.1, e.2) (mem_under.mp he) i (List.mem_cons_of_mem _ hi)
  prefixFree := h.prefixFree.under s
  sameKind e he e' he' before t t' after after' heq heq' := by
    apply h.sameKind (s :: e.1, e.2) (mem_under.mp he) (s :: e'.1, e'.2) (mem_under.mp he')
      (s :: before) t t' after after'
    · show s :: e.1 = _
      rw [heq]
      rfl
    · show s :: e'.1 = _
      rw [heq']
      rfl

/-- Literals alone. -/
theorem of_literals (h : ∀ e ∈ es, e.1 = []) : Consistent es where
  appendLast e he before after heq := by
    rw [h e he] at heq
    simp at heq
  nonneg e he i hi := by
    rw [h e he] at hi
    cases hi
  prefixFree e he e' he' _ := by rw [h e he, h e' he']
  sameKind e he e' he' before s s' after after' heq := by
    rw [h e he] at heq
    simp at heq

/-- First segments of one kind, consistent below each of them. -/
theorem of_under (kind : CliPathSegmentKind)
    (hhead : ∀ e ∈ es, ∃ s rest, e.1 = s :: rest ∧ s.kind = kind ∧ (s = .append → rest = []) ∧
      ∀ i, s = .index i → 0 ≤ i)
    (hunder : ∀ s, Consistent (Lib.under s es)) : Consistent es where
  appendLast e he before after heq := by
    obtain ⟨path, v⟩ := e
    obtain ⟨s, rest, hpath, -, happend, -⟩ := hhead _ he
    dsimp only at hpath heq
    subst hpath
    cases before with
    | nil =>
      obtain ⟨rfl, rfl⟩ := List.cons.inj heq
      exact happend rfl
    | cons t before =>
      obtain ⟨rfl, hrest⟩ := List.cons.inj heq
      exact (hunder s).appendLast (rest, v) (mem_under.mpr he) before after hrest
  nonneg e he i hi := by
    obtain ⟨path, v⟩ := e
    obtain ⟨s, rest, hpath, -, -, hindex⟩ := hhead _ he
    dsimp only at hpath hi
    subst hpath
    obtain hi | hi := List.mem_cons.mp hi
    · exact hindex i hi.symm
    · exact (hunder s).nonneg (rest, v) (mem_under.mpr he) i hi
  prefixFree := by
    apply prefixFree_of_under
    · intro e he hnil
      obtain ⟨s, rest, hpath, -⟩ := hhead e he
      rw [hnil] at hpath
      cases hpath
    · intro s
      exact (hunder s).prefixFree
  sameKind e he e' he' before t t' after after' heq heq' := by
    obtain ⟨path, v⟩ := e
    obtain ⟨path', v'⟩ := e'
    obtain ⟨s, rest, hpath, hkind, -⟩ := hhead _ he
    obtain ⟨s', rest', hpath', hkind', -⟩ := hhead _ he'
    dsimp only at hpath hpath' heq heq'
    subst hpath hpath'
    cases before with
    | nil =>
      obtain ⟨rfl, -⟩ := List.cons.inj heq
      obtain ⟨rfl, -⟩ := List.cons.inj heq'
      rw [hkind, hkind']
    | cons u before =>
      obtain ⟨rfl, hrest⟩ := List.cons.inj heq
      obtain ⟨rfl, hrest'⟩ := List.cons.inj heq'
      exact (hunder _).sameKind (rest, v) (mem_under.mpr he) (rest', v') (mem_under.mpr he')
        before t t' after after' hrest hrest'

variable {e : CliPath × Json}

/-- A literal where paths go on. -/
theorem not_literal (he : e ∈ es) (hne : e.1 ≠ []) (v : Json) : ¬ Consistent (es ++ [([], v)]) := by
  intro h
  have heq := h.prefixFree ([], v) (by simp) e (by simp [he]) List.nil_prefix
  exact hne heq.symm

/-- A path through a literal. -/
theorem not_through (he : e ∈ es) (hnil : e.1 = []) {path : CliPath} (hne : path ≠ []) (v : Json) :
    ¬ Consistent (es ++ [(path, v)]) := by
  intro h
  have heq := h.prefixFree e (by simp [he]) (path, v) (by simp) (by rw [hnil]; exact List.nil_prefix)
  rw [hnil] at heq
  exact hne heq.symm

/-- Another kind of segment. -/
theorem not_kind (he : e ∈ es) {s t : CliPathSegment} {rest : CliPath} (hs : e.1 = s :: rest)
    (hkind : s.kind ≠ t.kind) (path : CliPath) (v : Json) :
    ¬ Consistent (es ++ [(t :: path, v)]) := by
  intro h
  exact hkind (h.sameKind e (by simp [he]) (t :: path, v) (by simp) [] s t rest path hs rfl)

/-- What is inconsistent below a segment is inconsistent. -/
theorem not_under {s : CliPathSegment} {path : CliPath} {v : Json}
    (h : ¬ Consistent (Lib.under s es ++ [(path, v)])) : ¬ Consistent (es ++ [(s :: path, v)]) := by
  intro hc
  have hunder := hc.under s
  rw [under_append, under_single_self] at hunder
  exact h hunder

end Consistent

/-! ## §2. What a node looks like -/

/-- The node of an object with these children. -/
def objectNode (children : List (String × CliNode)) : CliNode :=
  { kind := .object, origin := .aggregated, objectChildren := children }

/-- The node of an array whose children were written by index. -/
def indexedNode (children : List CliNode) : CliNode :=
  { kind := .array, origin := .aggregated, arrayChildren := children,
    hasExplicitIndexWrites := true }

/-- The node of an array whose children were appended. -/
def appendedNode (children : List CliNode) : CliNode :=
  { kind := .array, origin := .aggregated, arrayChildren := children, hasAppendWrites := true }

/-- The node took the assignments: none, literals at the node itself, keys, indices, or
appends. -/
inductive Represents : CliNode → List (CliPath × Json) → Prop where
  | unset : Represents {} []
  | literal {es : List (CliPath × Json)} {v : Json} :
      (∀ e ∈ es, e.1 = []) → (es.map Prod.snd).getLast? = some v → Represents (literalNode v) es
  | object {es : List (CliPath × Json)} {children : List (String × CliNode)} :
      es ≠ [] → (∀ e ∈ es, ∃ key rest, e.1 = .key key :: rest) →
        children.Pairwise (fun a b => a.1 < b.1) →
        (∀ key, SortedMap.lookup key children = none ↔ under (.key key) es = []) →
        (∀ key child, SortedMap.lookup key children = some child →
          Represents child (under (.key key) es)) →
        Represents (objectNode children) es
  | array {es : List (CliPath × Json)} {children : List CliNode} :
      es ≠ [] → (∀ e ∈ es, ∃ i : Nat, ∃ rest, e.1 = .index i :: rest ∧ i < children.length) →
        (∃ e ∈ es, ∃ i : Nat, ∃ rest, e.1 = .index i :: rest ∧ i + 1 = children.length) →
        (∀ (i : Nat) child, children[i]? = some child → Represents child (under (.index i) es)) →
        Represents (indexedNode children) es
  | appended {es : List (CliPath × Json)} :
      es ≠ [] → (∀ e ∈ es, e.1 = [.append]) →
        Represents (appendedNode (es.map fun e => literalNode e.2)) es

/-! ## §3. One assignment -/

/-- One more assignment is taken and the node represents them all, or it is refused and they
are not consistent. -/
def Decided (node : CliNode) (es : List (CliPath × Json)) (path : CliPath) (v : Json) : Prop :=
  (∃ node', assignPath node path v = .ok node' ∧ Represents node' (es ++ [(path, v)])) ∨
  ((∃ error, assignPath node path v = .error error) ∧ ¬ Consistent (es ++ [(path, v)]))

section Unfold

variable {node node₁ : CliNode} {rest : CliPath} {v : Json}

theorem assignPath_key {key : String} (h : ensureObjectNode node true = .ok node₁) :
    assignPath node (.key key :: rest) v =
      (assignPath ((SortedMap.lookup key node₁.objectChildren).getD {}) rest v).map fun child =>
        { node₁ with objectChildren := SortedMap.insertEntry key child node₁.objectChildren } := by
  rw [assignPath, h]
  show (assignPath ((SortedMap.lookup key node₁.objectChildren).getD {}) rest v).bind _ = _
  cases assignPath ((SortedMap.lookup key node₁.objectChildren).getD {}) rest v <;> rfl

theorem assignPath_key_error {key error : String} (h : ensureObjectNode node true = .error error) :
    assignPath node (.key key :: rest) v = .error error := by
  rw [assignPath, h]
  rfl

/-- The children with an unset one at `i` at least. -/
def padded (children : List CliNode) (i : Nat) : List CliNode :=
  children ++ List.replicate (i + 1 - children.length) ({} : CliNode)

theorem assignPath_index {i : Nat} (h : ensureArrayNode node true = .ok node₁)
    (happend : node₁.hasAppendWrites = false) :
    assignPath node (.index i :: rest) v =
      (assignPath ((padded node₁.arrayChildren i).getD i {}) rest v).map fun child =>
        { node₁ with arrayChildren := (padded node₁.arrayChildren i).set i child,
                     hasExplicitIndexWrites := true } := by
  have hpos : ¬ (i : Int) < 0 := by omega
  rw [assignPath, h]
  show (if node₁.hasAppendWrites then _ else _) = _
  rw [if_neg (by rw [happend]; simp), if_neg hpos, Int.toNat_natCast]
  show (assignPath ((padded node₁.arrayChildren i).getD i {}) rest v).bind _ = _
  cases assignPath ((padded node₁.arrayChildren i).getD i {}) rest v <;> rfl

theorem assignPath_index_error {i : Int} {error : String}
    (h : ensureArrayNode node true = .error error) :
    assignPath node (.index i :: rest) v = .error error := by
  rw [assignPath, h]
  rfl

theorem assignPath_index_negative {i : Int} (h : ensureArrayNode node true = .ok node₁)
    (hneg : i < 0) : ∃ error, assignPath node (.index i :: rest) v = .error error := by
  rw [assignPath, h]
  show ∃ error, (if node₁.hasAppendWrites then _ else _) = _
  cases node₁.hasAppendWrites with
  | true => exact ⟨_, rfl⟩
  | false =>
    rw [if_neg (by simp), if_pos hneg]
    exact ⟨_, rfl⟩

end Unfold

variable {es : List (CliPath × Json)} {node root : CliNode} {v : Json} {path : CliPath}

/-- Where all children are below the length, padding adds unset ones. -/
theorem represents_padded {children : List CliNode}
    (hindices : ∀ e ∈ es, ∃ i : Nat, ∃ rest, e.1 = .index i :: rest ∧ i < children.length)
    (hchildren : ∀ (i : Nat) child, children[i]? = some child →
      Represents child (under (.index i) es)) (i j : Nat) (child : CliNode)
    (hj : (padded children i)[j]? = some child) : Represents child (under (.index j) es) := by
  by_cases hlt : j < children.length
  · rw [padded, List.getElem?_append_left hlt] at hj
    exact hchildren j child hj
  · -- beyond the children nothing was assigned
    have hnone : under (.index j) es = [] := by
      rw [under_eq_nil]
      intro e he rest hpath
      obtain ⟨k, rest', hpath', hk⟩ := hindices e he
      rw [hpath] at hpath'
      have hjk := CliPathSegment.index.inj (List.cons.inj hpath').1
      omega
    rw [padded, List.getElem?_append_right (not_lt.mp hlt), List.getElem?_replicate] at hj
    split at hj
    · obtain rfl := Option.some.inj hj
      rw [hnone]
      exact .unset
    · cases hj

theorem under_concat_self (s : CliPathSegment) (es : List (CliPath × Json)) (path : CliPath)
    (v : Json) : under s (es ++ [(s :: path, v)]) = under s es ++ [(path, v)] := by
  rw [under_append, under_single_self]

theorem under_concat_of_ne {s t : CliPathSegment} (h : t ≠ s) (es : List (CliPath × Json))
    (path : CliPath) (v : Json) : under s (es ++ [(t :: path, v)]) = under s es := by
  rw [under_append, under_single_of_ne h, List.append_nil]

/-- A key, in an object that represents the assignments so far or has none yet. -/
theorem decided_key {es : List (CliPath × Json)} {children : List (String × CliNode)}
    {node : CliNode} (hnode : ensureObjectNode node true = .ok (objectNode children))
    (hkeys : ∀ e ∈ es, ∃ key rest, e.1 = .key key :: rest)
    (hsorted : children.Pairwise fun a b => a.1 < b.1)
    (hnone : ∀ key, SortedMap.lookup key children = none ↔ under (.key key) es = [])
    (hchildren : ∀ key child, SortedMap.lookup key children = some child →
      Represents child (under (.key key) es))
    (key : String) (rest : CliPath) (v : Json)
    (ih : ∀ {child : CliNode} {es : List (CliPath × Json)}, Represents child es →
      Decided child es rest v) : Decided node es (.key key :: rest) v := by
  -- the child represents what is below the key, also when there is none yet
  have hchild : Represents ((SortedMap.lookup key children).getD {}) (under (.key key) es) := by
    cases hlook : SortedMap.lookup key children with
    | none =>
      rw [(hnone key).mp hlook]
      exact .unset
    | some child => exact hchildren key child hlook
  obtain ⟨child', hok, hrep⟩ | ⟨⟨error, herror⟩, hno⟩ := ih hchild
  · refine Or.inl ⟨objectNode (SortedMap.insertEntry key child' children), ?_, ?_⟩
    · rw [assignPath_key hnode]
      show (assignPath ((SortedMap.lookup key children).getD {}) rest v).map _ = _
      rw [hok]
      rfl
    · apply Represents.object (by simp)
      · intro e he
        obtain he | he := List.mem_append.mp he
        · exact hkeys e he
        · rw [List.mem_singleton.mp he]
          exact ⟨key, rest, rfl⟩
      · exact SortedMap.pairwise_insertEntry hsorted
      · intro key'
        by_cases hkey : key' = key
        · subst hkey
          rw [SortedMap.lookup_insertEntry_self, under_concat_self]
          simp
        · rw [SortedMap.lookup_insertEntry_of_ne hkey, hnone key',
            under_concat_of_ne fun h => hkey (CliPathSegment.key.inj h).symm]
      · intro key' child hlook
        by_cases hkey : key' = key
        · subst hkey
          rw [SortedMap.lookup_insertEntry_self] at hlook
          obtain rfl := Option.some.inj hlook
          rw [under_concat_self]
          exact hrep
        · rw [SortedMap.lookup_insertEntry_of_ne hkey] at hlook
          rw [under_concat_of_ne fun h => hkey (CliPathSegment.key.inj h).symm]
          exact hchildren key' child hlook
  · refine Or.inr ⟨⟨error, ?_⟩, Consistent.not_under hno⟩
    rw [assignPath_key hnode]
    show (assignPath ((SortedMap.lookup key children).getD {}) rest v).map _ = _
    rw [herror]
    rfl

/-- An index, in an array that represents the assignments so far or has none yet. -/
theorem decided_index {es : List (CliPath × Json)} {children : List CliNode} {node node₁ : CliNode}
    (hnode : ensureArrayNode node true = .ok node₁) (happend : node₁.hasAppendWrites = false)
    (harray : ∀ l, { node₁ with arrayChildren := l, hasExplicitIndexWrites := true } = indexedNode l)
    (hnodes : node₁.arrayChildren = children)
    (hindices : ∀ e ∈ es, ∃ i : Nat, ∃ rest, e.1 = .index i :: rest ∧ i < children.length)
    (hlast : es = [] ∧ children = [] ∨
      ∃ e ∈ es, ∃ i : Nat, ∃ rest, e.1 = .index i :: rest ∧ i + 1 = children.length)
    (hchildren : ∀ (i : Nat) child, children[i]? = some child →
      Represents child (under (.index i) es))
    (i : Nat) (rest : CliPath) (v : Json)
    (ih : ∀ {child : CliNode} {es : List (CliPath × Json)}, Represents child es →
      Decided child es rest v) : Decided node es (.index i :: rest) v := by
  have hpadded := represents_padded hindices hchildren i
  have hlen : (padded children i).length = max children.length (i + 1) := by
    rw [padded, List.length_append, List.length_replicate]
    omega
  have hget : (padded children i)[i]? = some ((padded children i).getD i {}) := by
    rw [List.getD_eq_getElem?_getD]
    have hlt : i < (padded children i).length := by omega
    rw [List.getElem?_eq_getElem hlt]
    rfl
  obtain ⟨child', hok, hrep⟩ | ⟨⟨error, herror⟩, hno⟩ := ih (hpadded i _ hget)
  · refine Or.inl ⟨indexedNode ((padded children i).set i child'), ?_, ?_⟩
    · rw [assignPath_index hnode happend, hnodes, hok]
      exact congrArg Except.ok (harray _)
    · apply Represents.array (by simp)
      · intro e he
        rw [List.length_set, hlen]
        obtain he | he := List.mem_append.mp he
        · obtain ⟨k, rest', hpath, hk⟩ := hindices e he
          exact ⟨k, rest', hpath, by omega⟩
        · rw [List.mem_singleton.mp he]
          exact ⟨i, rest, rfl, by omega⟩
      · -- the longest index is the new one or the longest so far
        rw [List.length_set, hlen]
        by_cases hmax : children.length ≤ i + 1
        · exact ⟨_, List.mem_append_right _ (List.mem_singleton_self _), i, rest, rfl, by omega⟩
        · obtain ⟨-, hempty⟩ | ⟨e, he, k, rest', hpath, hk⟩ := hlast
          · rw [hempty] at hmax
            simp at hmax
          · exact ⟨e, List.mem_append_left _ he, k, rest', hpath, by omega⟩
      · intro j child hj
        by_cases hij : i = j
        · subst hij
          rw [List.getElem?_set_self (by omega)] at hj
          obtain rfl := Option.some.inj hj
          rw [under_concat_self]
          exact hrep
        · rw [List.getElem?_set_ne hij] at hj
          rw [under_concat_of_ne fun h => hij (by
            have hcast := CliPathSegment.index.inj h
            omega)]
          exact hpadded j child hj
  · refine Or.inr ⟨⟨error, ?_⟩, Consistent.not_under hno⟩
    rw [assignPath_index hnode happend, hnodes, herror]
    rfl

/-- A literal is no node to go through. -/
theorem ensureNode_literal (kind : CliNodeKind) (hobject : kind = .object ∨ kind = .array)
    (v : Json) : ∃ error, ensureNode kind (literalNode v) true = .error error := by
  obtain rfl | rfl := hobject <;> cases v <;> exact ⟨_, rfl⟩

/-- An append as the last segment of the path. -/
theorem decided_append (h : Represents node es) (v : Json) : Decided node es [.append] v := by
  cases h with
  | unset =>
    refine Or.inl ⟨appendedNode [literalNode v], rfl, ?_⟩
    exact @Represents.appended [([.append], v)] (by simp) (by simp)
  | @literal _ w hnil hlast =>
    obtain ⟨error, herror⟩ := ensureNode_literal .array (Or.inr rfl) w
    obtain ⟨e, he⟩ : ∃ e, e ∈ es := by
      apply List.exists_mem_of_ne_nil
      intro hempty
      rw [hempty] at hlast
      cases hlast
    refine Or.inr ⟨⟨error, ?_⟩, Consistent.not_through he (hnil e he) (by simp) v⟩
    show (ensureArrayNode (literalNode w) true).bind _ = _
    rw [ensureArrayNode, herror]
    rfl
  | object hne hkeys _ _ _ =>
    obtain ⟨e, he⟩ := List.exists_mem_of_ne_nil _ hne
    obtain ⟨key, rest, hpath⟩ := hkeys e he
    exact Or.inr ⟨⟨_, rfl⟩, Consistent.not_kind he hpath (by simp [CliPathSegment.kind]) [] v⟩
  | array hne hindices _ _ =>
    obtain ⟨e, he⟩ := List.exists_mem_of_ne_nil _ hne
    obtain ⟨i, rest, hpath, -⟩ := hindices e he
    exact Or.inr ⟨⟨_, rfl⟩, Consistent.not_kind he hpath (by simp [CliPathSegment.kind]) [] v⟩
  | appended hne hpaths =>
    refine Or.inl ⟨appendedNode ((es ++ [([CliPathSegment.append], v)]).map
      fun e : CliPath × Json => literalNode e.2), ?_, ?_⟩
    · rw [List.map_append]
      rfl
    · apply Represents.appended (by simp)
      intro e he
      obtain he | he := List.mem_append.mp he
      · exact hpaths e he
      · rw [List.mem_singleton.mp he]

/-- A literal at the node itself. -/
theorem decided_literal (h : Represents node es) (v : Json) : Decided node es [] v := by
  -- over anything but literals there is a path that goes on
  have hconflict : ∀ e ∈ es, e.1 ≠ [] → node.kind = .object ∨ node.kind = .array →
      node.origin = .aggregated → Decided node es [] v := by
    intro e he hpath hkind horigin
    refine Or.inr ⟨⟨"path conflict: container literal vs child path", ?_⟩,
      Consistent.not_literal he hpath v⟩
    rw [assignPath, if_pos]
    obtain hk | hk := hkind <;> simp [hk, horigin]
  cases h with
  | unset =>
    refine Or.inl ⟨literalNode v, rfl, ?_⟩
    exact @Represents.literal [([], v)] v (by simp) rfl
  | @literal _ w hnil hlast =>
    refine Or.inl ⟨literalNode v, by cases w <;> rfl, ?_⟩
    apply Represents.literal
    · intro e he
      obtain he | he := List.mem_append.mp he
      · exact hnil e he
      · rw [List.mem_singleton.mp he]
    · rw [List.map_append]
      simp
  | object hne hkeys _ _ _ =>
    obtain ⟨e, he⟩ := List.exists_mem_of_ne_nil _ hne
    obtain ⟨key, rest, hpath⟩ := hkeys e he
    exact hconflict e he (by rw [hpath]; simp) (Or.inl rfl) rfl
  | array hne hindices _ _ =>
    obtain ⟨e, he⟩ := List.exists_mem_of_ne_nil _ hne
    obtain ⟨i, rest, hpath, -⟩ := hindices e he
    exact hconflict e he (by rw [hpath]; simp) (Or.inr rfl) rfl
  | appended hne hpaths =>
    obtain ⟨e, he⟩ := List.exists_mem_of_ne_nil _ hne
    exact hconflict e he (by rw [hpaths e he]; simp) (Or.inr rfl) rfl

/-- A node that cannot become what the segment needs: the literal or the other kind of segment
that is there is in conflict with the path. -/
theorem decided_refused (hne : es ≠ []) {s : CliPathSegment}
    (hkind : ∀ e ∈ es, ∀ t rest, e.1 = t :: rest → t.kind ≠ s.kind) {rest : CliPath}
    (herror : ∃ error, assignPath node (s :: rest) v = .error error) :
    Decided node es (s :: rest) v := by
  refine Or.inr ⟨herror, ?_⟩
  obtain ⟨e, he⟩ := List.exists_mem_of_ne_nil _ hne
  cases hpath : e.1 with
  | nil => exact Consistent.not_through he hpath (by simp) v
  | cons t path => exact Consistent.not_kind he hpath (hkind e he t path hpath) rest v

/-- **One step.**  A node that represents some assignments decides about one more. -/
theorem Represents.decided (h : Represents node es) (path : CliPath) (v : Json) :
    Decided node es path v := by
  induction path generalizing node es with
  | nil => exact decided_literal h v
  | cons s rest ih =>
    cases s with
    | key key =>
      cases h with
      | unset =>
        exact @decided_key [] [] _ rfl (by simp) .nil
          (by simp [SortedMap.lookup]) (by simp [SortedMap.lookup]) key rest v fun h => ih h
      | @literal _ w hnil hlast =>
        obtain ⟨error, herror⟩ := ensureNode_literal .object (Or.inl rfl) w
        refine decided_refused ?_ ?_ ⟨error, assignPath_key_error herror⟩
        · intro hempty
          rw [hempty] at hlast
          cases hlast
        · intro e he t path hpath
          rw [hnil e he] at hpath
          cases hpath
      | object hne hkeys hsorted hnone hchildren =>
        exact decided_key rfl hkeys hsorted hnone hchildren key rest v fun h => ih h
      | array hne hindices hlast hchildren =>
        refine decided_refused hne ?_ ⟨_, rfl⟩
        intro e he t path hpath
        obtain ⟨i, rest', hpath', -⟩ := hindices e he
        rw [hpath] at hpath'
        rw [(List.cons.inj hpath').1]
        simp [CliPathSegment.kind]
      | appended hne hpaths =>
        refine decided_refused hne ?_ ⟨_, rfl⟩
        intro e he t path hpath
        rw [hpaths e he] at hpath
        rw [← (List.cons.inj hpath).1]
        simp [CliPathSegment.kind]
    | index j =>
      by_cases hneg : j < 0
      · -- a negative index is refused by every node
        refine Or.inr ⟨?_, ?_⟩
        · cases hensure : ensureArrayNode node true with
          | error error => exact ⟨error, assignPath_index_error hensure⟩
          | ok node₁ => exact assignPath_index_negative hensure hneg
        · intro hc
          have hpos := hc.nonneg (.index j :: rest, v) (by simp) j (by simp)
          omega
      · obtain ⟨i, rfl⟩ := Int.eq_ofNat_of_zero_le (not_lt.mp hneg)
        cases h with
        | unset =>
          exact @decided_index [] [] _ _ rfl rfl (fun _ => rfl) rfl (by simp)
            (Or.inl ⟨rfl, rfl⟩) (by simp) i rest v fun h => ih h
        | @literal _ w hnil hlast =>
          obtain ⟨error, herror⟩ := ensureNode_literal .array (Or.inr rfl) w
          refine decided_refused ?_ ?_ ⟨error, assignPath_index_error herror⟩
          · intro hempty
            rw [hempty] at hlast
            cases hlast
          · intro e he t path hpath
            rw [hnil e he] at hpath
            cases hpath
        | object hne hkeys hsorted hnone hchildren =>
          refine decided_refused hne ?_ ⟨_, rfl⟩
          intro e he t path hpath
          obtain ⟨key, rest', hpath'⟩ := hkeys e he
          rw [hpath] at hpath'
          rw [(List.cons.inj hpath').1]
          simp [CliPathSegment.kind]
        | array hne hindices hlast hchildren =>
          exact decided_index rfl rfl (fun _ => rfl) rfl hindices (Or.inr hlast) hchildren i rest v
            fun h => ih h
        | appended hne hpaths =>
          refine decided_refused hne ?_ ⟨_, rfl⟩
          intro e he t path hpath
          rw [hpaths e he] at hpath
          rw [← (List.cons.inj hpath).1]
          simp [CliPathSegment.kind]
    | append =>
      cases rest with
      | nil => exact decided_append h v
      | cons t rest =>
        refine Or.inr ⟨⟨_, rfl⟩, ?_⟩
        intro hc
        have hlast := hc.appendLast (.append :: t :: rest, v) (by simp) [] (t :: rest) rfl
        cases hlast

/-! ## §4. What the tree holds -/

/-- **What the assignments give**: the last literal where they end, an object of what they give
under each key, an array of what they give at each index, with null in the slots that are not
assigned, or the array of the appended values in order. -/
inductive Holds : List (CliPath × Json) → Json → Prop where
  | literal {es : List (CliPath × Json)} {v : Json} :
      (∀ e ∈ es, e.1 = []) → (es.map Prod.snd).getLast? = some v → Holds es v
  | object {es : List (CliPath × Json)} {m : List (String × Json)} :
      (∀ e ∈ es, ∃ key rest, e.1 = .key key :: rest) → Json.Sorted m →
        (∀ key, m.lookup key = none ↔ under (.key key) es = []) →
        (∀ key v, m.lookup key = some v → Holds (under (.key key) es) v) → Holds es (.obj m)
  | array {es : List (CliPath × Json)} {l : List Json} :
      es ≠ [] → (∀ e ∈ es, ∃ i : Nat, ∃ rest, e.1 = .index i :: rest ∧ i < l.length) →
        (∃ e ∈ es, ∃ i : Nat, ∃ rest, e.1 = .index i :: rest ∧ i + 1 = l.length) →
        (∀ (i : Nat) v, l[i]? = some v → under (.index i) es = [] → v = .null) →
        (∀ (i : Nat) v, l[i]? = some v → under (.index i) es ≠ [] →
          Holds (under (.index i) es) v) → Holds es (.arr l)
  | appended {es : List (CliPath × Json)} :
      es ≠ [] → (∀ e ∈ es, e.1 = [.append]) → Holds es (.arr (es.map Prod.snd))

theorem nodeToJson_literalNode (v : Json) : nodeToJson (literalNode v) = v := by
  cases v <;> rfl

theorem childrenToArray_eq_map (children : List CliNode) :
    childrenToArray children = children.map nodeToJson := by
  induction children with
  | nil => rfl
  | cons child rest ih =>
    show nodeToJson child :: childrenToArray rest = _
    rw [ih]
    rfl

/-- Inserted in key order, the children become the members one by one. -/
theorem childrenToObject_append (obj : List (String × Json)) (children : List (String × CliNode))
    (h : (obj.map Prod.fst ++ children.map Prod.fst).Pairwise (· < ·)) :
    childrenToObject obj children = obj ++ children.map fun c => (c.1, nodeToJson c.2) := by
  induction children generalizing obj with
  | nil =>
    rw [List.map_nil, List.append_nil]
    rfl
  | cons c rest ih =>
    obtain ⟨key, child⟩ := c
    have hlast : ∀ member ∈ obj, member.1 < key := by
      intro member hmember
      exact (List.pairwise_append.mp h).2.2 _ (List.mem_map_of_mem hmember) key (by simp)
    show childrenToObject (Json.insert obj key (nodeToJson child)) rest = _
    rw [Json.insert_last hlast, ih]
    · simp
    · simpa using h

theorem childrenToObject_eq_map (children : List (String × CliNode))
    (h : children.Pairwise fun a b => a.1 < b.1) :
    childrenToObject [] children = children.map fun c => (c.1, nodeToJson c.2) := by
  rw [childrenToObject_append]
  · rfl
  · rw [List.map_nil, List.nil_append, List.pairwise_map]
    exact h

theorem lookup_map_nodeToJson (children : List (String × CliNode)) (key : String) :
    (children.map fun c => (c.1, nodeToJson c.2)).lookup key =
      (SortedMap.lookup key children).map nodeToJson := by
  induction children with
  | nil => rfl
  | cons c rest ih =>
    obtain ⟨k, child⟩ := c
    rw [List.map_cons, Json.lookup_member, SortedMap.lookup, ih]
    by_cases hk : key = k
    · rw [if_pos hk, if_pos hk]
      rfl
    · rw [if_neg hk, if_neg hk]

/-- **A node holds what its assignments give.** -/
theorem Represents.holds (h : Represents node es) (hne : es ≠ []) : Holds es (nodeToJson node) := by
  induction h with
  | unset => exact absurd rfl hne
  | literal hnil hlast =>
    rw [nodeToJson_literalNode]
    exact .literal hnil hlast
  | @object es children _ hkeys hsorted hnone _ ih =>
    have hjson : nodeToJson (objectNode children) =
        .obj (children.map fun c => (c.1, nodeToJson c.2)) := by
      rw [← childrenToObject_eq_map children hsorted]
      rfl
    rw [hjson]
    refine .object hkeys ?_ ?_ ?_
    · rw [Json.sorted_iff_keys, List.map_map, List.pairwise_map]
      exact hsorted
    · intro key
      rw [lookup_map_nodeToJson, Option.map_eq_none_iff]
      exact hnone key
    · intro key v hv
      rw [lookup_map_nodeToJson] at hv
      obtain ⟨child, hchild, rfl⟩ := Option.map_eq_some_iff.mp hv
      refine ih key child hchild ?_
      intro hempty
      rw [(hnone key).mpr hempty] at hchild
      cases hchild
  | @array es children hne hindices hlast hchildren ih =>
    have hjson : nodeToJson (indexedNode children) = .arr (children.map nodeToJson) := by
      rw [← childrenToArray_eq_map]
      rfl
    rw [hjson]
    refine .array hne ?_ ?_ ?_ ?_
    · simpa using hindices
    · simpa using hlast
    · intro i v hv hempty
      rw [List.getElem?_map] at hv
      obtain ⟨child, hchild, rfl⟩ := Option.map_eq_some_iff.mp hv
      -- a child without assignments is unset
      have hrep := hchildren i child hchild
      rw [hempty] at hrep
      generalize hnil : ([] : List (CliPath × Json)) = none' at hrep
      cases hrep with
      | unset => rfl
      | literal _ hlast' =>
        subst hnil
        cases hlast'
      | object hne' _ _ _ _ => exact absurd hnil.symm hne'
      | array hne' _ _ _ => exact absurd hnil.symm hne'
      | appended hne' _ => exact absurd hnil.symm hne'
    · intro i v hv hne'
      rw [List.getElem?_map] at hv
      obtain ⟨child, hchild, rfl⟩ := Option.map_eq_some_iff.mp hv
      exact ih i child hchild hne'
  | @appended es hne hpaths =>
    have hjson : nodeToJson (appendedNode (es.map fun e => literalNode e.2)) =
        .arr (es.map Prod.snd) := by
      have hmap : childrenToArray (es.map fun e => literalNode e.2) = es.map Prod.snd := by
        rw [childrenToArray_eq_map, List.map_map]
        apply List.map_congr_left
        intro e _
        exact nodeToJson_literalNode e.2
      rw [← hmap]
      rfl
    rw [hjson]
    exact .appended hne hpaths

/-- What assignments give is given by consistent ones. -/
theorem Holds.consistent (h : Holds es v) : Consistent es := by
  induction h with
  | literal hnil _ => exact .of_literals hnil
  | @object es m hkeys _ hnone _ ih =>
    apply Consistent.of_under .key
    · intro e he
      obtain ⟨key, rest, hpath⟩ := hkeys e he
      exact ⟨_, rest, hpath, rfl, by simp, by simp⟩
    · intro s
      by_cases hs : Lib.under s es = []
      · rw [hs]
        exact .of_literals (by simp)
      · -- some path begins with it, so it is the key of a member
        obtain ⟨e, he⟩ := List.exists_mem_of_ne_nil _ hs
        obtain ⟨key, rest, hpath⟩ := hkeys _ (mem_under.mp he)
        obtain ⟨rfl, -⟩ := List.cons.inj hpath
        cases hv : m.lookup key with
        | none => exact absurd ((hnone key).mp hv) hs
        | some v => exact ih key v hv
  | @array es l _ hindices _ _ _ ih =>
    apply Consistent.of_under .index
    · intro e he
      obtain ⟨i, rest, hpath, -⟩ := hindices e he
      refine ⟨_, rest, hpath, rfl, by simp, ?_⟩
      intro j hj
      obtain rfl := CliPathSegment.index.inj hj
      omega
    · intro s
      by_cases hs : Lib.under s es = []
      · rw [hs]
        exact .of_literals (by simp)
      · -- some path begins with it, so it is the index of an item
        obtain ⟨e, he⟩ := List.exists_mem_of_ne_nil _ hs
        obtain ⟨i, rest, hpath, hlt⟩ := hindices _ (mem_under.mp he)
        obtain ⟨rfl, -⟩ := List.cons.inj hpath
        exact ih i _ (List.getElem?_eq_getElem hlt) hs
  | @appended es _ hpaths =>
    apply Consistent.of_under .append
    · intro e he
      exact ⟨_, _, hpaths e he, rfl, fun _ => rfl, by simp⟩
    · intro s
      apply Consistent.of_literals
      intro e he
      exact (List.cons.inj (hpaths _ (mem_under.mp he))).2

/-- What a node represents is consistent. -/
theorem Represents.consistent (h : Represents node es) : Consistent es := by
  by_cases hne : es = []
  · rw [hne]
    exact .of_literals (by simp)
  · exact (h.holds hne).consistent

/-- Some assignment, where a last value is given. -/
theorem ne_nil_of_getLast (h : (es.map Prod.snd).getLast? = some v) : es ≠ [] := by
  intro hempty
  rw [hempty] at h
  cases h

section Inversion

variable {es : List (CliPath × Json)} {v : Json} {e : CliPath × Json}

/-- An assignment that ends here gives a literal. -/
theorem Holds.of_nil (h : Holds es v) (he : e ∈ es) (hpath : e.1 = []) :
    (∀ e ∈ es, e.1 = []) ∧ (es.map Prod.snd).getLast? = some v := by
  cases h with
  | literal hnil hlast => exact ⟨hnil, hlast⟩
  | object hkeys _ _ _ =>
    obtain ⟨_, _, hpath'⟩ := hkeys e he
    rw [hpath] at hpath'
    cases hpath'
  | array _ hindices _ _ _ =>
    obtain ⟨_, _, hpath', -⟩ := hindices e he
    rw [hpath] at hpath'
    cases hpath'
  | appended _ hpaths =>
    rw [hpaths e he] at hpath
    cases hpath

/-- Assignments that all begin with a key give an object, also when there are none. -/
theorem Holds.of_keys (h : Holds es v) (hkeys : ∀ e ∈ es, ∃ key rest, e.1 = .key key :: rest) :
    ∃ m, v = .obj m ∧ Json.Sorted m ∧
      (∀ key, m.lookup key = none ↔ under (.key key) es = []) ∧
      ∀ key v, m.lookup key = some v → Holds (under (.key key) es) v := by
  cases h with
  | literal hnil hlast =>
    obtain ⟨e, he⟩ := List.exists_mem_of_ne_nil _ (ne_nil_of_getLast hlast)
    obtain ⟨_, _, hpath⟩ := hkeys e he
    rw [hnil e he] at hpath
    cases hpath
  | object _ hsorted hnone hheld => exact ⟨_, rfl, hsorted, hnone, hheld⟩
  | array hne hindices _ _ _ =>
    obtain ⟨e, he⟩ := List.exists_mem_of_ne_nil _ hne
    obtain ⟨_, _, hpath⟩ := hkeys e he
    obtain ⟨_, _, hpath', -⟩ := hindices e he
    rw [hpath] at hpath'
    cases hpath'
  | appended hne hpaths =>
    obtain ⟨e, he⟩ := List.exists_mem_of_ne_nil _ hne
    obtain ⟨_, _, hpath⟩ := hkeys e he
    rw [hpaths e he] at hpath
    cases hpath

/-- An assignment that begins with an index gives an array as long as the indices ask. -/
theorem Holds.of_index (h : Holds es v) (he : e ∈ es) {i : Int} {rest : CliPath}
    (hpath : e.1 = .index i :: rest) :
    ∃ l, v = .arr l ∧
      (∀ e ∈ es, ∃ i : Nat, ∃ rest, e.1 = .index i :: rest ∧ i < l.length) ∧
      (∃ e ∈ es, ∃ i : Nat, ∃ rest, e.1 = .index i :: rest ∧ i + 1 = l.length) ∧
      (∀ (i : Nat) v, l[i]? = some v → under (.index i) es = [] → v = .null) ∧
      ∀ (i : Nat) v, l[i]? = some v → under (.index i) es ≠ [] → Holds (under (.index i) es) v := by
  cases h with
  | literal hnil _ =>
    rw [hnil e he] at hpath
    cases hpath
  | object hkeys _ _ _ =>
    obtain ⟨_, _, hpath'⟩ := hkeys e he
    rw [hpath] at hpath'
    cases hpath'
  | array _ hindices hlast hnull hheld => exact ⟨_, rfl, hindices, hlast, hnull, hheld⟩
  | appended _ hpaths =>
    rw [hpaths e he] at hpath
    cases hpath

/-- An assignment that appends gives the array of the appended values. -/
theorem Holds.of_append (h : Holds es v) (he : e ∈ es) {rest : CliPath}
    (hpath : e.1 = .append :: rest) :
    (∀ e ∈ es, e.1 = [.append]) ∧ v = .arr (es.map Prod.snd) := by
  cases h with
  | literal hnil _ =>
    rw [hnil e he] at hpath
    cases hpath
  | object hkeys _ _ _ =>
    obtain ⟨_, _, hpath'⟩ := hkeys e he
    rw [hpath] at hpath'
    cases hpath'
  | array _ hindices _ _ _ =>
    obtain ⟨_, _, hpath', -⟩ := hindices e he
    rw [hpath] at hpath'
    cases hpath'
  | appended _ hpaths => exact ⟨hpaths, rfl⟩

end Inversion

/-- **The assignments determine what is held.** -/
theorem Holds.unique {w : Json} (h : Holds es v) (h' : Holds es w) : v = w := by
  induction h generalizing w with
  | literal hnil hlast =>
    obtain ⟨e, he⟩ := List.exists_mem_of_ne_nil _ (ne_nil_of_getLast hlast)
    obtain ⟨-, hlast'⟩ := h'.of_nil he (hnil e he)
    exact Option.some.inj (hlast.symm.trans hlast')
  | @object es m hkeys hsorted hnone _ ih =>
    obtain ⟨m', rfl, hsorted', hnone', hheld'⟩ := h'.of_keys hkeys
    congr 1
    apply hsorted.ext hsorted'
    intro key
    cases hv : m.lookup key with
    | none => rw [(hnone' key).mpr ((hnone key).mp hv)]
    | some v =>
      cases hw : m'.lookup key with
      | none =>
        rw [(hnone key).mpr ((hnone' key).mp hw)] at hv
        cases hv
      | some w => rw [ih key v hv (hheld' key w hw)]
  | @array es l hne hindices hlast hnull _ ih =>
    obtain ⟨e, he⟩ := List.exists_mem_of_ne_nil _ hne
    obtain ⟨_, _, hpath, -⟩ := hindices e he
    obtain ⟨l', rfl, hindices', hlast', hnull', hheld'⟩ := h'.of_index he hpath
    -- the last index gives both lengths
    have hlen : l.length = l'.length := by
      obtain ⟨a, ha, i, _, hia, hi⟩ := hlast
      obtain ⟨b, hb, j, _, hjb, hj⟩ := hlast'
      obtain ⟨i', _, hia', hi'⟩ := hindices' a ha
      obtain ⟨j', _, hjb', hj'⟩ := hindices b hb
      rw [hia] at hia'
      rw [hjb] at hjb'
      have hii := CliPathSegment.index.inj (List.cons.inj hia').1
      have hjj := CliPathSegment.index.inj (List.cons.inj hjb').1
      omega
    congr 1
    apply List.ext_getElem hlen
    intro i hi hi'
    have hv := List.getElem?_eq_getElem hi
    have hw := List.getElem?_eq_getElem hi'
    -- a slot without assignments is null in both
    by_cases hempty : under (.index i) es = []
    · rw [hnull i _ hv hempty, hnull' i _ hw hempty]
    · exact ih i _ hv hempty (hheld' i _ hw hempty)
  | appended hne hpaths =>
    obtain ⟨e, he⟩ := List.exists_mem_of_ne_nil _ hne
    obtain ⟨-, rfl⟩ := h'.of_append he (hpaths e he)
    rfl

/-- **The order matters within one path only.** -/
theorem Holds.of_same {es' : List (CliPath × Json)} (h : Holds es v) (hsame : SameByPath es es') :
    Holds es' v := by
  induction h generalizing es' with
  | literal hnil hlast =>
    apply Holds.literal (hsame.forall_paths (P := fun p => p = []) hnil)
    rw [hsame.map_snd hnil]
    exact hlast
  | object hkeys hsorted hnone _ ih =>
    apply Holds.object (hsame.forall_paths (P := fun p => ∃ key rest, p = .key key :: rest) hkeys)
      hsorted
    · intro key
      rw [hnone key]
      exact ⟨(hsame.under _).eq_nil, (hsame.under _).symm.eq_nil⟩
    · intro key v hv
      exact ih key v hv (hsame.under _)
  | @array es l hne hindices hlast hnull _ ih =>
    refine Holds.array ?_ (hsame.forall_paths (P := fun p => ∃ i : Nat, ∃ rest,
      p = .index i :: rest ∧ i < l.length) hindices) ?_ ?_ ?_
    · intro hempty
      exact hne (hsame.symm.eq_nil hempty)
    · obtain ⟨e, he, i, rest, hpath, hi⟩ := hlast
      obtain ⟨e', he', heq⟩ := hsame.exists_mem he
      exact ⟨e', he', i, rest, heq.trans hpath, hi⟩
    · intro i v hv hempty
      exact hnull i v hv ((hsame.under _).symm.eq_nil hempty)
    · intro i v hv hne'
      exact ih i v hv (fun hempty => hne' ((hsame.under _).eq_nil hempty)) (hsame.under _)
  | appended hne hpaths =>
    rw [← hsame.map_snd hpaths]
    apply Holds.appended
    · intro hempty
      exact hne (hsame.symm.eq_nil hempty)
    · exact hsame.forall_paths (P := fun p => p = [.append]) hpaths

/-! ## §5. Where the values are -/

/-- The value at a path of keys and indices. -/
def jsonAt : Json → CliPath → Option Json
  | v, [] => some v
  | .obj m, .key key :: path => (m.lookup key).bind fun v => jsonAt v path
  | .arr l, .index i :: path => if i < 0 then none else l[i.toNat]?.bind fun v => jsonAt v path
  | _, _ => none

/-- A path with a value has no append. -/
theorem append_notMem_of_jsonAt {w : Json} (h : jsonAt v path = some w) : .append ∉ path := by
  induction path generalizing v with
  | nil => simp
  | cons s path ih =>
    cases s with
    | key key =>
      cases v with
      | obj m =>
        obtain ⟨u, -, hu⟩ := Option.bind_eq_some_iff.mp h
        simp [ih hu]
      | _ => cases h
    | index i =>
      cases v with
      | arr l =>
        rw [jsonAt] at h
        split at h
        · cases h
        · obtain ⟨u, -, hu⟩ := Option.bind_eq_some_iff.mp h
          simp [ih hu]
      | _ => cases h
    | append => cases v <;> cases h

theorem exists_of_valuesAt (h : valuesAt path es ≠ []) : ∃ e ∈ es, e.1 = path := by
  by_contra hno
  apply h
  rw [valuesAt_eq_nil]
  intro e he hpath
  exact hno ⟨e, he, hpath⟩

/-- One step down, to a value that holds what is below the segment. -/
theorem Holds.step {es : List (CliPath × Json)} {v : Json} (h : Holds es v) {s : CliPathSegment}
    (hs : s ≠ .append) {e : CliPath × Json} (he : e ∈ es) {rest : CliPath} (hpath : e.1 = s :: rest) :
    ∃ u, Holds (under s es) u ∧ ∀ path, jsonAt v (s :: path) = jsonAt u path := by
  cases h with
  | literal hnil _ =>
    rw [hnil e he] at hpath
    cases hpath
  | @object _ m hkeys _ hnone hheld =>
    obtain ⟨key, rest', hpath'⟩ := hkeys e he
    rw [hpath] at hpath'
    obtain ⟨rfl, rfl⟩ := List.cons.inj hpath'
    cases hu : m.lookup key with
    | none => exact absurd hpath (under_eq_nil.mp ((hnone key).mp hu) e he rest)
    | some u =>
      refine ⟨u, hheld key u hu, ?_⟩
      intro path
      rw [jsonAt, hu]
      rfl
  | @array _ l _ hindices _ _ hheld =>
    obtain ⟨i, rest', hpath', hi⟩ := hindices e he
    rw [hpath] at hpath'
    obtain ⟨rfl, rfl⟩ := List.cons.inj hpath'
    have hne : under (.index i) es ≠ [] := by
      intro hempty
      exact under_eq_nil.mp hempty e he rest hpath
    refine ⟨l[i], hheld i _ (List.getElem?_eq_getElem hi) hne, ?_⟩
    intro path
    rw [jsonAt, if_neg (by omega), Int.toNat_natCast, List.getElem?_eq_getElem hi]
    rfl
  | appended _ hpaths =>
    rw [hpaths e he] at hpath
    exact absurd (List.cons.inj hpath).1.symm hs

/-- At each path the last literal given for it. -/
theorem Holds.last_at {w : Json} (h : Holds es v) (happend : .append ∉ path)
    (hlast : (valuesAt path es).getLast? = some w) :
    jsonAt v path = some w := by
  induction path generalizing es v with
  | nil =>
    obtain ⟨e, he, hpath⟩ : ∃ e ∈ es, e.1 = [] := by
      apply exists_of_valuesAt
      intro hempty
      rw [hempty] at hlast
      cases hlast
    obtain ⟨hnil, hlast'⟩ := h.of_nil he hpath
    have hall : valuesAt [] es = es.map Prod.snd := by
      rw [valuesAt, List.filter_eq_self.mpr]
      intro e he
      exact decide_eq_true (hnil e he)
    rw [hall, hlast'] at hlast
    exact hlast
  | cons s path ih =>
    obtain ⟨e, he, hpath⟩ : ∃ e ∈ es, e.1 = s :: path := by
      apply exists_of_valuesAt
      intro hempty
      rw [hempty] at hlast
      cases hlast
    obtain ⟨u, hu, hat⟩ := h.step (fun hs => happend (by rw [hs]; simp)) he hpath
    rw [hat path]
    apply ih hu fun hmem => happend (List.mem_cons_of_mem _ hmem)
    rw [valuesAt_under]
    exact hlast

/-- At each path that is appended to the array of the appended values. -/
theorem Holds.appended_at (h : Holds es v) (happend : .append ∉ path)
    (hne : valuesAt (path ++ [.append]) es ≠ []) :
    jsonAt v path = some (.arr (valuesAt (path ++ [.append]) es)) := by
  induction path generalizing es v with
  | nil =>
    obtain ⟨e, he, hpath⟩ := exists_of_valuesAt hne
    obtain ⟨hpaths, rfl⟩ := h.of_append he hpath
    have hall : valuesAt [.append] es = es.map Prod.snd := by
      rw [valuesAt, List.filter_eq_self.mpr]
      intro e he
      exact decide_eq_true (hpaths e he)
    rw [List.nil_append, hall]
    rfl
  | cons s path ih =>
    obtain ⟨e, he, hpath⟩ := exists_of_valuesAt hne
    obtain ⟨u, hu, hat⟩ := h.step (fun hs => happend (by rw [hs]; simp)) he hpath
    have hbelow : valuesAt (path ++ [.append]) (under s es) =
        valuesAt (s :: path ++ [.append]) es := valuesAt_under s _ es
    rw [hat path, ← hbelow]
    apply ih hu fun hmem => happend (List.mem_cons_of_mem _ hmem)
    rw [hbelow]
    exact hne

/-! ## §6. The run over the arguments -/

/-- The paths and literals of the arguments parse to the assignments. -/
def Parsed (qt : JsonQt) (args : List RawCliArg) (es : List (CliPath × Json)) : Prop :=
  List.Forall₂ (fun arg e => parsePath arg.path = .ok e.1 ∧
    parseJsonLiteral qt arg.rawValue = some e.2) args es

/-- The root after some assignments. -/
def RootHolds (root : CliNode) (es : List (CliPath × Json)) : Prop :=
  (∀ e ∈ es, ∃ key rest, e.1 = .key key :: rest) ∧
    (es = [] ∧ root = rootNode ∨ es ≠ [] ∧ Represents root es)

theorem RootHolds.compatible (h : RootHolds root es) : Compatible es := by
  obtain ⟨hkeys, ⟨rfl, -⟩ | ⟨-, hrep⟩⟩ := h
  · exact ⟨.of_literals (by simp), hkeys⟩
  · exact ⟨hrep.consistent, hkeys⟩

/-- **The object at the end.** -/
theorem RootHolds.holds (h : RootHolds root es) : Holds es (.obj (nodeToJson root).toObject) := by
  obtain ⟨hkeys, ⟨rfl, rfl⟩ | ⟨hne, hrep⟩⟩ := h
  · exact .object hkeys .nil (by simp [nodeToJson, rootNode, childrenToObject, Json.toObject])
      (by simp [nodeToJson, rootNode, childrenToObject, Json.toObject])
  · have hholds := hrep.holds hne
    obtain ⟨e, he⟩ := List.exists_mem_of_ne_nil _ hne
    obtain ⟨key, rest, hpath⟩ := hkeys e he
    generalize nodeToJson root = v at hholds
    -- paths that begin with keys give an object
    cases hholds with
    | object hkeys hsorted hnone hheld => exact .object hkeys hsorted hnone hheld
    | literal hnil _ =>
      rw [hnil e he] at hpath
      cases hpath
    | array _ hindices _ _ _ =>
      obtain ⟨_, _, hpath', -⟩ := hindices e he
      rw [hpath] at hpath'
      cases hpath'
    | appended _ hpaths =>
      rw [hpaths e he] at hpath
      cases hpath

/-- One argument at the root. -/
theorem RootHolds.step {root : CliNode} {es : List (CliPath × Json)} (h : RootHolds root es)
    (path : CliPath) (v : Json) :
    (∃ root', assignPath root path v = .ok root' ∧ RootHolds root' (es ++ [(path, v)])) ∨
    ((∃ error, assignPath root path v = .error error) ∧ ¬ Compatible (es ++ [(path, v)])) := by
  obtain ⟨hkeys, hroot⟩ := h
  have hnotkey : (∀ key rest, path ≠ .key key :: rest) → ¬ Compatible (es ++ [(path, v)]) := by
    intro hno hc
    obtain ⟨key, rest, hpath⟩ := hc.startsWithKey (path, v) (by simp)
    exact hno key rest hpath
  -- what a node decides about a path with a key in front
  have hkey : ∀ {node : CliNode} (_ : Represents node es) (key : String) (rest : CliPath),
      (∃ root', assignPath node (.key key :: rest) v = .ok root' ∧
        RootHolds root' (es ++ [(.key key :: rest, v)])) ∨
      ((∃ error, assignPath node (.key key :: rest) v = .error error) ∧
        ¬ Compatible (es ++ [(.key key :: rest, v)])) := by
    intro node hrep key rest
    obtain ⟨root', hok, hrep'⟩ | ⟨herror, hno⟩ := hrep.decided (.key key :: rest) v
    · refine Or.inl ⟨root', hok, ?_, Or.inr ⟨by simp, hrep'⟩⟩
      intro e he
      obtain he | he := List.mem_append.mp he
      · exact hkeys e he
      · rw [List.mem_singleton.mp he]
        exact ⟨key, rest, rfl⟩
    · exact Or.inr ⟨herror, fun hc => hno hc.toConsistent⟩
  obtain ⟨rfl, rfl⟩ | ⟨hne, hrep⟩ := hroot
  · cases path with
    | nil => exact Or.inr ⟨⟨_, rfl⟩, hnotkey (by simp)⟩
    | cons s rest =>
      cases s with
      | key key =>
        -- the root without assignments takes a key as an unset node does
        have hsame : assignPath rootNode (.key key :: rest) v =
            assignPath {} (.key key :: rest) v := rfl
        rw [hsame]
        exact hkey .unset key rest
      | index i => exact Or.inr ⟨⟨_, rfl⟩, hnotkey (by simp)⟩
      | append =>
        refine Or.inr ⟨?_, hnotkey (by simp)⟩
        cases rest <;> exact ⟨_, rfl⟩
  · by_cases hpath : ∃ key rest, path = .key key :: rest
    · obtain ⟨key, rest, rfl⟩ := hpath
      exact hkey hrep key rest
    · have hno : ∀ key rest, path ≠ .key key :: rest := fun key rest h => hpath ⟨key, rest, h⟩
      obtain ⟨root', hok, hrep'⟩ | ⟨herror, -⟩ := hrep.decided path v
      · -- a path of another kind is in conflict with the keys at the root
        obtain ⟨e, he⟩ := List.exists_mem_of_ne_nil _ hne
        obtain ⟨key, rest, hkeypath⟩ := hkeys e he
        have hcons := hrep'.consistent
        cases path with
        | nil => exact absurd hcons (Consistent.not_literal he (by rw [hkeypath]; simp) v)
        | cons s rest' =>
          refine absurd hcons (Consistent.not_kind he hkeypath ?_ rest' v)
          cases s with
          | key key' => exact absurd rfl (hno key' rest')
          | index i => simp [CliPathSegment.kind]
          | append => simp [CliPathSegment.kind]
      · exact Or.inr ⟨herror, hnotkey hno⟩

/-- **The run.**  All arguments are taken, or one is refused and the assignments are not
compatible. -/
theorem assignArgs_decided {qt : JsonQt} (mode : CliValueMode) {args : List RawCliArg}
    (hargs : Parsed qt args es) {before : List (CliPath × Json)} (hroot : RootHolds root before) :
    (∃ root', assignArgs qt mode root args = .ok root' ∧ RootHolds root' (before ++ es)) ∨
    ((∃ error, assignArgs qt mode root args = .error error) ∧ ¬ Compatible (before ++ es)) := by
  induction hargs generalizing root before with
  | nil =>
    rw [List.append_nil]
    exact Or.inl ⟨root, rfl, hroot⟩
  | @cons arg e args es harg _ ih =>
    obtain ⟨hpath, hvalue⟩ := harg
    have hparse : parseValue qt mode arg.rawValue = .ok e.2 := by
      cases mode with
      | canonical => rw [parseValue, hvalue]
      | friendly => rw [parseValue, inferFriendlyValue, hvalue, Option.getD_some]
    have hunfold : assignArgs qt mode root (arg :: args) =
        (assignPath root e.1 e.2).bind fun root => assignArgs qt mode root args := by
      rw [assignArgs, hpath, hparse]
      rfl
    have hsplit : before ++ e :: es = before ++ [e] ++ es := by simp
    rw [hunfold, hsplit]
    obtain ⟨root', hok, hroot'⟩ | ⟨⟨error, herror⟩, hno⟩ := hroot.step e.1 e.2
    · rw [hok]
      exact ih hroot'
    · refine Or.inr ⟨⟨error, by rw [herror]; rfl⟩, ?_⟩
      -- the paths so far are in conflict already
      intro hc
      apply hno
      have hsub : ∀ f ∈ before ++ [e], ∃ f' ∈ before ++ [e] ++ es, f'.1 = f.1 :=
        fun f hf => ⟨f, List.mem_append_left _ hf, rfl⟩
      exact ⟨hc.toConsistent.of_paths hsub, fun f hf => hc.startsWithKey f (List.mem_append_left _ hf)⟩

/-- The verdict and the object of a run. -/
theorem parseArgs_decided {qt : JsonQt} {args : List RawCliArg} (hargs : Parsed qt args es)
    (mode : CliValueMode) :
    (∃ out, parseArgs qt args mode = .ok out ∧ Compatible es ∧ Holds es (.obj out)) ∨
    ((∃ error, parseArgs qt args mode = .error error) ∧ ¬ Compatible es) := by
  have hroot : RootHolds rootNode [] := ⟨by simp, Or.inl ⟨rfl, rfl⟩⟩
  obtain ⟨root, hok, hheld⟩ | ⟨⟨error, herror⟩, hno⟩ := assignArgs_decided mode hargs hroot
  · refine Or.inl ⟨(nodeToJson root).toObject, ?_, hheld.compatible, hheld.holds⟩
    rw [parseArgs, hok]
    rfl
  · refine Or.inr ⟨⟨error, ?_⟩, hno⟩
    rw [parseArgs, herror]
    rfl

/-- **Acceptance, the object, and the order.**  Arguments that parse are accepted exactly if the
assignments are compatible.  Then the object holds what they give: at each path the last
literal, at each path that is appended to the values in order.  Arguments that give the same
values in the same order at every path have the same verdict and the same object. -/
theorem parseArgs_iff (qt : JsonQt) (mode : CliValueMode) (args : List RawCliArg)
    (es : List (CliPath × Json)) (hargs : Parsed qt args es) :
    ((∃ out, parseArgs qt args mode = .ok out) ↔ Compatible es) ∧
    (∀ out, parseArgs qt args mode = .ok out →
      Holds es (.obj out) ∧ (∀ out', Holds es (.obj out') → out' = out) ∧
      (∀ path v, .append ∉ path → (valuesAt path es).getLast? = some v →
        jsonAt (.obj out) path = some v) ∧
      ∀ path, .append ∉ path → valuesAt (path ++ [.append]) es ≠ [] →
        jsonAt (.obj out) path = some (.arr (valuesAt (path ++ [.append]) es))) ∧
    ∀ args' es', Parsed qt args' es' → SameByPath es es' →
      (parseArgs qt args' mode).toOption = (parseArgs qt args mode).toOption := by
  refine ⟨?_, ?_, ?_⟩
  · obtain ⟨out, hok, hc, -⟩ | ⟨⟨error, herror⟩, hno⟩ := parseArgs_decided hargs mode
    · exact ⟨fun _ => hc, fun _ => ⟨out, hok⟩⟩
    · refine ⟨?_, fun hc => absurd hc hno⟩
      intro h
      obtain ⟨out, hok⟩ := h
      rw [herror] at hok
      cases hok
  · intro out hok
    obtain ⟨out', hok', -, hheld⟩ | ⟨⟨error, herror⟩, -⟩ := parseArgs_decided hargs mode
    · obtain rfl := Except.ok.inj (hok.symm.trans hok')
      refine ⟨hheld, ?_, fun path v => hheld.last_at, fun path => hheld.appended_at⟩
      intro out' hheld'
      exact Json.obj.inj (hheld'.unique hheld)
    · rw [herror] at hok
      cases hok
  · intro args' es' hargs' hsame
    have hpaths : ∀ {a b : List (CliPath × Json)}, SameByPath a b → Compatible a → Compatible b := by
      intro a b hab hc
      exact ⟨hc.toConsistent.of_paths fun e he => hab.symm.exists_mem he,
        hab.forall_paths (P := fun p => ∃ key rest, p = .key key :: rest) hc.startsWithKey⟩
    obtain ⟨out, hok, hc, hheld⟩ | ⟨⟨error, herror⟩, hno⟩ := parseArgs_decided hargs mode
    · obtain ⟨out', hok', -, hheld'⟩ | ⟨-, hno'⟩ := parseArgs_decided hargs' mode
      · obtain rfl := Json.obj.inj ((hheld.of_same hsame).unique hheld')
        rw [hok, hok']
      · exact absurd (hpaths hsame hc) hno'
    · obtain ⟨out', -, hc', -⟩ | ⟨⟨error', herror'⟩, -⟩ := parseArgs_decided hargs' mode
      · exact absurd (hpaths hsame.symm hc') hno
      · rw [herror, herror']
        rfl

/-- A Qt that knows the text of true, enough for the runs below. -/
def trueQt : JsonQt where
  toJson l := if l = [.bool true] then "[true]" else ""
  fromJson text := if text = "[true]" then some (.arr [.bool true]) else none

/-- A key and an append under another key are taken together. -/
theorem key_and_append_compatible :
    Compatible [([.key "a"], .bool true), ([.key "b", .append], .bool true)] :=
  (parseArgs_iff trueQt .canonical [⟨"a", "true"⟩, ⟨"b[]", "true"⟩]
    [([.key "a"], .bool true), ([.key "b", .append], .bool true)]
    (.cons ⟨rfl, rfl⟩ (.cons ⟨rfl, rfl⟩ .nil))).1.mp
    ⟨[("a", .bool true), ("b", .arr [.bool true])], rfl⟩

end Stdiolink.Cli
