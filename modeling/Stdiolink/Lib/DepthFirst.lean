/-
  Stdiolink.Lib.DepthFirst — depth-first search with a list of what has been seen.

  `search` marks a vertex, then goes to each neighbour that is not marked when its turn comes.  It
  yields the tree of the search and the marks it leaves.  The graph is a function to neighbours,
  with cycles, loops and repeated neighbours as it likes; a search is given a number of levels and
  yields `none` when they do not suffice.

  Main results:
    * `search_walked` — what a search marks: once each, closed under neighbours, nothing but
      what can be reached;
    * `search_isSome` — as many levels as unmarked vertices are enough;
    * `mem_search_iff` — a search that begins without marks finds what can be reached;
    * `listing_spec`   — a search that lists marked neighbours too: every vertex that can be reached,
      with its neighbours where it comes first and with none elsewhere.
-/
import Mathlib.Data.Finset.Card
import Mathlib.Data.List.Nodup
import Mathlib.Logic.Relation

namespace Stdiolink.Lib

/-- A tree with any number of children at each node. -/
inductive RoseTree (α : Type*) where
  | node (root : α) (children : List (RoseTree α))

namespace RoseTree

variable {α : Type*}

mutual

/-- The labels, each before those below it. -/
def preorder : RoseTree α → List α
  | node root children => root :: preorderAll children

def preorderAll : List (RoseTree α) → List α
  | [] => []
  | t :: ts => preorder t ++ preorderAll ts

end

/-- The label of a tree. -/
def root : RoseTree α → α
  | node root _ => root

section Map

variable {β : Type*} (f : α → β)

mutual

/-- The tree with other labels. -/
def map : RoseTree α → RoseTree β
  | node root children => node (f root) (mapAll children)

def mapAll : List (RoseTree α) → List (RoseTree β)
  | [] => []
  | t :: ts => map t :: mapAll ts

end

end Map

section ChildLists

variable [DecidableEq α] (b : α)

mutual

/-- The labels of the children, at each place where the label comes. -/
def childLists : RoseTree α → List (List α)
  | node root children =>
    (if root = b then [children.map RoseTree.root] else []) ++ childListsAll children

def childListsAll : List (RoseTree α) → List (List α)
  | [] => []
  | t :: ts => childLists t ++ childListsAll ts

end

end ChildLists

section Map

variable {β γ : Type*} (f : α → β)

theorem root_map (t : RoseTree α) : (t.map f).root = f t.root := by
  cases t
  rfl

theorem mapAll_eq : ∀ ts : List (RoseTree α), mapAll f ts = ts.map (RoseTree.map f)
  | [] => rfl
  | t :: ts => congrArg (t.map f :: ·) (mapAll_eq ts)

theorem roots_mapAll (ts : List (RoseTree α)) :
    (mapAll f ts).map root = (ts.map root).map f := by
  rw [mapAll_eq, List.map_map, List.map_map]
  exact List.map_congr_left fun t _ => root_map f t

mutual

theorem map_map (g : β → γ) : ∀ t : RoseTree α, (t.map f).map g = t.map (g ∘ f)
  | node root ts => congrArg (node (g (f root))) (mapAll_mapAll g ts)

theorem mapAll_mapAll (g : β → γ) :
    ∀ ts : List (RoseTree α), mapAll g (mapAll f ts) = mapAll (g ∘ f) ts
  | [] => rfl
  | t :: ts => congrArg₂ List.cons (map_map g t) (mapAll_mapAll g ts)

end

mutual

theorem preorder_map : ∀ t : RoseTree α, (t.map f).preorder = t.preorder.map f
  | node root ts => congrArg (f root :: ·) (preorderAll_mapAll ts)

theorem preorderAll_mapAll :
    ∀ ts : List (RoseTree α), preorderAll (mapAll f ts) = (preorderAll ts).map f
  | [] => rfl
  | t :: ts => by
    rw [mapAll, preorderAll, preorderAll, List.map_append, preorder_map t, preorderAll_mapAll ts]

end

variable [DecidableEq α] [DecidableEq β] {b : α}

mutual

/-- The places of a label under its new name, if no other label has it. -/
theorem childLists_map : ∀ t : RoseTree α, (∀ a ∈ t.preorder, f a = f b → a = b) →
    (t.map f).childLists (f b) = (t.childLists b).map (List.map f)
  | node root ts, h => by
    have hroot : f root = f b ↔ root = b :=
      ⟨h root List.mem_cons_self, fun heq => congrArg f heq⟩
    have hrest := childListsAll_mapAll ts fun a ha => h a (List.mem_cons_of_mem root ha)
    rw [map, childLists, childLists, List.map_append, hrest, roots_mapAll]
    by_cases heq : root = b
    · rw [if_pos heq, if_pos (hroot.mpr heq)]
      rfl
    · rw [if_neg heq, if_neg (mt hroot.mp heq)]
      rfl

theorem childListsAll_mapAll :
    ∀ ts : List (RoseTree α), (∀ a ∈ preorderAll ts, f a = f b → a = b) →
      childListsAll (f b) (mapAll f ts) = (childListsAll b ts).map (List.map f)
  | [], _ => rfl
  | t :: ts, h => by
    rw [mapAll, childListsAll, childListsAll, List.map_append,
      childLists_map t fun a ha => h a (List.mem_append_left _ ha),
      childListsAll_mapAll ts fun a ha => h a (List.mem_append_right _ ha)]

end

end Map

end RoseTree

namespace DepthFirst

variable {α : Type*} [DecidableEq α]

/-! ## §1. The search -/

/-- The loop over the neighbours: a search from each that is not marked yet. -/
def searchAll (search : α → List α → Option (RoseTree α × List α)) :
    List α → List α → Option (List (RoseTree α) × List α)
  | [], seen => some ([], seen)
  | a :: as, seen =>
    if a ∈ seen then searchAll search as seen
    else
      match search a seen with
      | none => none
      | some (t, seen) => (searchAll search as seen).map fun r => (t :: r.1, r.2)

/-- Depth-first search from `a`, at most so many levels deep. -/
def search (next : α → List α) : Nat → α → List α → Option (RoseTree α × List α)
  | 0, _, _ => none
  | fuel + 1, a, seen =>
    (searchAll (search next fuel) (next a) (seen ++ [a])).map fun r => (.node a r.1, r.2)

/-- `b` can be reached from `a`. -/
def Reaches (next : α → List α) : α → α → Prop := Relation.ReflTransGen fun a b => b ∈ next a

/-! ## §2. What a search marks -/

/-- A search from the vertices `as`, with `seen` marked before, has found `found`. -/
structure Walked (next : α → List α) (as seen found seen' : List α) : Prop where
  marks : seen' = seen ++ found
  nodup : seen.Nodup → seen'.Nodup
  covers : ∀ a ∈ as, a ∈ seen'
  closed : ∀ a ∈ found, ∀ b ∈ next a, b ∈ seen'
  sound : ∀ b ∈ found, ∃ a ∈ as, Reaches next a b

variable {next : α → List α}

omit [DecidableEq α] in
theorem Walked.nil (seen : List α) : Walked next [] seen [] seen := by
  refine ⟨by simp, id, by simp, ?_, ?_⟩ <;> simp

omit [DecidableEq α] in
/-- One vertex after the other. -/
theorem Walked.cons {a : α} {as seen found seen' found' seen'' : List α}
    (h : Walked next [a] seen found seen') (h' : Walked next as seen' found' seen'') :
    Walked next (a :: as) seen (found ++ found') seen'' := by
  constructor
  · rw [h'.marks, h.marks, List.append_assoc]
  · intro hnodup
    exact h'.nodup (h.nodup hnodup)
  · intro b hb
    obtain rfl | hb := List.mem_cons.mp hb
    · rw [h'.marks]
      exact List.mem_append_left _ (h.covers b (by simp))
    · exact h'.covers b hb
  · intro b hb c hc
    obtain hb | hb := List.mem_append.mp hb
    · rw [h'.marks]
      exact List.mem_append_left _ (h.closed b hb c hc)
    · exact h'.closed b hb c hc
  · intro b hb
    obtain hb | hb := List.mem_append.mp hb
    · obtain ⟨c, hc, hreach⟩ := h.sound b hb
      obtain rfl := List.mem_singleton.mp hc
      exact ⟨c, by simp, hreach⟩
    · obtain ⟨c, hc, hreach⟩ := h'.sound b hb
      exact ⟨c, List.mem_cons_of_mem a hc, hreach⟩

omit [DecidableEq α] in
/-- A vertex that is marked already is passed over. -/
theorem Walked.skip {a : α} {as seen found seen' : List α} (ha : a ∈ seen)
    (h : Walked next as seen found seen') : Walked next (a :: as) seen found seen' := by
  refine ⟨h.marks, h.nodup, ?_, h.closed, ?_⟩
  · intro b hb
    obtain rfl | hb := List.mem_cons.mp hb
    · rw [h.marks]
      exact List.mem_append_left _ ha
    · exact h.covers b hb
  · intro b hb
    obtain ⟨c, hc, hreach⟩ := h.sound b hb
    exact ⟨c, List.mem_cons_of_mem a hc, hreach⟩

omit [DecidableEq α] in
/-- A vertex is marked, then its neighbours are walked. -/
theorem Walked.enter {a : α} {seen found seen' : List α} (ha : a ∉ seen)
    (h : Walked next (next a) (seen ++ [a]) found seen') :
    Walked next [a] seen (a :: found) seen' := by
  have hself : a ∈ seen' := by
    rw [h.marks]
    simp
  constructor
  · rw [h.marks, List.append_assoc]
    rfl
  · intro hnodup
    apply h.nodup
    rw [List.nodup_append]
    refine ⟨hnodup, List.nodup_singleton a, ?_⟩
    intro b hb c hc heq
    rw [List.mem_singleton.mp hc] at heq
    exact ha (heq ▸ hb)
  · intro b hb
    rw [List.mem_singleton.mp hb]
    exact hself
  · intro b hb c hc
    obtain rfl | hb := List.mem_cons.mp hb
    · exact h.covers c hc
    · exact h.closed b hb c hc
  · intro b hb
    refine ⟨a, by simp, ?_⟩
    obtain rfl | hb := List.mem_cons.mp hb
    · exact Relation.ReflTransGen.refl
    · obtain ⟨c, hc, hreach⟩ := h.sound b hb
      exact Relation.ReflTransGen.head hc hreach

omit [DecidableEq α] in
/-- The marks of a walk that begins without any are what can be reached. -/
theorem Walked.mem_iff {a : α} {found seen' : List α} (h : Walked next [a] [] found seen')
    (b : α) : b ∈ seen' ↔ Reaches next a b := by
  have hmarks : seen' = found := by
    rw [h.marks, List.nil_append]
  constructor
  · intro hb
    obtain ⟨c, hc, hreach⟩ := h.sound b (hmarks ▸ hb)
    rw [List.mem_singleton.mp hc] at hreach
    exact hreach
  · intro hreach
    -- the start is marked, and the marks are closed
    induction hreach with
    | refl => exact h.covers a (by simp)
    | tail _ hstep ih => exact h.closed _ (hmarks ▸ ih) _ hstep

/-- The loop, from what one search does. -/
theorem searchAll_walked {search : α → List α → Option (RoseTree α × List α)}
    (hsearch : ∀ a seen t seen', a ∉ seen → search a seen = some (t, seen') →
      Walked next [a] seen t.preorder seen')
    {as seen : List α} {ts : List (RoseTree α)} {seen' : List α}
    (h : searchAll search as seen = some (ts, seen')) :
    Walked next as seen (RoseTree.preorderAll ts) seen' := by
  induction as generalizing seen ts with
  | nil =>
    obtain ⟨rfl, rfl⟩ := Prod.mk.inj (Option.some.inj h)
    exact Walked.nil seen
  | cons a as ih =>
    rw [searchAll] at h
    by_cases ha : a ∈ seen
    · rw [if_pos ha] at h
      exact (ih h).skip ha
    · rw [if_neg ha] at h
      cases hone : search a seen with
      | none => simp [hone] at h
      | some r =>
        obtain ⟨t, mid⟩ := r
        simp only [hone, Option.map_eq_some_iff, Prod.mk.injEq, Prod.exists] at h
        obtain ⟨us, last, hrest, rfl, rfl⟩ := h
        rw [RoseTree.preorderAll]
        exact (hsearch a seen t mid ha hone).cons (ih hrest)

/-- **What a search marks.** -/
theorem search_walked {fuel : Nat} {a : α} {seen : List α} {t : RoseTree α} {seen' : List α}
    (ha : a ∉ seen) (h : search next fuel a seen = some (t, seen')) :
    Walked next [a] seen t.preorder seen' := by
  induction fuel generalizing a seen t seen' with
  | zero => simp [search] at h
  | succ fuel ih =>
    simp only [search, Option.map_eq_some_iff, Prod.mk.injEq, Prod.exists] at h
    obtain ⟨ts, last, hloop, rfl, rfl⟩ := h
    rw [RoseTree.preorder]
    apply Walked.enter ha
    apply searchAll_walked _ hloop
    intro b mid u mid' hb hone
    exact ih hb hone

/-! ## §3. Enough levels -/

/-- The loop goes through if every search that it may begin does. -/
theorem searchAll_isSome {search : α → List α → Option (RoseTree α × List α)}
    (hwalked : ∀ a seen t seen', a ∉ seen → search a seen = some (t, seen') →
      Walked next [a] seen t.preorder seen')
    {as seen : List α}
    (hsearch : ∀ a ∈ as, ∀ more, a ∉ seen ++ more → (search a (seen ++ more)).isSome = true) :
    (searchAll search as seen).isSome = true := by
  induction as generalizing seen with
  | nil => rfl
  | cons a as ih =>
    rw [searchAll]
    by_cases ha : a ∈ seen
    · rw [if_pos ha]
      exact ih fun b hb => hsearch b (List.mem_cons_of_mem a hb)
    · rw [if_neg ha]
      have hone := hsearch a (by simp) [] (by simpa using ha)
      rw [List.append_nil] at hone
      obtain ⟨⟨t, mid⟩, hr⟩ := Option.isSome_iff_exists.mp hone
      have hmarks := (hwalked a seen t mid ha hr).marks
      simp only [hr, Option.isSome_map]
      apply ih
      intro b hb more hnew
      rw [hmarks, List.append_assoc] at hnew ⊢
      exact hsearch b (List.mem_cons_of_mem a hb) _ hnew

/-- **As many levels as there are unmarked vertices are enough.** -/
theorem search_isSome {u : Finset α} (hu : ∀ a ∈ u, ∀ b ∈ next a, b ∈ u) {fuel : Nat} {a : α}
    {seen : List α} (ha : a ∈ u) (hnew : a ∉ seen) (hfuel : (u \ seen.toFinset).card ≤ fuel) :
    (search next fuel a seen).isSome = true := by
  induction fuel generalizing a seen with
  | zero =>
    have hmem : a ∈ u \ seen.toFinset := by simp [ha, hnew]
    have hpos := Finset.card_pos.mpr ⟨a, hmem⟩
    omega
  | succ fuel ih =>
    rw [search, Option.isSome_map]
    have hwalked : ∀ b mid t mid', b ∉ mid → search next fuel b mid = some (t, mid') →
        Walked next [b] mid t.preorder mid' := fun b mid t mid' hb hone => search_walked hb hone
    apply searchAll_isSome hwalked
    intro b hb more hfresh
    apply ih (hu a ha b hb) hfresh
    -- `a` is marked now
    have hless : u \ (seen ++ [a] ++ more).toFinset ⊆ (u \ seen.toFinset).erase a := by
      intro c hc
      simp only [Finset.mem_sdiff, List.mem_toFinset, List.mem_append, List.mem_singleton,
        not_or] at hc
      simp [hc]
    have hcard := Finset.card_le_card hless
    rw [Finset.card_erase_of_mem (by simp [ha, hnew])] at hcard
    omega

/-- More levels do not change the loop. -/
theorem searchAll_mono {search search' : α → List α → Option (RoseTree α × List α)}
    (hsearch : ∀ a seen r, search a seen = some r → search' a seen = some r) {as seen : List α}
    {r : List (RoseTree α) × List α} (h : searchAll search as seen = some r) :
    searchAll search' as seen = some r := by
  induction as generalizing seen r with
  | nil => exact h
  | cons a as ih =>
    rw [searchAll] at h ⊢
    by_cases ha : a ∈ seen
    · rw [if_pos ha] at h ⊢
      exact ih h
    · rw [if_neg ha] at h ⊢
      cases hone : search a seen with
      | none => simp [hone] at h
      | some one =>
        simp only [hone, Option.map_eq_some_iff] at h
        obtain ⟨rest, hrest, rfl⟩ := h
        simp only [hsearch a seen one hone, ih hrest, Option.map_some]

/-- More levels do not change a search. -/
theorem search_mono {fuel fuel' : Nat} (hle : fuel ≤ fuel') {a : α} {seen : List α}
    {r : RoseTree α × List α} (h : search next fuel a seen = some r) :
    search next fuel' a seen = some r := by
  induction fuel generalizing fuel' a seen r with
  | zero => simp [search] at h
  | succ fuel ih =>
    cases fuel' with
    | zero => omega
    | succ fuel' =>
      simp only [search, Option.map_eq_some_iff] at h ⊢
      obtain ⟨rest, hrest, rfl⟩ := h
      refine ⟨rest, ?_, rfl⟩
      apply searchAll_mono _ hrest
      intro b mid one hone
      exact ih (by omega) hone

/-! ## §4. A search that begins without marks -/

theorem search_nodup {fuel : Nat} {a : α} {t : RoseTree α} {seen : List α}
    (h : search next fuel a [] = some (t, seen)) : t.preorder.Nodup := by
  have hwalked := search_walked (by simp) h
  have hnodup := hwalked.nodup List.nodup_nil
  rw [hwalked.marks, List.nil_append] at hnodup
  exact hnodup

theorem search_marks {fuel : Nat} {a : α} {t : RoseTree α} {seen : List α}
    (h : search next fuel a [] = some (t, seen)) : seen = t.preorder := by
  have hmarks := (search_walked (by simp) h).marks
  rw [List.nil_append] at hmarks
  exact hmarks

/-- **A search finds what can be reached.** -/
theorem mem_search_iff {fuel : Nat} {a : α} {t : RoseTree α} {seen : List α}
    (h : search next fuel a [] = some (t, seen)) (b : α) :
    b ∈ t.preorder ↔ Reaches next a b := by
  rw [← search_marks h]
  exact (search_walked (by simp) h).mem_iff b

/-! ## §5. A search that lists marked neighbours -/

/-- The loop over the neighbours. -/
def listingAll (listing : α → List α → Option (RoseTree α × List α)) :
    List α → List α → Option (List (RoseTree α) × List α)
  | [], seen => some ([], seen)
  | a :: as, seen =>
    match listing a seen with
    | none => none
    | some (t, seen) => (listingAll listing as seen).map fun r => (t :: r.1, r.2)

/-- Depth-first search from `a` in which a marked vertex is a leaf. -/
def listing (next : α → List α) : Nat → α → List α → Option (RoseTree α × List α)
  | 0, _, _ => none
  | fuel + 1, a, seen =>
    if a ∈ seen then some (.node a [], seen)
    else (listingAll (listing next fuel) (next a) (seen ++ [a])).map fun r => (.node a r.1, r.2)

/-- **Where a vertex comes** between two states of the marks: with its neighbours once, when it is
marked, and without any from then on. -/
structure Places (next : α → List α) (seen seen' : List α) (b : α) (places : List (List α)) :
    Prop where
  before : b ∈ seen → ∃ m, places = List.replicate m []
  first : b ∉ seen → b ∈ seen' → ∃ m, places = next b :: List.replicate m []
  never : b ∉ seen' → places = []

omit [DecidableEq α] in
theorem Places.append {seen mid seen' : List α} {b : α} {places places' : List (List α)}
    (hmid : ∀ c ∈ seen, c ∈ mid) (hseen' : ∀ c ∈ mid, c ∈ seen')
    (h : Places next seen mid b places) (h' : Places next mid seen' b places') :
    Places next seen seen' b (places ++ places') := by
  constructor
  · intro hb
    obtain ⟨m, rfl⟩ := h.before hb
    obtain ⟨m', rfl⟩ := h'.before (hmid b hb)
    exact ⟨m + m', List.replicate_append_replicate⟩
  · intro hb hb'
    by_cases hbm : b ∈ mid
    · obtain ⟨m, rfl⟩ := h.first hb hbm
      obtain ⟨m', rfl⟩ := h'.before hbm
      refine ⟨m + m', ?_⟩
      rw [List.cons_append, List.replicate_append_replicate]
    · obtain ⟨m, rfl⟩ := h'.first hbm hb'
      exact ⟨m, by rw [h.never hbm, List.nil_append]⟩
  · intro hb
    rw [h.never fun hbm => hb (hseen' b hbm), h'.never hb]
    rfl

/-- What a search that lists marked neighbours yields, from the vertices `as`. -/
structure Listed (next : α → List α) (as seen : List α) (ts : List (RoseTree α))
    (seen' : List α) : Prop where
  roots : ts.map RoseTree.root = as
  walked : ∃ found, Walked next as seen found seen'
  places : ∀ b, Places next seen seen' b (RoseTree.childListsAll b ts)

/-- The loop, from what one search yields. -/
theorem listingAll_listed {listing : α → List α → Option (RoseTree α × List α)}
    (hlisting : ∀ a seen t seen', listing a seen = some (t, seen') →
      Listed next [a] seen [t] seen')
    {as seen : List α} {ts : List (RoseTree α)} {seen' : List α}
    (h : listingAll listing as seen = some (ts, seen')) : Listed next as seen ts seen' := by
  induction as generalizing seen ts with
  | nil =>
    obtain ⟨rfl, rfl⟩ := Prod.mk.inj (Option.some.inj h)
    refine ⟨rfl, ⟨[], Walked.nil seen⟩, fun b => ⟨fun _ => ⟨0, rfl⟩, ?_, fun _ => rfl⟩⟩
    intro hb hb'
    exact absurd hb' hb
  | cons a as ih =>
    rw [listingAll] at h
    cases hone : listing a seen with
    | none => simp [hone] at h
    | some r =>
      obtain ⟨t, mid⟩ := r
      simp only [hone, Option.map_eq_some_iff, Prod.mk.injEq, Prod.exists] at h
      obtain ⟨us, last, hrest, rfl, rfl⟩ := h
      have hlisted := hlisting a seen t mid hone
      have hlisted' := ih hrest
      obtain ⟨found, hwalked⟩ := hlisted.walked
      obtain ⟨found', hwalked'⟩ := hlisted'.walked
      refine ⟨?_, ⟨_, hwalked.cons hwalked'⟩, fun b => ?_⟩
      · have hroot := hlisted.roots
        simp only [List.map_cons, List.map_nil] at hroot
        rw [List.map_cons, hlisted'.roots, (List.cons.inj hroot).1]
      · have happend := (hlisted.places b).append ?_ ?_ (hlisted'.places b)
        · rw [RoseTree.childListsAll, RoseTree.childListsAll, List.append_nil] at happend
          exact happend
        · intro c hc
          rw [hwalked.marks]
          exact List.mem_append_left _ hc
        · intro c hc
          rw [hwalked'.marks]
          exact List.mem_append_left _ hc

/-- **What a search that lists marked neighbours yields.** -/
theorem listing_listed {fuel : Nat} {a : α} {seen : List α} {t : RoseTree α} {seen' : List α}
    (h : listing next fuel a seen = some (t, seen')) : Listed next [a] seen [t] seen' := by
  induction fuel generalizing a seen t seen' with
  | zero => simp [listing] at h
  | succ fuel ih =>
    rw [listing] at h
    by_cases ha : a ∈ seen
    · rw [if_pos ha] at h
      obtain ⟨rfl, rfl⟩ := Prod.mk.inj (Option.some.inj h)
      refine ⟨rfl, ⟨[], (Walked.nil seen).skip ha⟩, fun b => ?_⟩
      by_cases hab : a = b
      · refine ⟨fun _ => ⟨1, ?_⟩, fun hb => absurd (hab ▸ ha) hb, fun hb => absurd (hab ▸ ha) hb⟩
        simp [RoseTree.childListsAll, RoseTree.childLists, hab]
      · have hnone : RoseTree.childListsAll b [RoseTree.node a []] = [] := by
          simp [RoseTree.childListsAll, RoseTree.childLists, hab]
        rw [hnone]
        exact ⟨fun _ => ⟨0, rfl⟩, fun hb hb' => absurd hb' hb, fun _ => rfl⟩
    · rw [if_neg ha] at h
      simp only [Option.map_eq_some_iff, Prod.mk.injEq, Prod.exists] at h
      obtain ⟨ts, last, hloop, rfl, rfl⟩ := h
      have hlisted := listingAll_listed (fun b mid u mid' hone => ih hone) hloop
      obtain ⟨found, hwalked⟩ := hlisted.walked
      have henter := hwalked.enter ha
      refine ⟨rfl, ⟨_, henter⟩, fun b => ?_⟩
      have hplaces := hlisted.places b
      rw [RoseTree.childListsAll, RoseTree.childListsAll, List.append_nil, RoseTree.childLists,
        hlisted.roots]
      by_cases hab : a = b
      · -- here the vertex is marked, and lists its neighbours
        subst hab
        have hself : a ∈ last := henter.covers a (by simp)
        rw [if_pos rfl]
        refine ⟨fun hb => absurd hb ha, fun _ _ => ?_, fun hb => absurd hself hb⟩
        obtain ⟨m, hm⟩ := hplaces.before (by simp)
        exact ⟨m, by rw [hm]; rfl⟩
      · rw [if_neg hab, List.nil_append]
        refine ⟨fun hb => hplaces.before (List.mem_append_left _ hb), fun hb hb' => ?_,
          hplaces.never⟩
        apply hplaces.first _ hb'
        simp [hb, Ne.symm hab]

mutual

/-- A label comes where it has a place. -/
theorem mem_preorder_iff (b : α) : ∀ t : RoseTree α, b ∈ t.preorder ↔ t.childLists b ≠ []
  | .node a ts => by
    rw [RoseTree.preorder, RoseTree.childLists, List.mem_cons, mem_preorderAll_iff b ts]
    by_cases hab : a = b
    · simp [hab]
    · simp [hab, Ne.symm hab]

theorem mem_preorderAll_iff (b : α) :
    ∀ ts : List (RoseTree α), b ∈ RoseTree.preorderAll ts ↔ RoseTree.childListsAll b ts ≠ []
  | [] => by simp [RoseTree.preorderAll, RoseTree.childListsAll]
  | t :: ts => by
    rw [RoseTree.preorderAll, RoseTree.childListsAll, List.mem_append, mem_preorder_iff b t,
      mem_preorderAll_iff b ts, Ne, Ne, Ne, List.append_eq_nil_iff, not_and_or]

end

/-- **A listing that begins without marks**: what can be reached, with its neighbours where it comes
first and without any elsewhere. -/
theorem listing_spec {fuel : Nat} {a : α} {t : RoseTree α} {seen : List α}
    (h : listing next fuel a [] = some (t, seen)) (b : α) :
    (b ∈ t.preorder ↔ Reaches next a b) ∧
      (Reaches next a b → ∃ m, t.childLists b = next b :: List.replicate m []) := by
  have hlisted := listing_listed h
  obtain ⟨found, hwalked⟩ := hlisted.walked
  have hplaces := hlisted.places b
  rw [RoseTree.childListsAll, RoseTree.childListsAll, List.append_nil] at hplaces
  have hfirst : Reaches next a b → ∃ m, t.childLists b = next b :: List.replicate m [] := by
    intro hreach
    exact hplaces.first (by simp) ((hwalked.mem_iff b).mpr hreach)
  refine ⟨?_, hfirst⟩
  rw [mem_preorder_iff]
  constructor
  · intro hplace
    by_contra hreach
    exact hplace (hplaces.never fun hb => hreach ((hwalked.mem_iff b).mp hb))
  · intro hreach
    obtain ⟨m, hm⟩ := hfirst hreach
    rw [hm]
    exact List.cons_ne_nil _ _

/-- **One level more than there are unmarked vertices is enough.** -/
theorem listing_isSome {u : Finset α} (hu : ∀ a ∈ u, ∀ b ∈ next a, b ∈ u) {fuel : Nat} {a : α}
    {seen : List α} (ha : a ∈ u) (hfuel : (u \ seen.toFinset).card < fuel) :
    (listing next fuel a seen).isSome = true := by
  induction fuel generalizing a seen with
  | zero => omega
  | succ fuel ih =>
    rw [listing]
    by_cases hnew : a ∈ seen
    · rw [if_pos hnew]
      rfl
    · rw [if_neg hnew, Option.isSome_map]
      have hloop : ∀ (as mid : List α), (∀ b ∈ as, b ∈ u) → (∀ c ∈ seen ++ [a], c ∈ mid) →
          (listingAll (listing next fuel) as mid).isSome = true := by
        intro as
        induction as with
        | nil =>
          intro mid _ _
          rfl
        | cons b as ihas =>
          intro mid has hmid
          -- `a` is marked now
          have hless : u \ mid.toFinset ⊆ (u \ seen.toFinset).erase a := by
            intro c hc
            simp only [Finset.mem_sdiff, List.mem_toFinset] at hc
            simp only [Finset.mem_erase, Finset.mem_sdiff, List.mem_toFinset]
            refine ⟨?_, hc.1, fun hcs => hc.2 (hmid c (List.mem_append_left _ hcs))⟩
            rintro rfl
            exact hc.2 (hmid c (by simp))
          have hcard := Finset.card_le_card hless
          have hpos := Finset.card_pos.mpr ⟨a, show a ∈ u \ seen.toFinset by simp [ha, hnew]⟩
          rw [Finset.card_erase_of_mem (by simp [ha, hnew])] at hcard
          obtain ⟨⟨t, mid'⟩, hone⟩ := Option.isSome_iff_exists.mp
            (ih (has b (by simp)) (show (u \ mid.toFinset).card < fuel by omega))
          obtain ⟨found, hwalked⟩ := (listing_listed hone).walked
          simp only [listingAll, hone, Option.isSome_map]
          apply ihas mid' fun c hc => has c (List.mem_cons_of_mem b hc)
          intro c hc
          rw [hwalked.marks]
          exact List.mem_append_left _ (hmid c hc)
      exact hloop (next a) (seen ++ [a]) (hu a ha) fun c hc => hc

end DepthFirst

end Stdiolink.Lib
