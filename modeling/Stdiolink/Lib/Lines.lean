/-
  Stdiolink.Lib.Lines — reading lines from a buffer that grows in chunks.

  A line ends with a separator.  `cutLine` takes the first complete line off a
  buffer; `forLines` runs a loop body on one line after another until the body
  stops or no complete line is left, and returns what is left of the buffer.

  Main results:
    * `forLines_eq` — the loop, unrolled once (the number of rounds it is given is
      always enough);
    * `forLines_rule` — the loop rule: an invariant of the loop state and the rest
      of the buffer;
    * `textLines_frame`, `exists_frame` — the lines of a text are those it was framed from, and
      every text is framed;
    * `forLinesBack_text` — a loop that reads a text backwards visits its lines, the last one first;
    * `frame_prefix` — of two ways to cut one stream, the one that cuts off all the lines
      begins with what the other cuts off.
-/
import Mathlib.Data.List.Basic
import Mathlib.Data.List.Induction

namespace Stdiolink.Lib

section Lines

variable {α β : Type*} [DecidableEq α] (sep : α)

/-- The first complete line and what follows its separator. -/
def cutLine : List α → Option (List α × List α)
  | [] => none
  | x :: xs => if x = sep then some ([], xs) else (cutLine xs).map fun c => (x :: c.1, c.2)

variable {sep}

variable {buf line rest : List α} {ls : List (List α)}

theorem cutLine_eq_none : cutLine sep buf = none ↔ sep ∉ buf := by
  induction buf with
  | nil => simp [cutLine]
  | cons x xs ih =>
    by_cases hx : x = sep
    · simp [cutLine, hx]
    · simp [cutLine, hx, ih, Ne.symm hx]

/-- A cut line is the buffer up to its first separator. -/
theorem cutLine_eq_some :
    cutLine sep buf = some (line, rest) ↔ sep ∉ line ∧ buf = line ++ sep :: rest := by
  induction buf generalizing line with
  | nil => simp [cutLine]
  | cons x xs ih =>
    by_cases hx : x = sep
    · subst hx
      cases line with
      | nil => simp [cutLine, eq_comm]
      | cons y ys =>
        simp only [cutLine, if_true, Option.some.injEq, Prod.mk.injEq, List.nil_eq,
          List.mem_cons, not_or, List.cons_append, List.cons.injEq]
        exact ⟨fun h => absurd h.1 (by simp), fun h => absurd h.2.1 h.1.1⟩
    · cases line with
      | nil => simp [cutLine, hx]
      | cons y ys =>
        simp only [cutLine, hx, if_false, Option.map_eq_some_iff, Prod.exists, Prod.mk.injEq,
          List.cons.injEq, List.mem_cons, not_or, List.cons_append]
        constructor
        · rintro ⟨l, r, hcut, ⟨rfl, rfl⟩, rfl⟩
          obtain ⟨hl, hxs⟩ := ih.mp hcut
          exact ⟨⟨Ne.symm hx, hl⟩, rfl, hxs⟩
        · rintro ⟨⟨-, hl⟩, rfl, hxs⟩
          exact ⟨ys, rest, ih.mpr ⟨hl, hxs⟩, ⟨rfl, rfl⟩, rfl⟩

theorem length_of_cutLine (h : cutLine sep buf = some (line, rest)) : rest.length < buf.length := by
  obtain ⟨-, rfl⟩ := cutLine_eq_some.mp h
  simp only [List.length_append, List.length_cons]
  omega

/-! ## The loop -/

variable (sep) (step : β → List α → β × Bool)

/-- At most this many rounds of the loop. -/
def roundsOfLines : Nat → β → List α → β × List α
  | 0, b, buf => (b, buf)
  | n + 1, b, buf =>
    match cutLine sep buf with
    | none => (b, buf)
    | some (line, rest) =>
        if (step b line).2 then ((step b line).1, rest)
        else roundsOfLines n (step b line).1 rest

/-- `while (cut a line) { body; if (stop) break; }`: the body returns the loop state and
whether to stop.  A line takes at least its separator, so these rounds are enough. -/
def forLines (b : β) (buf : List α) : β × List α := roundsOfLines sep step buf.length b buf

variable {sep step}

/-- Enough rounds are as good as more. -/
theorem roundsOfLines_enough {n m : Nat} {b : β} (hn : buf.length ≤ n) (hm : buf.length ≤ m) :
    roundsOfLines sep step n b buf = roundsOfLines sep step m b buf := by
  induction n generalizing m b buf with
  | zero =>
    obtain rfl := List.length_eq_zero_iff.mp (Nat.le_zero.mp hn)
    cases m <;> rfl
  | succ n ih =>
    cases m with
    | zero =>
      obtain rfl := List.length_eq_zero_iff.mp (Nat.le_zero.mp hm)
      rfl
    | succ m =>
      cases hcut : cutLine sep buf with
      | none => simp [roundsOfLines, hcut]
      | some c =>
        obtain ⟨line, rest⟩ := c
        have hlt := length_of_cutLine hcut
        simp only [roundsOfLines, hcut]
        split_ifs
        · rfl
        · exact ih (by omega) (by omega)

/-- **The loop, unrolled once.** -/
theorem forLines_eq (b : β) (buf : List α) :
    forLines sep step b buf =
      match cutLine sep buf with
      | none => (b, buf)
      | some (line, rest) =>
          if (step b line).2 then ((step b line).1, rest)
          else forLines sep step (step b line).1 rest := by
  unfold forLines
  rw [roundsOfLines_enough (Nat.le_refl _) (Nat.le_succ _), roundsOfLines]
  cases hcut : cutLine sep buf with
  | none => rfl
  | some c =>
    obtain ⟨line, rest⟩ := c
    have hlt := length_of_cutLine hcut
    dsimp only
    split_ifs
    · rfl
    · exact roundsOfLines_enough (by omega) (Nat.le_refl _)

/-- **The loop rule.**  `Inv` relates the loop state to the rest of the buffer.  A body that
stops leaves `Post`, one that does not restores `Inv`, and `Inv` without a complete line
gives `Post`. -/
theorem forLines_rule (Inv Post : β → List α → Prop)
    (hline : ∀ b line rest, sep ∉ line → Inv b (line ++ sep :: rest) →
      if (step b line).2 then Post (step b line).1 rest else Inv (step b line).1 rest)
    (hend : ∀ b buf, sep ∉ buf → Inv b buf → Post b buf) {b : β} (h0 : Inv b buf) :
    Post (forLines sep step b buf).1 (forLines sep step b buf).2 := by
  induction hn : buf.length using Nat.strongRecOn generalizing b buf with
  | ind n ih =>
    rw [forLines_eq]
    cases hcut : cutLine sep buf with
    | none => exact hend b buf (cutLine_eq_none.mp hcut) h0
    | some c =>
      obtain ⟨line, rest⟩ := c
      have hlt := length_of_cutLine hcut
      obtain ⟨hsep, hbuf⟩ := cutLine_eq_some.mp hcut
      have hbody := hline b line rest hsep (hbuf ▸ h0)
      dsimp only
      split_ifs at hbody ⊢ with hstop
      · exact hbody
      · exact ih rest.length (by omega) hbody rfl

/-! ## Framed streams -/

variable (sep) in
/-- The stream that carries these lines. -/
def frame (lines : List (List α)) : List α := lines.flatMap fun l => l ++ [sep]

omit [DecidableEq α] in
@[simp] theorem frame_nil : frame sep ([] : List (List α)) = [] := rfl

omit [DecidableEq α] in
@[simp] theorem frame_cons (l : List α) (ls : List (List α)) :
    frame sep (l :: ls) = l ++ sep :: frame sep ls := by
  simp [frame]

omit [DecidableEq α] in
theorem frame_append (ls ls' : List (List α)) :
    frame sep (ls ++ ls') = frame sep ls ++ frame sep ls' := by
  simp [frame]

/-- Two ways to cut one list at its first separator. -/
theorem line_eq {a b u v : List α} (ha : sep ∉ a) (hb : sep ∉ b)
    (h : a ++ sep :: u = b ++ sep :: v) : a = b ∧ u = v := by
  have hcut : cutLine sep (a ++ sep :: u) = some (a, u) := cutLine_eq_some.mpr ⟨ha, rfl⟩
  have hcut' : cutLine sep (a ++ sep :: u) = some (b, v) := cutLine_eq_some.mpr ⟨hb, h⟩
  exact Prod.mk.inj (Option.some.inj (hcut.symm.trans hcut'))

/-- **Two ways to cut one stream.**  If one of them cuts off all the lines, the other cuts off the
first of them. -/
theorem frame_prefix {ls' : List (List α)} (hls : ∀ l ∈ ls, sep ∉ l) (hls' : ∀ l ∈ ls', sep ∉ l)
    {x y : List α} (hy : sep ∉ y) (h : frame sep ls ++ x = frame sep ls' ++ y) :
    ∃ more, ls' = ls ++ more ∧ x = frame sep more ++ y := by
  induction ls generalizing ls' with
  | nil => exact ⟨ls', rfl, h⟩
  | cons l ls ih =>
    rw [frame_cons, List.append_assoc, List.cons_append] at h
    cases ls' with
    | nil =>
      rw [frame_nil, List.nil_append] at h
      exact absurd (h ▸ by simp) hy
    | cons l' ls' =>
      rw [frame_cons, List.append_assoc, List.cons_append] at h
      obtain ⟨rfl, hrest⟩ := line_eq (hls l (by simp)) (hls' l' (by simp)) h
      obtain ⟨more, rfl, hx⟩ := ih (fun l hl => hls l (List.mem_cons_of_mem _ hl))
        (fun l hl => hls' l (List.mem_cons_of_mem _ hl)) hrest
      exact ⟨more, rfl, hx⟩

omit [DecidableEq α] in
/-- The end of a framed text: of one of the lines possibly only a part, and all those behind it. -/
theorem drop_frame {n : Nat} (h : n < (frame sep ls).length) :
    ∃ older line newer cut, ls = older ++ line :: newer ∧ cut <:+ line ∧
      (frame sep ls).drop n = frame sep (cut :: newer) := by
  induction ls generalizing n with
  | nil => simp at h
  | cons l ls ih =>
    rw [frame_cons, List.length_append, List.length_cons] at h
    by_cases hn : n ≤ l.length
    · refine ⟨[], l, ls, l.drop n, rfl, List.drop_suffix n l, ?_⟩
      rw [frame_cons, frame_cons, List.drop_append_of_le_length hn]
    · obtain ⟨older, line, newer, cut, hls, hcut, hdrop⟩ := ih (n := n - (l.length + 1)) (by omega)
      refine ⟨l :: older, line, newer, cut, by rw [hls]; rfl, hcut, ?_⟩
      rw [← hdrop, frame_cons, List.append_cons]
      have hlength : n = (l ++ [sep]).length + (n - (l.length + 1)) := by
        rw [List.length_append, List.length_singleton]
        omega
      conv_lhs => rw [hlength]
      exact List.drop_length_add_append _

/-! ## The lines of a text -/

variable (sep) in
/-- The lines of a text.  What follows the last separator is a line if it is not empty. -/
def textLines (text : List α) : List (List α) :=
  let parts := text.splitOn sep
  if parts.getLast? = some [] then parts.dropLast else parts

theorem splitOn_frame (hls : ∀ l ∈ ls, sep ∉ l) (hrest : sep ∉ rest) :
    (frame sep ls ++ rest).splitOn sep = ls ++ [rest] := by
  induction ls with
  | nil => exact List.splitOn_eq_singleton hrest
  | cons l ls ih =>
    rw [frame_cons, List.append_assoc, List.cons_append,
      List.splitOn_append_cons_self_of_not_mem (hls l (by simp)),
      ih fun l hl => hls l (List.mem_cons_of_mem _ hl)]
    rfl

/-- **The lines of a framed text**, and what follows them. -/
theorem textLines_frame (hls : ∀ l ∈ ls, sep ∉ l) (hrest : sep ∉ rest) :
    textLines sep (frame sep ls ++ rest) = if rest = [] then ls else ls ++ [rest] := by
  unfold textLines
  rw [splitOn_frame hls hrest]
  simp

variable (sep) in
/-- Every text is framed from its complete lines, and a rest. -/
theorem exists_frame (text : List α) :
    ∃ ls rest, (∀ l ∈ ls, sep ∉ l) ∧ sep ∉ rest ∧ text = frame sep ls ++ rest := by
  induction hn : text.length using Nat.strongRecOn generalizing text with
  | ind n ih =>
    cases hcut : cutLine sep text with
    | none => exact ⟨[], text, by simp, cutLine_eq_none.mp hcut, rfl⟩
    | some c =>
      obtain ⟨line, more⟩ := c
      have hlt := length_of_cutLine hcut
      obtain ⟨hline, htext⟩ := cutLine_eq_some.mp hcut
      obtain ⟨ls, rest, hls, hrest, hmore⟩ := ih more.length (by omega) more rfl
      refine ⟨line :: ls, rest, List.forall_mem_cons.mpr ⟨hline, hls⟩, hrest, ?_⟩
      rw [htext, hmore, frame_cons, List.append_assoc, List.cons_append]

/-- Only separators are missing from the lines. -/
theorem mem_textLines {text : List α} {x : α} (hx : x ≠ sep) :
    x ∈ text ↔ x ∈ (textLines sep text).flatten := by
  obtain ⟨ls, rest, hls, hrest, rfl⟩ := exists_frame sep text
  rw [textLines_frame hls hrest]
  have hframe : x ∈ frame sep ls ↔ x ∈ ls.flatten := by
    simp [frame, hx]
  by_cases hempty : rest = []
  · simp [hempty, hframe]
  · simp [hempty, hframe]

/-! ## Reading backwards -/

variable (sep) in
/-- `while (pos > 0 && text[pos - 1] != sep) pos--`: where the line that ends here begins. -/
def lineStart (text : List α) : Nat → Nat
  | 0 => 0
  | pos + 1 => if text[pos]? = some sep then pos + 1 else lineStart text pos

variable (sep) in
/-- At most this many rounds of a loop over the lines before a position, the last one first.  The
body gets a line with its separator, and is run as long as `more` allows it. -/
def forLinesBack (more : β → Bool) (visit : β → List α → β) (text : List α) : Nat → β → Nat → β
  | 0, b, _ => b
  | rounds + 1, b, pos =>
      if 0 < pos && more b then
        let start := lineStart sep text (pos - 1)
        forLinesBack more visit text rounds (visit b ((text.drop start).take (pos - start))) start
      else b

/-- A loop over a list, as long as `more` allows it. -/
def foldWhile {γ : Type*} (more : β → Bool) (visit : β → γ → β) : β → List γ → β
  | b, [] => b
  | b, x :: xs => if more b then foldWhile more visit (visit b x) xs else b

/-- The body may be run on other items, if it does the same on them. -/
theorem foldWhile_map {γ : Type*} {more : β → Bool} {visit : β → γ → β} {f : γ → γ}
    (h : ∀ b x, visit b (f x) = visit b x) (b : β) (xs : List γ) :
    foldWhile more visit b (xs.map f) = foldWhile more visit b xs := by
  induction xs generalizing b with
  | nil => rfl
  | cons x xs ih =>
    rw [List.map_cons, foldWhile, foldWhile, h, ih]

/-- Behind complete lines, the last line begins where they end. -/
theorem lineStart_frame (ls : List (List α)) (hline : sep ∉ line) (more : List α) :
    lineStart sep (frame sep ls ++ (line ++ more)) ((frame sep ls).length + line.length) =
      (frame sep ls).length := by
  induction line using List.reverseRecOn generalizing more with
  | nil =>
    induction ls using List.reverseRecOn with
    | nil => rfl
    | append_singleton ls l _ =>
      -- the position before is that of a separator
      have hlast : (frame sep (ls ++ [l]) ++ ([] ++ more))[(frame sep ls ++ l).length]? = some sep := by
        rw [frame_append]
        simp
      have hlength : (frame sep (ls ++ [l])).length = (frame sep ls ++ l).length + 1 := by
        rw [frame_append]
        simp only [frame_cons, frame_nil, List.length_append, List.length_cons, List.length_nil]
        omega
      rw [List.length_nil, Nat.add_zero, hlength]
      unfold lineStart
      rw [if_pos hlast]
  | append_singleton line x ih =>
    rw [List.mem_append, not_or] at hline
    have hx : (frame sep ls ++ (line ++ [x] ++ more))[(frame sep ls).length + line.length]? =
        some x := by
      simp
    rw [List.length_append, List.length_singleton, ← Nat.add_assoc]
    unfold lineStart
    rw [if_neg]
    · rw [List.append_assoc]
      exact ih hline.1 ([x] ++ more)
    · rw [hx, Option.some.injEq]
      rintro rfl
      exact hline.2 (List.mem_singleton_self x)

variable (more : β → Bool) (visit : β → List α → β)

/-- One round: the last line is visited. -/
theorem forLinesBack_line (hline : sep ∉ line) (x : α) (rest : List α) (rounds : Nat) (b : β) :
    forLinesBack sep more visit (frame sep ls ++ (line ++ x :: rest)) (rounds + 1) b
        ((frame sep ls).length + (line.length + 1)) =
      if more b then
        forLinesBack sep more visit (frame sep ls ++ (line ++ x :: rest)) rounds
          (visit b (line ++ [x])) (frame sep ls).length
      else b := by
  have hstart := lineStart_frame ls hline (x :: rest)
  have hcut : ((frame sep ls ++ (line ++ x :: rest)).drop (frame sep ls).length).take
      ((frame sep ls).length + (line.length + 1) - (frame sep ls).length) = line ++ [x] := by
    rw [List.drop_left, Nat.add_sub_cancel_left, List.append_cons]
    exact List.take_left' (by simp)
  rw [← Nat.add_assoc] at hcut ⊢
  rw [forLinesBack, Nat.add_sub_cancel, hstart]
  dsimp only
  rw [hcut]
  simp

/-- Complete lines are visited from the last to the first. -/
theorem forLinesBack_frame (hls : ∀ l ∈ ls, sep ∉ l) (rest : List α) {rounds : Nat}
    (hrounds : (frame sep ls).length ≤ rounds) (b : β) :
    forLinesBack sep more visit (frame sep ls ++ rest) rounds b (frame sep ls).length =
      foldWhile more visit b (ls.map fun l => l ++ [sep]).reverse := by
  induction ls using List.reverseRecOn generalizing rest rounds b with
  | nil => cases rounds <;> rfl
  | append_singleton ls l ih =>
    have hlength : (frame sep (ls ++ [l])).length = (frame sep ls).length + (l.length + 1) := by
      rw [frame_append]
      simp
    have htext : frame sep (ls ++ [l]) ++ rest = frame sep ls ++ (l ++ sep :: rest) := by
      rw [frame_append]
      simp
    cases rounds with
    | zero => omega
    | succ rounds =>
      rw [hlength, htext, forLinesBack_line more visit (hls l (by simp)), List.map_append,
        List.reverse_append]
      show _ = if more b then _ else b
      split_ifs
      · exact ih (fun l hl => hls l (by simp [hl])) _ (by omega) _
      · rfl

/-- **The lines of a text are visited from the last to the first**, each with its separator where it
has one. -/
theorem forLinesBack_text (hvisit : ∀ b l, visit b (l ++ [sep]) = visit b l) (text : List α) (b : β) :

    forLinesBack sep more visit text text.length b text.length =
      foldWhile more visit b (textLines sep text).reverse := by
  obtain ⟨ls, rest, hls, hrest, rfl⟩ := exists_frame sep text
  have hlines (rest : List α) {rounds : Nat} (hrounds : (frame sep ls).length ≤ rounds) (b : β) :
      forLinesBack sep more visit (frame sep ls ++ rest) rounds b (frame sep ls).length =
        foldWhile more visit b ls.reverse := by
    rw [forLinesBack_frame more visit hls rest hrounds, ← List.map_reverse, foldWhile_map hvisit]
  rw [textLines_frame hls hrest]
  cases rest using List.reverseRecOn with
  | nil =>
    rw [List.append_nil, if_pos rfl, ← hlines [] (Nat.le_refl _), List.append_nil]
  | append_singleton line x _ =>
    have hlength : (frame sep ls ++ (line ++ [x])).length =
        (frame sep ls).length + (line.length + 1) := by simp
    rw [if_neg (by simp), List.reverse_append, hlength]
    apply (forLinesBack_line more visit (fun h => hrest (by simp [h])) x []
      ((frame sep ls).length + line.length) b).trans
    show _ = if more b then _ else b
    split_ifs
    · exact hlines _ (by omega) _
    · rfl

/-- The first `limit` of what is found, in a list that grows. -/
theorem foldWhile_filterMap {γ δ : Type*} (limit : Int) (f : γ → Option δ) (found : List δ)
    (xs : List γ) :
    foldWhile (fun found => decide ((found.length : Int) < limit))
      (fun found x => found ++ (f x).toList) found xs =
      found ++ (xs.filterMap f).take (limit - found.length).toNat := by
  induction xs generalizing found with
  | nil => simp [foldWhile]
  | cons x xs ih =>
    unfold foldWhile
    by_cases hmore : (found.length : Int) < limit
    · rw [if_pos (decide_eq_true hmore), ih]
      cases hx : f x with
      | none => simp [hx]
      | some y =>
        have hlimit : (limit - found.length).toNat =
            (limit - (found ++ [y]).length).toNat + 1 := by
          rw [List.length_append, List.length_singleton]
          omega
        rw [List.filterMap_cons_some hx, hlimit, List.take_succ_cons]
        simp
    · have hfull : (limit - found.length).toNat = 0 := by omega
      rw [if_neg (by simpa using hmore), hfull, List.take_zero, List.append_nil]

end Lines

end Stdiolink.Lib
