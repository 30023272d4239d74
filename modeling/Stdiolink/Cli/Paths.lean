/-
  Stdiolink.Cli.Paths — a rendered path is read back.

  Each rendered segment is read back in front of whatever follows it, as long as that is
  nothing, a dot or a bracket, which is what the next segment begins with.  The path then
  follows segment by segment.

  Main results:
    * `toBoundedInt_toString`  — the decimal text of an integer;
    * `parsePath_text`         — the text of a path, whichever simple keys have no quotes;
    * `parsePath_renderPath`   — a path that begins with a key and whose indices are
      non-negative ints.
-/
import Stdiolink.Cli.Codec

namespace Stdiolink.Cli

/-! ## §1. The text of an integer -/

theorem isDigit_of_mem_repr {n : Nat} {c : Char} (h : c ∈ n.repr.toList) : c.isDigit = true := by
  rw [Nat.toList_repr] at h
  exact Nat.isDigit_of_mem_toDigits (by omega) (by omega) h

theorem isSpace_of_isDigit {c : Char} (h : c.isDigit = true) : isSpace c = false := by
  have hdigit : 48 ≤ c.toNat ∧ c.toNat ≤ 57 := by
    simpa [Char.isDigit, UInt32.le_iff_toNat_le] using h
  simp [isSpace]
  omega

variable {text rest : List Char}

/-- Text without a blank at either end is not trimmed. -/
theorem trimmed_eq_self (hhead : ∀ c, text.head? = some c → isSpace c = false)
    (hlast : ∀ c, text.getLast? = some c → isSpace c = false) : trimmed text = text := by
  have hdrop : ∀ m : List Char, (∀ c, m.head? = some c → isSpace c = false) →
      m.dropWhile isSpace = m := by
    intro m hm
    cases m with
    | nil => rfl
    | cons c m => rw [List.dropWhile_cons, hm c rfl, if_neg (by simp)]
  rw [trimmed, hdrop text hhead, hdrop text.reverse, List.reverse_reverse]
  intro c hc
  rw [List.head?_reverse] at hc
  exact hlast c hc

section Digits

variable (n : Nat)

theorem repr_toList_ne_nil : n.repr.toList ≠ [] := by
  intro h
  have hpos := Nat.length_repr_pos (n := n)
  rw [← String.length_toList, h] at hpos
  exact absurd hpos (by simp)

/-- The sign in front of digits is found. -/
theorem splitSign_repr (negative : Bool) :
    splitSign ((if negative then ['-'] else []) ++ n.repr.toList) =
      (if negative then -1 else 1, n.repr.toList) := by
  cases negative with
  | true => rfl
  | false =>
    obtain ⟨c, digits, hdigits⟩ := List.exists_cons_of_ne_nil (repr_toList_ne_nil n)
    have hc : c.isDigit = true := isDigit_of_mem_repr (n := n) (by rw [hdigits]; simp)
    show splitSign n.repr.toList = (1, n.repr.toList)
    rw [hdigits]
    unfold splitSign
    split
    · rename_i heq
      rw [(List.cons.inj heq).1] at hc
      cases hc
    · rename_i heq
      rw [(List.cons.inj heq).1] at hc
      cases hc
    · rfl

/-- Nothing is trimmed off a sign and digits. -/
theorem trimmed_repr (negative : Bool) :
    trimmed ((if negative then ['-'] else []) ++ n.repr.toList) =
      (if negative then ['-'] else []) ++ n.repr.toList := by
  apply trimmed_eq_self
  · intro c hc
    cases negative with
    | true =>
      obtain rfl := Option.some.inj hc
      rfl
    | false => exact isSpace_of_isDigit (isDigit_of_mem_repr (List.mem_of_mem_head? hc))
  · intro c hc
    rw [List.getLast?_append_of_ne_nil _ (repr_toList_ne_nil n)] at hc
    exact isSpace_of_isDigit (isDigit_of_mem_repr (List.mem_of_getLast? hc))

theorem toBoundedInt_repr (lo hi : Int) (negative : Bool) :
    toBoundedInt lo hi ((if negative then ['-'] else []) ++ n.repr.toList) =
      if lo ≤ (if negative then -1 else 1) * (n : Int) ∧
          (if negative then -1 else 1) * (n : Int) ≤ hi then
        some ((if negative then -1 else 1) * (n : Int)) else none := by
  have hempty : n.repr.toList.isEmpty = false := List.isEmpty_eq_false_iff.mpr (repr_toList_ne_nil n)
  have hall : n.repr.toList.all Char.isDigit = true := by
    rw [List.all_eq_true]
    intro c hc
    exact isDigit_of_mem_repr hc
  have hvalue : Nat.ofDigitChars 10 n.repr.toList 0 = n := by
    rw [Nat.toList_repr, Nat.ofDigitChars_ten_toDigits]
  unfold toBoundedInt
  rw [trimmed_repr, splitSign_repr]
  dsimp only
  rw [hempty, hall, hvalue]
  rfl

end Digits

/-- **The decimal text of an integer** is read as that integer where it fits. -/
theorem toBoundedInt_toString (lo hi i : Int) :
    toBoundedInt lo hi (toString i).toList = if lo ≤ i ∧ i ≤ hi then some i else none := by
  rw [Int.toString_eq_repr, Int.repr_eq_if]
  by_cases hsign : 0 ≤ i
  · have hvalue : (1 : Int) * (i.toNat : Int) = i := by omega
    have hread := toBoundedInt_repr i.toNat lo hi false
    simp only [Bool.false_eq_true, if_false, hvalue] at hread
    rw [if_pos hsign]
    exact hread
  · have hvalue : (-1 : Int) * ((-i).toNat : Int) = i := by omega
    have hread := toBoundedInt_repr (-i).toNat lo hi true
    simp only [if_true, hvalue] at hread
    rw [if_neg hsign, String.toList_append]
    exact hread

/-! ## §2. One segment -/

/-- The characters of a key between its quotes. -/
def escaped (key : List Char) : List Char :=
  replace '"' ['\\', '"'] (replace '\\' ['\\', '\\'] key)

theorem escaped_cons (c : Char) (key : List Char) :
    escaped (c :: key) =
      (if c = '\\' then ['\\', '\\'] else if c = '"' then ['\\', '"'] else [c]) ++ escaped key := by
  rw [escaped, escaped, replace, replace, replace, replace, List.flatMap_cons, List.flatMap_append]
  by_cases hback : c = '\\'
  · subst hback
    rfl
  · by_cases hquote : c = '"'
    · subst hquote
      rfl
    · simp [hback, hquote]

theorem quotedForPath_toList (key : String) :
    (quotedForPath key).toList = '[' :: '"' :: (escaped key.toList ++ ['"', ']']) := by
  simp [quotedForPath, escaped, String.toList_append]

/-- A key between quotes is read back. -/
theorem parseQuoted_escaped (key rest : List Char) :
    parseQuoted (escaped key ++ '"' :: rest) = .ok (key, rest) := by
  induction key with
  | nil => rfl
  | cons c key ih =>
    rw [escaped_cons]
    by_cases hback : c = '\\'
    · subst hback
      show (parseQuoted (escaped key ++ '"' :: rest)).map _ = _
      rw [ih]
      rfl
    · by_cases hquote : c = '"'
      · subst hquote
        show (parseQuoted (escaped key ++ '"' :: rest)).map _ = _
        rw [ih]
        rfl
      · rw [if_neg hback, if_neg hquote]
        show parseQuoted (c :: (escaped key ++ '"' :: rest)) = _
        -- any other character stands for itself
        rw [parseQuoted]
        · rw [ih]
          rfl
        · intro h
          exact absurd h hback
        · intro d l h
          exact absurd h hback
        · exact hquote

/-- A simple key has a letter or underscore in front and neither dots nor brackets. -/
theorem simpleKey_chars {key : String} (h : isSimpleKey key = true) :
    key.toList ≠ [] ∧ ∀ c ∈ key.toList, c ≠ '.' ∧ c ≠ '[' := by
  unfold isSimpleKey at h
  dsimp only at h
  have hplain : ∀ c : Char, (c.isAlphanum || c == '_' || c == '-') = true → c ≠ '.' ∧ c ≠ '[' := by
    intro c hc
    refine ⟨?_, ?_⟩
    · intro heq
      subst heq
      cases hc
    · intro heq
      subst heq
      cases hc
  have hbody : ∀ c rest, ((c.isAlpha || c == '_') &&
      rest.all fun d => d.isAlphanum || d == '_' || d == '-') = true →
      ∀ d ∈ c :: rest, d ≠ '.' ∧ d ≠ '[' := by
    intro c rest hbody d hd
    obtain ⟨hfirst, hrest⟩ := Bool.and_eq_true_iff.mp hbody
    obtain rfl | hd := List.mem_cons.mp hd
    · apply hplain
      rw [Char.isAlphanum]
      obtain hf | hf := Bool.or_eq_true_iff.mp hfirst <;> simp [hf]
    · exact hplain d (List.all_eq_true.mp hrest d hd)
  by_cases hlast : key.toList.getLast? = some '\n'
  · -- the final newline is part of the key as well
    rw [if_pos hlast] at h
    obtain ⟨init, hinit⟩ := List.getLast?_eq_some_iff.mp hlast
    rw [hinit, List.dropLast_concat] at h
    rw [hinit]
    refine ⟨by simp, ?_⟩
    intro d hd
    obtain hd | hd := List.mem_append.mp hd
    · cases init with
      | nil => cases h
      | cons c rest => exact hbody c rest h d hd
    · rw [List.mem_singleton.mp hd]
      exact ⟨by decide, by decide⟩
  · rw [if_neg hlast] at h
    cases hchars : key.toList with
    | nil =>
      rw [hchars] at h
      cases h
    | cons c rest =>
      rw [hchars] at h
      exact ⟨by simp, hbody c rest h⟩

/-- What follows a rendered segment: nothing, or the dot or bracket of the next one. -/
def Boundary (rest : List Char) : Prop := ∀ c, rest.head? = some c → c = '.' ∨ c = '['

theorem parseSegment_simple {key : String} (h : isSimpleKey key = true) (hrest : Boundary rest) :
    parseSegment (key.toList ++ rest) = .ok (.key key, rest) := by
  obtain ⟨hne, hchars⟩ := simpleKey_chars h
  have hbare : ∀ c ∈ key.toList, (c != '.' && c != '[') = true := by
    intro c hc
    obtain ⟨hdot, hbracket⟩ := hchars c hc
    simp [hdot, hbracket]
  have htake : (key.toList ++ rest).takeWhile (fun c => c != '.' && c != '[') = key.toList := by
    rw [List.takeWhile_append_of_pos hbare]
    cases rest with
    | nil => simp
    | cons c rest =>
      obtain rfl | rfl := hrest c rfl <;> simp
  have hdrop : (key.toList ++ rest).dropWhile (fun c => c != '.' && c != '[') = rest := by
    rw [List.dropWhile_append_of_pos hbare]
    cases rest with
    | nil => rfl
    | cons c rest =>
      obtain rfl | rfl := hrest c rfl <;> rfl
  have hempty : key.toList.isEmpty = false := List.isEmpty_eq_false_iff.mpr hne
  unfold parseSegment
  split
  · rename_i tail heq
    -- the first character is one of the key's
    obtain ⟨c, chars, hc⟩ := List.exists_cons_of_ne_nil hne
    rw [hc] at heq
    obtain rfl := (List.cons.inj heq).1
    exact absurd rfl (hchars '[' (by rw [hc]; simp)).2
  · dsimp only
    rw [htake, hdrop, hempty, String.ofList_toList]
    rfl

theorem parseSegment_quoted (key : String) (rest : List Char) :
    parseSegment ((quotedForPath key).toList ++ rest) = .ok (.key key, rest) := by
  rw [quotedForPath_toList]
  show parseBracket ('"' :: (escaped key.toList ++ ['"', ']'] ++ rest)) = _
  have hquoted : parseQuoted (escaped key.toList ++ ['"', ']'] ++ rest) =
      .ok (key.toList, ']' :: rest) := by
    rw [List.append_assoc]
    exact parseQuoted_escaped key.toList (']' :: rest)
  unfold parseBracket
  simp only [hquoted, String.ofList_toList]

/-- An index that `QString::arg` and `toInt` agree on. -/
def IndexFits (segment : CliPathSegment) : Prop :=
  ∀ i, segment = .index i → 0 ≤ i ∧ i ≤ 2147483647

theorem parseSegment_index {i : Int} (hlo : 0 ≤ i) (hhi : i ≤ 2147483647) (rest : List Char) :
    parseSegment (("[" ++ toString i ++ "]").toList ++ rest) = .ok (.index i, rest) := by
  have hdigits : (toString i).toList = i.toNat.repr.toList := by
    rw [Int.toString_eq_repr, Int.repr_eq_if, if_pos hlo]
  have hnot : ∀ c ∈ (toString i).toList, c ≠ ']' ∧ c ≠ '"' := by
    intro c hc
    rw [hdigits] at hc
    have hdigit := isDigit_of_mem_repr hc
    refine ⟨?_, ?_⟩
    · intro heq
      subst heq
      cases hdigit
    · intro heq
      subst heq
      cases hdigit
  have hbefore : ∀ c ∈ (toString i).toList, (c != ']') = true := by
    intro c hc
    exact bne_iff_ne.mpr (hnot c hc).1
  have htake : ((toString i).toList ++ ']' :: rest).takeWhile (· != ']') = (toString i).toList := by
    rw [List.takeWhile_append_of_pos hbefore]
    simp
  have hdrop : ((toString i).toList ++ ']' :: rest).dropWhile (· != ']') = ']' :: rest := by
    rw [List.dropWhile_append_of_pos hbefore]
    rfl
  have hread : toInt (toString i).toList = some i := by
    rw [toInt, toBoundedInt_toString, if_pos ⟨by omega, hhi⟩]
  have hne : (toString i).toList ≠ [] := by
    rw [hdigits]
    exact repr_toList_ne_nil _
  have hchars : ("[" ++ toString i ++ "]").toList ++ rest =
      '[' :: ((toString i).toList ++ ']' :: rest) := by
    simp [String.toList_append]
  rw [hchars]
  show parseBracket ((toString i).toList ++ ']' :: rest) = _
  obtain ⟨c, chars, hc⟩ := List.exists_cons_of_ne_nil hne
  have hfirst := hnot c (by rw [hc]; simp)
  unfold parseBracket
  split
  · rename_i heq
    rw [hc] at heq
    cases heq
  · rename_i heq
    rw [hc] at heq
    exact absurd (List.cons.inj heq).1 hfirst.1
  · rename_i heq
    rw [hc] at heq
    exact absurd (List.cons.inj heq).1 hfirst.2
  · rw [hdrop, htake, hread]

/-! ## §3. The whole path -/

/-- The text of the first key, where these keys are written as they are and all others between
quotes. -/
def keyText (simple : String → Bool) (key : String) : List Char :=
  (if simple key then key else quotedForPath key).toList

/-- The text of a segment behind another. -/
def segmentText (simple : String → Bool) (segment : CliPathSegment) : List Char :=
  match segment with
  | .key key => if simple key then '.' :: key.toList else (quotedForPath key).toList
  | .index index => ("[" ++ toString index ++ "]").toList
  | .append => ['[', ']']

section Simple

variable {simple : String → Bool}

theorem segmentText_ne_nil (simple : String → Bool) (segment : CliPathSegment) :
    ∃ c rest, segmentText simple segment = c :: rest ∧ (c = '.' ∨ c = '[') := by
  cases segment with
  | key key =>
    unfold segmentText
    dsimp only
    split
    · exact ⟨_, _, rfl, Or.inl rfl⟩
    · rw [quotedForPath_toList]
      exact ⟨_, _, rfl, Or.inr rfl⟩
  | index index =>
    refine ⟨'[', (toString index ++ "]").toList, ?_, Or.inr rfl⟩
    simp [segmentText, String.toList_append]
  | append => exact ⟨_, _, rfl, Or.inr rfl⟩

theorem boundary_flatMap (simple : String → Bool) (path : CliPath) :
    Boundary (path.flatMap (segmentText simple)) := by
  intro c hc
  cases path with
  | nil => cases hc
  | cons segment path =>
    obtain ⟨d, rest, htext, hd⟩ := segmentText_ne_nil simple segment
    rw [List.flatMap_cons, htext] at hc
    obtain rfl := Option.some.inj hc
    exact hd

/-- A path has no more segments than characters. -/
theorem length_le_flatMap (simple : String → Bool) (path : CliPath) :
    path.length ≤ (path.flatMap (segmentText simple)).length := by
  induction path with
  | nil => simp
  | cons segment path ih =>
    obtain ⟨c, rest, htext, -⟩ := segmentText_ne_nil simple segment
    rw [List.flatMap_cons, List.length_append, htext, List.length_cons, List.length_cons]
    omega

theorem keyText_ne_nil (hsimple : ∀ key, simple key = true → isSimpleKey key = true)
    (key : String) : keyText simple key ≠ [] := by
  unfold keyText
  split
  · rename_i h
    exact (simpleKey_chars (hsimple key h)).1
  · rw [quotedForPath_toList]
    simp

/-- The first key is read without a dot in front of it. -/
theorem keyText_head (hsimple : ∀ key, simple key = true → isSimpleKey key = true) (key : String)
    (rest : List Char) : (keyText simple key ++ rest).head? ≠ some '.' := by
  unfold keyText
  split
  · rename_i h
    obtain ⟨hne, hchars⟩ := simpleKey_chars (hsimple key h)
    obtain ⟨c, chars, hc⟩ := List.exists_cons_of_ne_nil hne
    rw [hc]
    intro hdot
    exact (hchars c (by rw [hc]; simp)).1 (Option.some.inj hdot)
  · rw [quotedForPath_toList]
    simp

theorem parseSegment_keyText (hsimple : ∀ key, simple key = true → isSimpleKey key = true)
    (key : String) {rest : List Char} (hrest : Boundary rest) :
    parseSegment (keyText simple key ++ rest) = .ok (.key key, rest) := by
  unfold keyText
  split
  · rename_i h
    exact parseSegment_simple (hsimple key h) hrest
  · exact parseSegment_quoted key _

end Simple

/-- A segment that is read without a dot in front. -/
theorem parseSegments_step {fuel : Nat} {segment : CliPathSegment} (hdot : text.head? ≠ some '.')
    (hne : text ≠ []) (hsegment : parseSegment text = .ok (segment, rest)) :
    parseSegments (fuel + 1) text = (parseSegments fuel rest).map fun path => segment :: path := by
  obtain ⟨c, chars, rfl⟩ := List.exists_cons_of_ne_nil hne
  have hc : c ≠ '.' := by
    intro h
    exact hdot (by rw [h]; rfl)
  rw [parseSegments]
  · rw [hsegment]
  · intro h
    cases h
  · intro h
    exact absurd (List.cons.inj h).1 hc
  · intro rest h
    exact absurd (List.cons.inj h).1 hc

/-- A segment behind its dot. -/
theorem parseSegments_dot {fuel : Nat} {segment : CliPathSegment} (hne : text ≠ [])
    (hsegment : parseSegment text = .ok (segment, rest)) :
    parseSegments (fuel + 1) ('.' :: text) =
      (parseSegments fuel rest).map fun path => segment :: path := by
  rw [parseSegments]
  · rw [hsegment]
  · intro h
    cases h
  · intro h
    exact absurd (List.cons.inj h).2 hne

section Simple

variable {simple : String → Bool} (hsimple : ∀ key, simple key = true → isSimpleKey key = true)

include hsimple

theorem parseSegments_tail {segment : CliPathSegment} (hfits : IndexFits segment) {fuel : Nat}
    {rest : List Char} (hrest : Boundary rest) :
    parseSegments (fuel + 1) (segmentText simple segment ++ rest) =
      (parseSegments fuel rest).map fun path => segment :: path := by
  cases segment with
  | key key =>
    unfold segmentText
    dsimp only
    split
    · rename_i h
      have hkey := hsimple key h
      have hne : key.toList ++ rest ≠ [] := by
        simp [(simpleKey_chars hkey).1]
      exact parseSegments_dot hne (parseSegment_simple hkey hrest)
    · apply parseSegments_step _ _ (parseSegment_quoted key rest)
      · rw [quotedForPath_toList]
        simp
      · rw [quotedForPath_toList]
        simp
  | index index =>
    obtain ⟨hlo, hhi⟩ := hfits index rfl
    apply parseSegments_step _ _ (parseSegment_index hlo hhi rest)
    · simp [String.toList_append]
    · simp [String.toList_append]
  | append =>
    apply parseSegments_step _ _ _
    · simp [segmentText]
    · simp [segmentText]
    · rfl

/-- The segments behind the first, with enough turns of the loop. -/
theorem parseSegments_path {path : CliPath} (hfits : ∀ s ∈ path, IndexFits s) {fuel : Nat}
    (hfuel : path.length ≤ fuel) :
    parseSegments fuel (path.flatMap (segmentText simple)) = .ok path := by
  induction path generalizing fuel with
  | nil => cases fuel <;> rfl
  | cons segment path ih =>
    obtain ⟨fuel, rfl⟩ : ∃ n, fuel = n + 1 := ⟨fuel - 1, by simp at hfuel; omega⟩
    rw [List.flatMap_cons,
      parseSegments_tail hsimple (hfits segment (by simp)) (boundary_flatMap simple path),
      ih (fun s hs => hfits s (List.mem_cons_of_mem _ hs)) (by simpa using hfuel)]
    rfl

/-- **The text of a path is read back**, whichever simple keys are written without quotes. -/
theorem parsePath_text (key : String) {path : CliPath} (hfits : ∀ s ∈ path, IndexFits s)
    {text : String}
    (htext : text.toList = keyText simple key ++ path.flatMap (segmentText simple)) :
    parsePath text = .ok (.key key :: path) := by
  have hne : keyText simple key ++ path.flatMap (segmentText simple) ≠ [] := by
    simp [keyText_ne_nil hsimple key]
  have hlen : path.length + 1 ≤
      (keyText simple key ++ path.flatMap (segmentText simple)).length := by
    have hle := length_le_flatMap simple path
    have hpos := List.length_pos_of_ne_nil (keyText_ne_nil hsimple key)
    rw [List.length_append]
    omega
  obtain ⟨fuel, hfuel⟩ : ∃ n,
      (keyText simple key ++ path.flatMap (segmentText simple)).length = n + 1 :=
    ⟨(keyText simple key ++ path.flatMap (segmentText simple)).length - 1, by omega⟩
  have hempty : text.isEmpty = false := by
    rw [Bool.eq_false_iff, ne_eq, String.isEmpty_iff, ← String.toList_eq_nil_iff, htext]
    exact hne
  rw [parsePath, hempty, htext, hfuel, parseSegments_step (keyText_head hsimple key _) hne
    (parseSegment_keyText hsimple key (boundary_flatMap simple path)),
    parseSegments_path hsimple hfits (by omega)]
  rfl

end Simple

/-! ## §4. The rendered path -/

/-- The text of the first key. -/
def headText (key : String) : List Char :=
  (if isSimpleKey key then key else quotedForPath key).toList

/-- The text of a segment behind another. -/
def tailText (segment : CliPathSegment) : List Char :=
  match segment with
  | .key key => if isSimpleKey key then '.' :: key.toList else (quotedForPath key).toList
  | .index index => ("[" ++ toString index ++ "]").toList
  | .append => ['[', ']']

theorem tailText_eq : tailText = segmentText isSimpleKey := by
  funext segment
  cases segment <;> rfl

theorem renderSegment_toList {out : String} (hout : out.isEmpty = false)
    (segment : CliPathSegment) :
    (renderSegment out segment).toList = out.toList ++ tailText segment := by
  cases segment with
  | key key =>
    rw [renderSegment, hout, if_neg (by simp), tailText]
    split
    · rw [String.toList_append, String.toList_append]
      rfl
    · rw [String.toList_append]
  | index index => rw [renderSegment, String.toList_append, tailText]
  | append =>
    rw [renderSegment, String.toList_append]
    rfl

theorem isEmpty_eq_false_iff_toList {s : String} : s.isEmpty = false ↔ s.toList ≠ [] := by
  rw [Bool.eq_false_iff, ne_eq, String.isEmpty_iff, ← String.toList_eq_nil_iff]

/-- A rendered path, segment by segment. -/
theorem renderPath_toList (key : String) (path : CliPath) :
    (renderPath (.key key :: path)).toList = headText key ++ path.flatMap tailText := by
  have hfold : ∀ (path : CliPath) (out : String), out.isEmpty = false →
      (path.foldl renderSegment out).toList = out.toList ++ path.flatMap tailText := by
    intro path
    induction path with
    | nil =>
      intro out _
      simp
    | cons segment path ih =>
      intro out hout
      have hnext : (renderSegment out segment).isEmpty = false := by
        rw [isEmpty_eq_false_iff_toList] at hout ⊢
        rw [renderSegment_toList (isEmpty_eq_false_iff_toList.mpr hout)]
        simp [hout]
      rw [List.foldl_cons, ih _ hnext, renderSegment_toList hout, List.flatMap_cons,
        List.append_assoc]
  have hhead : renderSegment "" (.key key) = if isSimpleKey key then key else quotedForPath key := by
    show "" ++ (if isSimpleKey key then key else quotedForPath key) = _
    rw [String.empty_append]
  rw [renderPath, List.foldl_cons, hhead, hfold, headText]
  rw [isEmpty_eq_false_iff_toList]
  exact keyText_ne_nil (fun _ h => h) key

/-- **A rendered path is read back.**  It begins with a key and its indices are non-negative
ints. -/
theorem parsePath_renderPath (key : String) (path : CliPath) (hfits : ∀ s ∈ path, IndexFits s) :
    parsePath (renderPath (.key key :: path)) = .ok (.key key :: path) := by
  apply parsePath_text (fun _ h => h) key hfits
  rw [renderPath_toList, tailText_eq]
  rfl

end Stdiolink.Cli
