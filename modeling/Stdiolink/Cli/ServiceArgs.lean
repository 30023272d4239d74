/-
  Stdiolink.Cli.ServiceArgs — the command line of a service, `config/service_args.cpp`.

  An argument `--config.<path>=<literal>` is split at its first equals sign and added to the
  raw arguments, which are all read again to see whether they still fit together.  The one
  argument that is no option is the service directory.

  Main results:
    * `parse_configArgs` — arguments that fit together are all taken;
    * `parse_paths`      — a command line is refused, or all its paths are paths;
    * `parsePath_cut`    — a path that is cut at an equals sign is none.
-/
import Stdiolink.Cli.ConsoleArgs

namespace Stdiolink.Cli

open Stdiolink.Lib
open Stdiolink.Protocol

namespace ServiceArgs

/-! ## §1. The parser -/

structure ParseResult where
  serviceDir : String := ""
  rawCliConfigArgs : List RawCliArg := []
  configFilePath : String := ""
  guardName : String := ""
  dataRoot : String := ""
  dumpSchema : Bool := false
  help : Bool := false
  version : Bool := false
  error : String := ""
  deriving Repr, DecidableEq

/-- `startsWith` and `mid`: what is behind the prefix. -/
def behind (pre arg : String) : Option String :=
  if pre.toList.isPrefixOf arg.toList then some (String.ofList (arg.toList.drop pre.length))
  else none

/-- The options with a value, the config aside. -/
def parseOption (result : ParseResult) (arg : String) : Option ParseResult :=
  match behind "--guard=" arg with
  | some name => some { result with guardName := name }
  | none =>
      match behind "--config-file=" arg with
      | some path => some { result with configFilePath := path }
      | none => (behind "--data-root=" arg).map fun path => { result with dataRoot := path }

/-- The branch for `--config.`, with what is behind it.  An error is the result as it is
returned at once. -/
def parseConfigArg (qt : JsonQt) (result : ParseResult) (arg rest : String) :
    Except ParseResult ParseResult :=
  match rest.toList.dropWhile (· != '=') with
  | [] => .error { result with error := "missing '=' in config argument: " ++ arg }
  | _ :: rawValue =>
      let keyPath := String.ofList (rest.toList.takeWhile (· != '='))
      let raw := result.rawCliConfigArgs ++ [⟨keyPath, String.ofList rawValue⟩]
      match parseArgs qt raw .friendly with
      | .error err =>
          .error { result with rawCliConfigArgs := raw,
                               error := "invalid config argument '" ++ arg ++ "': " ++ err }
      | .ok _ => .ok { result with rawCliConfigArgs := raw }

/-- The loop of `parse` over the arguments that are left, and what follows it. -/
def parseLoop (qt : JsonQt) (result : ParseResult) (serviceDir : String) :
    List String → ParseResult
  | [] =>
      if serviceDir.isEmpty && !result.help then
        { result with error := "no service directory provided" }
      else { result with serviceDir := serviceDir }
  | arg :: args =>
      if arg = "--help" ∨ arg = "-h" then
        parseLoop qt { result with help := true } serviceDir args
      else if arg = "--version" ∨ arg = "-v" then { result with version := true }
      else if arg = "--dump-config-schema" then
        parseLoop qt { result with dumpSchema := true } serviceDir args
      else
        match parseOption result arg with
        | some result => parseLoop qt result serviceDir args
        | none =>
            match behind "--config." arg with
            | some rest =>
                match parseConfigArg qt result arg rest with
                | .error result => result
                | .ok result => parseLoop qt result serviceDir args
            | none =>
                if serviceDir.isEmpty && !"--".toList.isPrefixOf arg.toList then
                  parseLoop qt result arg args
                else if "--".toList.isPrefixOf arg.toList then
                  { result with error := "unknown option: " ++ arg }
                else { result with error := "unexpected argument: " ++ arg }

/-- `ServiceArgs::parse`, of the arguments with the program's name in front. -/
def parse (qt : JsonQt) (appArgs : List String) : ParseResult :=
  if appArgs.length < 2 then { error := "no service directory provided" }
  else parseLoop qt {} "" (appArgs.drop 1)

/-! ## §2. One argument -/

/-- The argument for a path and a literal. -/
def configArg (raw : RawCliArg) : String := "--config." ++ raw.path ++ "=" ++ raw.rawValue

/-- An argument that the parser takes for the service directory. -/
structure IsServiceDir (arg : String) : Prop where
  given : arg ≠ ""
  notHelp : arg ≠ "-h"
  notVersion : arg ≠ "-v"
  noOption : ¬ "--".toList <+: arg.toList

theorem behind_append (pre rest : String) : behind pre (pre ++ rest) = some rest := by
  rw [behind, String.toList_append,
    if_pos (List.isPrefixOf_iff_prefix.mpr (List.prefix_append _ _)),
    ← String.length_toList, List.drop_left, String.ofList_toList]

variable (qt : JsonQt) (result : ParseResult) (serviceDir : String)

/-- An argument for the config is no other option. -/
theorem parseOption_config (rest : String) : parseOption result ("--config." ++ rest) = none := by
  simp [parseOption, behind, String.toList_append]

/-- An argument for the config, behind its prefix. -/
theorem parseLoop_config (rest : String) (args : List String) :
    parseLoop qt result serviceDir (("--config." ++ rest) :: args) =
      match parseConfigArg qt result ("--config." ++ rest) rest with
      | .error result => result
      | .ok result => parseLoop qt result serviceDir args := by
  have hne : ∀ word : String, word.toList.take 9 ≠ "--config.".toList →
      "--config." ++ rest ≠ word := by
    intro word hword heq
    apply hword
    rw [← heq, String.toList_append]
    rfl
  rw [parseLoop, if_neg, if_neg, if_neg (hne _ (by decide)), parseOption_config, behind_append]
  · exact not_or.mpr ⟨hne _ (by decide), hne _ (by decide)⟩
  · exact not_or.mpr ⟨hne _ (by decide), hne _ (by decide)⟩

variable {dir : String} {raw : RawCliArg} {raws : List RawCliArg} {text : List Char}

/-- The service directory. -/
theorem parseLoop_dir (hdir : IsServiceDir dir) (args : List String) :
    parseLoop qt result "" (dir :: args) = parseLoop qt result dir args := by
  have hoption : ∀ pre : String, "--".toList <+: pre.toList → behind pre dir = none := by
    intro pre hpre
    rw [behind, if_neg]
    intro hprefix
    exact hdir.noOption (hpre.trans (List.isPrefixOf_iff_prefix.mp hprefix))
  have hne : ∀ word : String, "--".toList <+: word.toList → dir ≠ word := by
    intro word hword heq
    exact hdir.noOption (heq ▸ hword)
  have hdashes : "--".toList.isPrefixOf dir.toList = false := by
    rw [Bool.eq_false_iff, ne_eq, List.isPrefixOf_iff_prefix]
    exact hdir.noOption
  have hother : parseOption result dir = none := by
    rw [parseOption, hoption "--guard=" (by decide), hoption "--config-file=" (by decide),
      hoption "--data-root=" (by decide)]
    rfl
  rw [parseLoop, if_neg, if_neg, if_neg (hne _ (by decide)), hother,
    hoption "--config." (by decide), hdashes]
  · rfl
  · exact not_or.mpr ⟨hne _ (by decide), hdir.notVersion⟩
  · exact not_or.mpr ⟨hne _ (by decide), hdir.notHelp⟩

/-- A path without an equals sign and its literal are split as they were put together. -/
theorem parseConfigArg_raw (arg : String) (hequals : '=' ∉ raw.path.toList) :
    parseConfigArg qt result arg (raw.path ++ "=" ++ raw.rawValue) =
      match parseArgs qt (result.rawCliConfigArgs ++ [raw]) .friendly with
      | .error err =>
          .error { result with rawCliConfigArgs := result.rawCliConfigArgs ++ [raw],
                               error := "invalid config argument '" ++ arg ++ "': " ++ err }
      | .ok _ => .ok { result with rawCliConfigArgs := result.rawCliConfigArgs ++ [raw] } := by
  obtain ⟨htake, hdrop⟩ := ConsoleArgs.split_equals raw.rawValue.toList hequals
  have htext : (raw.path ++ "=" ++ raw.rawValue).toList =
      raw.path.toList ++ '=' :: raw.rawValue.toList := by
    simp [String.toList_append]
  rw [parseConfigArg, htext, hdrop]
  dsimp only
  rw [htake, String.ofList_toList, String.ofList_toList]

/-- The step of the loop at such an argument. -/
theorem parseLoop_configArg (hequals : '=' ∉ raw.path.toList) (args : List String) :
    parseLoop qt result serviceDir (configArg raw :: args) =
      match parseArgs qt (result.rawCliConfigArgs ++ [raw]) .friendly with
      | .error err =>
          { result with rawCliConfigArgs := result.rawCliConfigArgs ++ [raw],
                        error := "invalid config argument '" ++ configArg raw ++ "': " ++ err }
      | .ok _ =>
          parseLoop qt { result with rawCliConfigArgs := result.rawCliConfigArgs ++ [raw] }
            serviceDir args := by
  have harg : configArg raw = "--config." ++ (raw.path ++ "=" ++ raw.rawValue) := by
    simp [configArg, String.append_assoc]
  rw [harg, parseLoop_config, parseConfigArg_raw qt result _ hequals]
  cases parseArgs qt (result.rawCliConfigArgs ++ [raw]) .friendly <;> rfl

/-! ## §3. The run -/

/-- **Arguments that fit together.**  They are all taken. -/
theorem parseLoop_configArgs (hequals : ∀ raw ∈ raws, '=' ∉ raw.path.toList)
    (hfit : ∀ before, before <+: raws →
      ∃ out, parseArgs qt (result.rawCliConfigArgs ++ before) .friendly = .ok out)
    (args : List String) :
    parseLoop qt result serviceDir (raws.map configArg ++ args) =
      parseLoop qt { result with rawCliConfigArgs := result.rawCliConfigArgs ++ raws } serviceDir
        args := by
  induction raws generalizing result with
  | nil => simp
  | cons raw rest ih =>
    obtain ⟨out, hout⟩ := hfit [raw] (by simp)
    rw [List.map_cons, List.cons_append, parseLoop_configArg qt result serviceDir
      (hequals raw (by simp)), hout]
    dsimp only
    rw [ih _ fun r hr => hequals r (List.mem_cons_of_mem _ hr)]
    · simp
    · intro before hbefore
      obtain ⟨out, hout⟩ := hfit (raw :: before) (by simpa using hbefore)
      exact ⟨out, by simpa using hout⟩

/-- What the codec goes through for an argument that it takes. -/
theorem assignArgs_cons {qt : JsonQt} {mode : CliValueMode} {root root' : CliNode}
    {rest : List RawCliArg} (h : assignArgs qt mode root (raw :: rest) = .ok root') :
    ∃ path next, parsePath raw.path = .ok path ∧ assignArgs qt mode next rest = .ok root' := by
  rw [assignArgs] at h
  cases hpath : parsePath raw.path with
  | error error =>
    rw [hpath] at h
    cases h
  | ok path =>
    cases hvalue : parseValue qt mode raw.rawValue with
    | error error =>
      rw [hpath, hvalue] at h
      cases h
    | ok value =>
      have hnext : (assignPath root path value).bind
          (fun root => assignArgs qt mode root rest) = .ok root' := by
        rw [hpath, hvalue] at h
        exact h
      cases hassign : assignPath root path value with
      | error error =>
        rw [hassign] at hnext
        cases hnext
      | ok next =>
        rw [hassign] at hnext
        exact ⟨path, next, rfl, hnext⟩

/-- Arguments that are accepted have paths. -/
theorem paths_of_parseArgs {qt : JsonQt} {mode : CliValueMode} {out : List (String × Json)}
    (h : parseArgs qt raws mode = .ok out) :
    ∀ raw ∈ raws, ∃ path, parsePath raw.path = .ok path := by
  have hall : ∀ root root', assignArgs qt mode root raws = .ok root' →
      ∀ raw ∈ raws, ∃ path, parsePath raw.path = .ok path := by
    clear h
    induction raws with
    | nil =>
      intro root root' _ raw hraw
      cases hraw
    | cons raw rest ih =>
      intro root root' hrun raw' hraw'
      obtain ⟨path, next, hpath, hrest⟩ := assignArgs_cons hrun
      obtain rfl | hraw' := List.mem_cons.mp hraw'
      · exact ⟨path, hpath⟩
      · exact ih next root' hrest raw' hraw'
  rw [parseArgs] at h
  cases hrun : assignArgs qt mode rootNode raws with
  | error error =>
    rw [hrun] at h
    cases h
  | ok root => exact hall rootNode root hrun

/-- **Any arguments.**  The loop stops with an error, or it takes them all and every path is
one. -/
theorem parseLoop_paths (hequals : ∀ raw ∈ raws, '=' ∉ raw.path.toList) (args : List String) :
    (parseLoop qt result serviceDir (raws.map configArg ++ args)).error ≠ "" ∨
    (parseLoop qt result serviceDir (raws.map configArg ++ args) =
        parseLoop qt { result with rawCliConfigArgs := result.rawCliConfigArgs ++ raws } serviceDir
          args ∧
      ∀ raw ∈ raws, ∃ path, parsePath raw.path = .ok path) := by
  induction raws generalizing result with
  | nil => exact Or.inr ⟨by simp, by simp⟩
  | cons raw rest ih =>
    rw [List.map_cons, List.cons_append,
      parseLoop_configArg qt result serviceDir (hequals raw (by simp))]
    cases hparse : parseArgs qt (result.rawCliConfigArgs ++ [raw]) .friendly with
    | error err =>
      refine Or.inl ?_
      simp [String.append_assoc]
    | ok out =>
      dsimp only
      obtain herror | ⟨hrun, hpaths⟩ := ih { result with
          rawCliConfigArgs := result.rawCliConfigArgs ++ [raw] }
        fun r hr => hequals r (List.mem_cons_of_mem _ hr)
      · exact Or.inl herror
      · refine Or.inr ⟨by rw [hrun]; simp, ?_⟩
        intro r hr
        obtain rfl | hr := List.mem_cons.mp hr
        · exact paths_of_parseArgs hparse r (by simp)
        · exact hpaths r hr

/-- The arguments for the config, with the service directory somewhere between them. -/
def commandArgs (program dir : String) (n : Nat) (args : List String) : List String :=
  program :: (args.take n ++ dir :: args.drop n)

/-- The result with nothing but the directory and the raw arguments. -/
def plainResult (dir : String) (raws : List RawCliArg) : ParseResult :=
  { serviceDir := dir, rawCliConfigArgs := raws }

theorem parse_commandArgs (program dir : String) (n : Nat) (raws : List RawCliArg) :
    parse qt (commandArgs program dir n (raws.map configArg)) =
      parseLoop qt {} "" ((raws.take n).map configArg ++ dir :: (raws.drop n).map configArg) := by
  have hlength : ¬ (commandArgs program dir n (raws.map configArg)).length < 2 := by
    unfold commandArgs
    simp only [List.length_cons, List.length_append]
    omega
  rw [parse, if_neg hlength, List.map_take, List.map_drop]
  rfl

theorem parseLoop_end (raws : List RawCliArg) (hdir : IsServiceDir dir) :
    parseLoop qt { rawCliConfigArgs := raws } dir [] = plainResult dir raws := by
  have hempty : dir.isEmpty = false := by
    rw [Bool.eq_false_iff, ne_eq, String.isEmpty_iff]
    exact hdir.given
  rw [parseLoop, hempty]
  rfl

/-- **A command line whose arguments fit together.** -/
theorem parse_configArgs (program : String) (hdir : IsServiceDir dir) (n : Nat)
    (hequals : ∀ raw ∈ raws, '=' ∉ raw.path.toList)
    (hfit : ∀ before, before <+: raws → ∃ out, parseArgs qt before .friendly = .ok out) :
    parse qt (commandArgs program dir n (raws.map configArg)) = plainResult dir raws := by
  rw [parse_commandArgs, parseLoop_configArgs qt {} "", parseLoop_dir qt _ hdir,
    ← List.append_nil ((raws.drop n).map configArg), parseLoop_configArgs qt _ dir]
  · dsimp only
    rw [List.nil_append, List.take_append_drop]
    exact parseLoop_end qt raws hdir
  · intro raw hraw
    exact hequals raw (List.mem_of_mem_drop hraw)
  · intro before hbefore
    dsimp only
    rw [List.nil_append]
    apply hfit
    obtain ⟨after, hafter⟩ := hbefore
    exact ⟨after, by rw [List.append_assoc, hafter, List.take_append_drop]⟩
  · intro raw hraw
    exact hequals raw (List.mem_of_mem_take hraw)
  · intro before hbefore
    exact hfit before (hbefore.trans (List.take_prefix n raws))

/-- **Any command line.**  It is refused, or all arguments are taken and every path is one. -/
theorem parse_paths (program : String) (hdir : IsServiceDir dir) (n : Nat)
    (hequals : ∀ raw ∈ raws, '=' ∉ raw.path.toList) :
    (parse qt (commandArgs program dir n (raws.map configArg))).error ≠ "" ∨
    (parse qt (commandArgs program dir n (raws.map configArg)) = plainResult dir raws ∧
      ∀ raw ∈ raws, ∃ path, parsePath raw.path = .ok path) := by
  rw [parse_commandArgs]
  obtain herror | ⟨hrun, hpaths⟩ := parseLoop_paths qt {} ""
    (fun raw hraw => hequals raw (List.mem_of_mem_take hraw)) (dir :: (raws.drop n).map configArg)
  · exact Or.inl herror
  rw [hrun, parseLoop_dir qt _ hdir, ← List.append_nil ((raws.drop n).map configArg)]
  obtain herror | ⟨hrun', hpaths'⟩ := parseLoop_paths qt
    { rawCliConfigArgs := [] ++ raws.take n } dir
    (fun raw hraw => hequals raw (List.mem_of_mem_drop hraw)) []
  · exact Or.inl herror
  refine Or.inr ⟨?_, ?_⟩
  · rw [hrun']
    dsimp only
    rw [List.nil_append, List.take_append_drop]
    exact parseLoop_end qt raws hdir
  · intro raw hraw
    rw [← List.take_append_drop n raws] at hraw
    obtain hraw | hraw := List.mem_append.mp hraw
    · exact hpaths raw hraw
    · exact hpaths' raw hraw

/-! ## §4. Where an argument is split -/

/-- The path and the literal that the parser sees in an argument: split at the first equals
sign. -/
def cutArg (raw : RawCliArg) : RawCliArg :=
  let text := raw.path.toList ++ '=' :: raw.rawValue.toList
  ⟨String.ofList (text.takeWhile (· != '=')), String.ofList (text.dropWhile (· != '=')).tail⟩

theorem cutArg_equals (raw : RawCliArg) : '=' ∉ (cutArg raw).path.toList := by
  rw [cutArg, String.toList_ofList]
  intro hmem
  have hne := List.mem_takeWhile_imp hmem
  simp at hne

/-- The argument is the same. -/
theorem configArg_cutArg (raw : RawCliArg) : configArg (cutArg raw) = configArg raw := by
  have hsplit : ∀ text : List Char, '=' ∈ text →
      text.takeWhile (· != '=') ++ '=' :: (text.dropWhile (· != '=')).tail = text := by
    intro text hmem
    cases hdrop : text.dropWhile (· != '=') with
    | nil =>
      have hall := List.dropWhile_eq_nil_iff.mp hdrop '=' hmem
      simp at hall
    | cons c rest =>
      have hc : c = '=' := by
        have hhead := List.head?_dropWhile_not (· != '=') text
        rw [hdrop] at hhead
        simpa using hhead
      subst hc
      rw [List.tail_cons, ← hdrop, List.takeWhile_append_dropWhile]
  have htext := hsplit (raw.path.toList ++ '=' :: raw.rawValue.toList) (by simp)
  apply String.toList_inj.mp
  simp only [configArg, cutArg, String.toList_append, String.toList_ofList, List.append_assoc]
  congr 1

/-- The part of a quoted key in front of its equals sign has no closing quote. -/
theorem parseQuoted_cut {key : List Char} (h : '=' ∈ key) :
    ∃ error, parseQuoted ((escaped key).takeWhile (· != '=')) = .error error := by
  induction key with
  | nil => cases h
  | cons c key ih =>
    rw [escaped_cons]
    by_cases hc : c = '='
    · subst hc
      exact ⟨_, rfl⟩
    · obtain ⟨error, herror⟩ := ih ((List.mem_cons.mp h).resolve_left fun heq => hc heq.symm)
      refine ⟨error, ?_⟩
      by_cases hback : c = '\\'
      · subst hback
        show (parseQuoted ((escaped key).takeWhile (· != '='))).map _ = _
        rw [herror]
        rfl
      · by_cases hquote : c = '"'
        · subst hquote
          show (parseQuoted ((escaped key).takeWhile (· != '='))).map _ = _
          rw [herror]
          rfl
        · rw [if_neg hback, if_neg hquote, List.singleton_append,
            List.takeWhile_cons_of_pos (by simpa using hc), parseQuoted]
          · rw [herror]
            rfl
          · intro heq
            exact absurd heq hback
          · intro d l heq
            exact absurd heq hback
          · exact hquote

/-- A segment that is refused. -/
theorem parseSegments_error {fuel : Nat} {error : String} (hdot : text.head? ≠ some '.')
    (hne : text ≠ []) (h : parseSegment text = .error error) :
    parseSegments (fuel + 1) text = .error error := by
  obtain ⟨c, chars, rfl⟩ := List.exists_cons_of_ne_nil hne
  have hc : c ≠ '.' := by
    intro heq
    exact hdot (by rw [heq]; rfl)
  rw [parseSegments]
  · rw [h]
  · intro heq
    cases heq
  · intro heq
    exact absurd (List.cons.inj heq).1 hc
  · intro rest heq
    exact absurd (List.cons.inj heq).1 hc

/-- A text without an equals sign is passed. -/
theorem takeWhile_pass (h : '=' ∉ text) (rest : List Char) :
    (text ++ rest).takeWhile (· != '=') = text ++ rest.takeWhile (· != '=') := by
  apply List.takeWhile_append_of_pos
  intro c hc
  rw [bne_iff_ne]
  intro heq
  exact h (heq ▸ hc)

/-- A text with an equals sign is cut in front of what follows. -/
theorem takeWhile_mem (h : '=' ∈ text) (rest : List Char) :
    (text ++ rest).takeWhile (· != '=') = text.takeWhile (· != '=') := by
  rw [List.takeWhile_append, if_neg]
  intro hlen
  have hall := List.takeWhile_eq_self_iff.mp
    ((List.takeWhile_prefix (· != '=')).eq_of_length hlen) '=' h
  simp at hall

/-- The part of a quoted key in front of its equals sign, whatever follows the key. -/
theorem quoted_cut {key : String} (h : '=' ∈ key.toList) (rest : List Char) :
    ((quotedForPath key).toList ++ rest).takeWhile (· != '=') =
      '[' :: '"' :: (escaped key.toList).takeWhile (· != '=') := by
  have hmem : '=' ∈ escaped key.toList := (mem_escaped (by unfold KeyChar; decide) _).mpr h
  rw [quotedForPath_toList]
  show '[' :: '"' :: ((escaped key.toList ++ ['"', ']'] ++ rest).takeWhile (· != '=')) = _
  rw [List.append_assoc, takeWhile_mem hmem]

theorem parseSegments_quoted_cut {fuel : Nat} {key : String} (h : '=' ∈ key.toList) :
    ∃ error, parseSegments (fuel + 1) ('[' :: '"' :: (escaped key.toList).takeWhile (· != '=')) =
      .error error := by
  obtain ⟨error, herror⟩ := parseQuoted_cut h
  refine ⟨error, ?_⟩
  apply parseSegments_error (by simp) (by simp)
  show parseBracket ('"' :: (escaped key.toList).takeWhile (· != '=')) = _
  unfold parseBracket
  simp only [herror]

section Cut

variable {simple : String → Bool} (hsimple : ∀ key, simple key = true → isSimpleKey key = true)
  (hplain : ∀ key, simple key = true → '=' ∉ key.toList)

include hplain in
/-- An equals sign stands in a quoted key. -/
theorem segmentText_equals {s : CliPathSegment} (hfits : IndexFits s)
    (h : '=' ∈ segmentText simple s) :
    ∃ key, '=' ∈ key.toList ∧ segmentText simple s = (quotedForPath key).toList := by
  obtain ⟨key, rfl, hkey⟩ :=
    (mem_segmentText (by unfold KeyChar; decide) simple hfits).mp h
  refine ⟨key, hkey, ?_⟩
  rw [segmentText, if_neg fun hk => hplain key hk hkey]

include hplain in
theorem keyText_equals {key : String} (h : '=' ∈ keyText simple key) :
    '=' ∈ key.toList ∧ keyText simple key = (quotedForPath key).toList := by
  have hkey := (mem_keyText (by unfold KeyChar; decide) simple key).mp h
  refine ⟨hkey, ?_⟩
  rw [keyText, if_neg fun hk => hplain key hk hkey]

theorem boundary_cut {text : List Char} (h : Boundary text) :
    Boundary (text.takeWhile (· != '=')) := by
  intro c hc
  apply h c
  cases text with
  | nil => cases hc
  | cons d rest =>
    rw [List.takeWhile_cons] at hc
    split at hc
    · exact hc
    · cases hc

include hsimple hplain

/-- The segments behind the first, where one of them is cut. -/
theorem parseSegments_cut {path : CliPath} (hfits : ∀ s ∈ path, IndexFits s)
    (h : '=' ∈ path.flatMap (segmentText simple)) {fuel : Nat}
    (hfuel : ((path.flatMap (segmentText simple)).takeWhile (· != '=')).length ≤ fuel) :
    ∃ error, parseSegments fuel ((path.flatMap (segmentText simple)).takeWhile (· != '=')) =
      .error error := by
  induction path generalizing fuel with
  | nil => cases h
  | cons s path ih =>
    rw [List.flatMap_cons] at h hfuel ⊢
    by_cases hs : '=' ∈ segmentText simple s
    · obtain ⟨key, hkey, hquoted⟩ := segmentText_equals hplain (hfits s (by simp)) hs
      rw [hquoted, quoted_cut hkey] at hfuel ⊢
      obtain ⟨fuel, rfl⟩ : ∃ n, fuel = n + 1 := ⟨fuel - 1, by simp at hfuel; omega⟩
      exact parseSegments_quoted_cut hkey
    · obtain ⟨c, text, htext, -⟩ := segmentText_ne_nil simple s
      rw [takeWhile_pass hs] at hfuel ⊢
      rw [List.length_append, htext, List.length_cons] at hfuel
      obtain ⟨fuel, rfl⟩ : ∃ n, fuel = n + 1 := ⟨fuel - 1, by omega⟩
      have hlen : ((path.flatMap (segmentText simple)).takeWhile (· != '=')).length ≤ fuel := by
        omega
      obtain ⟨error, herror⟩ := ih (fun t ht => hfits t (List.mem_cons_of_mem _ ht))
        ((List.mem_append.mp h).resolve_left hs) hlen
      refine ⟨error, ?_⟩
      rw [parseSegments_tail hsimple (hfits s (by simp))
          (boundary_cut (boundary_flatMap simple path)),
        herror]
      rfl

/-- **A path that is cut at an equals sign is refused.** -/
theorem parsePath_cut {key : String} {path : CliPath} (hfits : ∀ s ∈ path, IndexFits s)
    (h : '=' ∈ keyText simple key ++ path.flatMap (segmentText simple)) {text : String}
    (htext : text.toList =
      (keyText simple key ++ path.flatMap (segmentText simple)).takeWhile (· != '=')) :
    ∃ error, parsePath text = .error error := by
  by_cases hempty : text.isEmpty = true
  · exact ⟨_, by rw [parsePath, if_pos hempty]⟩
  rw [parsePath, if_neg hempty, htext]
  by_cases hkey : '=' ∈ keyText simple key
  · obtain ⟨hmem, hquoted⟩ := keyText_equals hplain hkey
    rw [hquoted, quoted_cut hmem]
    exact parseSegments_quoted_cut hmem
  · rw [takeWhile_pass hkey]
    obtain ⟨c, chars, hc⟩ := List.exists_cons_of_ne_nil (keyText_ne_nil hsimple key)
    obtain ⟨fuel, hfuel⟩ : ∃ n, (keyText simple key ++
        (path.flatMap (segmentText simple)).takeWhile (· != '=')).length = n + 1 := by
      rw [hc]
      exact ⟨_, rfl⟩
    have hlen : ((path.flatMap (segmentText simple)).takeWhile (· != '=')).length ≤ fuel := by
      rw [List.length_append, hc, List.length_cons] at hfuel
      omega
    obtain ⟨error, herror⟩ := parseSegments_cut hsimple hplain hfits
      ((List.mem_append.mp h).resolve_left hkey) hlen
    refine ⟨error, ?_⟩
    rw [hfuel, parseSegments_step (keyText_head hsimple key _) (by rw [hc]; simp)
      (parseSegment_keyText hsimple key (boundary_cut (boundary_flatMap simple path))), herror]
    rfl

end Cut

end ServiceArgs

end Stdiolink.Cli
