/-
  Stdiolink.Cli.ConsoleArgs — the command line, `console/console_args.cpp`.

  A token is a short option, a framework option, or a data argument `--<path>=<literal>`; the
  prefix `arg-` keeps a data argument from being taken for a framework option.  The renderer
  of the codec never writes that prefix, and the path ends at the first equals sign, also
  inside a quoted key.

  Main results:
    * `parseTokens_rendered` — plain arguments arrive as they were rendered;
    * `commandLine_kept_iff` — exactly which commands and objects a command line keeps.
-/
import Stdiolink.Cli.RoundTrip
import Mathlib.Data.List.TakeWhile

namespace Stdiolink.Cli

open Stdiolink.Lib
open Stdiolink.Protocol

/-! ## §1. Reading the command line -/

/-- The long names in `SystemOptionRegistry::options`. -/
def frameworkArgs : List String :=
  ["help", "version", "mode", "profile", "cmd", "export-meta", "export-doc", "guard"]

/-- `SystemOptionRegistry::isFrameworkArg`. -/
def isFrameworkArg (key : String) : Bool := frameworkArgs.contains key

structure ConsoleArgs where
  showHelp : Bool := false
  showVersion : Bool := false
  mode : String := ""
  profile : String := ""
  cmd : String := ""
  exportMeta : Bool := false
  exportMetaPath : String := ""
  exportDocFormat : String := ""
  exportDocPath : String := ""
  rawDataArgs : List RawCliArg := []
  deriving Repr, DecidableEq

namespace ConsoleArgs

/-- `QString::fromUtf8` of an argument, which ends at its first NUL. -/
def fromUtf8 (token : String) : List Char := token.toList.takeWhile (· != '\x00')

/-- `parseExportDoc`. -/
def parseExportDoc (args : ConsoleArgs) (value : List Char) : ConsoleArgs :=
  match value.dropWhile (· != '=') with
  | [] => { args with exportDocFormat := String.ofList value }
  | _ :: path =>
      { args with exportDocFormat := String.ofList (value.takeWhile (· != '=')),
                  exportDocPath := String.ofList path }

/-- `parseFrameworkArg`.  The guard is read elsewhere. -/
def parseFrameworkArg (args : ConsoleArgs) (key value : String) : ConsoleArgs :=
  if key = "mode" then { args with mode := value }
  else if key = "profile" then { args with profile := value }
  else if key = "cmd" then { args with cmd := value }
  else args

/-- `parseDataArg`. -/
def parseDataArg (args : ConsoleArgs) (key value : String) : ConsoleArgs :=
  { args with rawDataArgs := args.rawDataArgs ++ [⟨key, value⟩] }

/-- A key and a value, split at the first equals sign. -/
def parseKeyValue (args : ConsoleArgs) (key value : List Char) : ConsoleArgs :=
  if String.ofList key = "export-meta" then
    { args with exportMeta := true, exportMetaPath := String.ofList value }
  else if String.ofList key = "export-doc" then args.parseExportDoc value
  else if ['a', 'r', 'g', '-'].isPrefixOf key then
    args.parseDataArg (String.ofList (key.drop 4)) (String.ofList value)
  else if isFrameworkArg (String.ofList key) then
    args.parseFrameworkArg (String.ofList key) (String.ofList value)
  else args.parseDataArg (String.ofList key) (String.ofList value)

/-- The part of `parse` for an argument behind its two dashes. -/
def parseLongArg (args : ConsoleArgs) (arg : List Char) : Except String ConsoleArgs :=
  if String.ofList arg = "help" then .ok { args with showHelp := true }
  else if String.ofList arg = "version" then .ok { args with showVersion := true }
  else if String.ofList arg = "export-meta" then .ok { args with exportMeta := true }
  else
    match arg.dropWhile (· != '=') with
    | [] => .error ("Missing value for argument: --" ++ String.ofList arg)
    | _ :: value => .ok (args.parseKeyValue (arg.takeWhile (· != '=')) value)

/-- The short options without a value. -/
def parseShortFlag (args : ConsoleArgs) (arg : String) : Option ConsoleArgs :=
  if arg = "h" then some { args with showHelp := true }
  else if arg = "v" then some { args with showVersion := true }
  else if arg = "E" then some { args with exportMeta := true }
  else none

/-- The short options with a value. -/
def parseShortOption (args : ConsoleArgs) (arg : String) (value : List Char) :
    Except String ConsoleArgs :=
  if arg = "m" then .ok { args with mode := String.ofList value }
  else if arg = "c" then .ok { args with cmd := String.ofList value }
  else if arg = "D" then .ok (args.parseExportDoc value)
  else .error ("Unknown short argument: -" ++ arg)

/-- The loop of `parse`. -/
def parseTokens (args : ConsoleArgs) : List String → Except String ConsoleArgs
  | [] => .ok args
  | token :: rest =>
      match fromUtf8 token with
      | '-' :: '-' :: arg =>
          match args.parseLongArg arg with
          | .error error => .error error
          | .ok args => args.parseTokens rest
      | '-' :: arg =>
          match args.parseShortFlag (String.ofList arg) with
          | some args => args.parseTokens rest
          | none =>
              match rest with
              | [] => .error ("Missing value for argument: -" ++ String.ofList arg)
              | value :: rest =>
                  match args.parseShortOption (String.ofList arg) (fromUtf8 value) with
                  | .error error => .error error
                  | .ok args => args.parseTokens rest
      | arg => .error ("Invalid argument: " ++ String.ofList arg)

/-- What `parse` asks for at the end. -/
def checked (args : ConsoleArgs) : Except String ConsoleArgs :=
  if args.mode = "stdio" then .ok args
  else if args.showHelp || args.showVersion then .ok args
  else if args.exportMeta || !args.exportDocFormat.isEmpty then .ok args
  else if args.mode = "console" && args.cmd.isEmpty then .error "Console mode requires --cmd"
  else if !args.rawDataArgs.isEmpty && args.cmd.isEmpty then
    .error "Data arguments require --cmd"
  else .ok args

/-- `ConsoleArgs::parse`, of the arguments behind the program's name. -/
def parse (tokens : List String) : Except String ConsoleArgs := do
  let args ← ({} : ConsoleArgs).parseTokens tokens
  args.checked

end ConsoleArgs

/-- The name that `ProcessGuardClient::startFromArgs` takes from the arguments: none if it is
missing or empty. -/
def guardName (tokens : List String) : Option String :=
  match (tokens.map ConsoleArgs.fromUtf8).find? fun arg => "--guard=".toList.isPrefixOf arg with
  | none => none
  | some arg => if (arg.drop 8).isEmpty then none else some (String.ofList (arg.drop 8))

/-- The command line of a command and its parameters. -/
def commandLine (qt : JsonQt) (name : String) (params : List (String × Json)) : List String :=
  ("--cmd=" ++ name) :: renderArgs qt params {}

/-- The token of a rendered argument. -/
def argText (arg : RawCliArg) : String := "--" ++ arg.path ++ "=" ++ arg.rawValue

/-! ## §2. One rendered argument -/

/-- An argument whose token is read as it was written. -/
structure Plain (arg : RawCliArg) : Prop where
  pathNul : '\x00' ∉ arg.path.toList
  valueNul : '\x00' ∉ arg.rawValue.toList
  equals : '=' ∉ arg.path.toList
  notEscaped : ¬ ['a', 'r', 'g', '-'] <+: arg.path.toList
  notReserved : arg.path ∉ frameworkArgs

/-- What is left of a rendered argument behind the dashes. -/
def received (arg : RawCliArg) : List Char :=
  (arg.path.toList ++ '=' :: arg.rawValue.toList).takeWhile (· != '\x00')

theorem fromUtf8_argText (arg : RawCliArg) :
    ConsoleArgs.fromUtf8 (argText arg) = '-' :: '-' :: received arg := by
  simp [ConsoleArgs.fromUtf8, argText, received, String.toList_append]

theorem received_plain {arg : RawCliArg} (h : Plain arg) :
    received arg = arg.path.toList ++ '=' :: arg.rawValue.toList := by
  rw [received, List.takeWhile_eq_self_iff]
  intro c hc
  rw [bne_iff_ne]
  intro heq
  subst heq
  obtain hc | hc := List.mem_append.mp hc
  · exact h.pathNul hc
  · obtain hc | hc := List.mem_cons.mp hc
    · cases hc
    · exact h.valueNul hc

namespace ConsoleArgs

/-- The token of a rendered argument has two dashes. -/
theorem parseTokens_argText (args : ConsoleArgs) (arg : RawCliArg) (rest : List String) :
    args.parseTokens (argText arg :: rest) =
      (args.parseLongArg (received arg)).bind fun args => args.parseTokens rest := by
  rw [parseTokens, fromUtf8_argText]
  cases hlong : args.parseLongArg (received arg) with
  | error error =>
    simp only [hlong]
    rfl
  | ok args =>
    simp only [hlong]
    rfl

/-- Up to the first equals sign is a path without one. -/
theorem split_equals {path : List Char} (value : List Char) (h : '=' ∉ path) :
    (path ++ '=' :: value).takeWhile (· != '=') = path ∧
      (path ++ '=' :: value).dropWhile (· != '=') = '=' :: value := by
  have hne : ∀ c ∈ path, (c != '=') = true := by
    intro c hc
    rw [bne_iff_ne]
    intro heq
    exact h (heq ▸ hc)
  constructor
  · rw [List.takeWhile_append_of_pos hne]
    simp
  · rw [List.dropWhile_append_of_pos hne]
    rfl

variable {arg : RawCliArg} {value : List Char}

/-- **A plain argument.**  It becomes a data argument as it was rendered. -/
theorem parseLongArg_plain (args : ConsoleArgs) (h : Plain arg) :
    args.parseLongArg (received arg) = .ok (args.parseDataArg arg.path arg.rawValue) := by
  have hall := received_plain h
  have hflag : ∀ flag : String, '=' ∉ flag.toList → String.ofList (received arg) ≠ flag := by
    intro flag hflag heq
    apply hflag
    rw [← heq, String.toList_ofList, hall]
    simp
  obtain ⟨htake, hdrop⟩ := split_equals arg.rawValue.toList h.equals
  have hprefix : ['a', 'r', 'g', '-'].isPrefixOf arg.path.toList = false := by
    rw [Bool.eq_false_iff, ne_eq, List.isPrefixOf_iff_prefix]
    exact h.notEscaped
  have hreserved : isFrameworkArg arg.path = false := by
    rw [isFrameworkArg, List.contains_eq_mem, decide_eq_false_iff_not]
    exact h.notReserved
  have hname : ∀ name ∈ frameworkArgs, arg.path ≠ name := by
    intro name hmem heq
    exact h.notReserved (heq ▸ hmem)
  rw [parseLongArg, if_neg (hflag "help" (by decide)), if_neg (hflag "version" (by decide)),
    if_neg (hflag "export-meta" (by decide)), hall, hdrop, htake]
  show Except.ok (args.parseKeyValue _ _) = _
  rw [parseKeyValue, String.ofList_toList, if_neg (hname _ (by decide)),
    if_neg (hname _ (by decide)), hprefix, hreserved, String.ofList_toList]
  rfl

/-- An argument that arrives as its own key and value is plain, if the key is neither escaped nor
reserved. -/
theorem plain_of_received {key : List Char}
    (hsplit : key ++ '=' :: value = received ⟨String.ofList key, String.ofList value⟩)
    (hkey : '=' ∉ key) (hescaped : ¬ ['a', 'r', 'g', '-'].isPrefixOf key = true)
    (hreserved : ¬ isFrameworkArg (String.ofList key) = true) :
    Plain ⟨String.ofList key, String.ofList value⟩ := by
  have hall : ∀ c ∈ key ++ '=' :: value, (c != '\x00') = true := by
    rw [← List.takeWhile_eq_self_iff]
    rw [received, String.toList_ofList, String.toList_ofList] at hsplit
    exact hsplit.symm
  refine ⟨?_, ?_, ?_, ?_, ?_⟩
  · rw [String.toList_ofList]
    intro hmem
    simpa using hall '\x00' (by simp [hmem])
  · rw [String.toList_ofList]
    intro hmem
    simpa using hall '\x00' (by simp [hmem])
  · rw [String.toList_ofList]
    exact hkey
  · rw [String.toList_ofList, ← List.isPrefixOf_iff_prefix]
    exact hescaped
  · intro hmem
    apply hreserved
    rw [isFrameworkArg, List.contains_eq_mem, decide_eq_true_eq]
    exact hmem

/-- A key that loses the prefix of escaped keys does not arrive as itself: it got shorter. -/
theorem received_ne_escaped {key : List Char} ( hprefix : ['a', 'r', 'g', '-'] <+: key) :
    key ++ '=' :: value ≠ received ⟨String.ofList (key.drop 4), String.ofList value⟩ := by
  intro hsplit
  obtain ⟨rest, hrest⟩ := hprefix
  have hlen := congrArg List.length hsplit
  have hle := (List.takeWhile_prefix (l := key.drop 4 ++ '=' :: value) (· != '\x00')).length_le
  have hkeylen := congrArg List.length hrest
  rw [received, String.toList_ofList, String.toList_ofList] at hlen
  simp only [List.length_append, List.length_cons, List.length_nil, List.length_drop]
    at hlen hle hkeylen
  omega

/-- At most one data argument is added, and the argument itself only if it is plain. -/
def AddsPlain (arg : RawCliArg) (args args' : ConsoleArgs) : Prop :=
  ∃ l, args'.rawDataArgs = args.rawDataArgs ++ l ∧ l.length ≤ 1 ∧ (l = [arg] → Plain arg)

theorem AddsPlain.of_same {args args' : ConsoleArgs} (h : args'.rawDataArgs = args.rawDataArgs) :
    AddsPlain arg args args' :=
  ⟨[], by rw [h, List.append_nil], by simp, by simp⟩

/-- An argument with a key and a value. -/
theorem parseKeyValue_adds (args : ConsoleArgs) {key : List Char}
    (hsplit : key ++ '=' :: value = received arg) (hkey : '=' ∉ key) :
    AddsPlain arg args (args.parseKeyValue key value) := by
  unfold parseKeyValue
  split
  · exact .of_same rfl
  split
  · apply AddsPlain.of_same
    unfold parseExportDoc
    split <;> rfl
  split
  · rename_i hprefix
    refine ⟨[⟨String.ofList (key.drop 4), String.ofList value⟩], rfl, by simp, ?_⟩
    intro heq
    obtain rfl := (List.cons.inj heq).1
    exact absurd hsplit (received_ne_escaped (List.isPrefixOf_iff_prefix.mp hprefix))
  rename_i hescaped
  split
  · apply AddsPlain.of_same
    unfold parseFrameworkArg
    split
    · rfl
    split
    · rfl
    split <;> rfl
  · rename_i hreserved
    refine ⟨[⟨String.ofList key, String.ofList value⟩], rfl, by simp, ?_⟩
    intro heq
    obtain rfl := (List.cons.inj heq).1
    exact plain_of_received hsplit hkey hescaped hreserved

/-- **Any argument.**  It adds one data argument at most, and itself only if it is plain. -/
theorem parseLongArg_adds {args args' : ConsoleArgs}
    (h : args.parseLongArg (received arg) = .ok args') : AddsPlain arg args args' := by
  unfold parseLongArg at h
  split at h
  · obtain rfl := Except.ok.inj h
    exact .of_same rfl
  split at h
  · obtain rfl := Except.ok.inj h
    exact .of_same rfl
  split at h
  · obtain rfl := Except.ok.inj h
    exact .of_same rfl
  split at h
  · cases h
  · -- the key ends at the first equals sign
    rename_i c value hdrop
    obtain rfl := Except.ok.inj h
    have hc : c = '=' := by
      have hhead := List.head?_dropWhile_not (· != '=') (received arg)
      rw [hdrop] at hhead
      simpa using hhead
    subst hc
    apply parseKeyValue_adds
    · rw [← hdrop, List.takeWhile_append_dropWhile]
    · intro hmem
      have hne := List.mem_takeWhile_imp hmem
      simp at hne

end ConsoleArgs

/-! ## §3. The run over the rendered arguments -/

namespace ConsoleArgs

variable {l : List RawCliArg}

/-- **Plain arguments arrive as they were rendered.** -/
theorem parseTokens_rendered (args : ConsoleArgs) (h : ∀ arg ∈ l, Plain arg) :
    args.parseTokens (l.map argText) = .ok { args with rawDataArgs := args.rawDataArgs ++ l } := by
  induction l generalizing args with
  | nil =>
    rw [List.append_nil]
    rfl
  | cons arg rest ih =>
    rw [List.map_cons, parseTokens_argText, parseLongArg_plain args (h arg (by simp))]
    show (args.parseDataArg arg.path arg.rawValue).parseTokens (rest.map argText) = _
    rw [ih _ fun a ha => h a (List.mem_cons_of_mem _ ha)]
    simp [parseDataArg]

/-- No run adds more data arguments than there are tokens. -/
theorem parseTokens_adds {args args' : ConsoleArgs}
    (h : args.parseTokens (l.map argText) = .ok args') :
    ∃ m, args'.rawDataArgs = args.rawDataArgs ++ m ∧ m.length ≤ l.length := by
  induction l generalizing args with
  | nil =>
    obtain rfl := Except.ok.inj h
    exact ⟨[], by simp, by simp⟩
  | cons arg rest ih =>
    rw [List.map_cons, parseTokens_argText] at h
    cases hlong : args.parseLongArg (received arg) with
    | error error =>
      rw [hlong] at h
      cases h
    | ok args₁ =>
      rw [hlong] at h
      obtain ⟨l, hl, hlen, -⟩ := parseLongArg_adds hlong
      obtain ⟨m, hm, hmlen⟩ := ih h
      refine ⟨l ++ m, by rw [hm, hl, List.append_assoc], ?_⟩
      rw [List.length_append, List.length_cons]
      omega

/-- Where all rendered arguments arrive, each of them is plain. -/
theorem plain_of_parseTokens {args args' : ConsoleArgs}
    (h : args.parseTokens (l.map argText) = .ok args')
    (hall : args'.rawDataArgs = args.rawDataArgs ++ l) : ∀ arg ∈ l, Plain arg := by
  induction l generalizing args with
  | nil =>
    intro arg hmem
    cases hmem
  | cons arg rest ih =>
    rw [List.map_cons, parseTokens_argText] at h
    cases hlong : args.parseLongArg (received arg) with
    | error error =>
      rw [hlong] at h
      cases h
    | ok args₁ =>
      rw [hlong] at h
      obtain ⟨l, hl, hlen, hplain⟩ := parseLongArg_adds hlong
      obtain ⟨m, hm, hmlen⟩ := parseTokens_adds h
      -- the first token has to add its own argument, the others can not make up for it
      have hsplit : l ++ m = arg :: rest := by
        rw [hm, hl, List.append_assoc] at hall
        exact List.append_cancel_left hall
      have hl1 : l = [arg] ∧ m = rest := by
        cases l with
        | nil =>
          have hlen := congrArg List.length hsplit
          simp only [List.nil_append, List.length_cons] at hlen
          omega
        | cons a l =>
          obtain rfl : l = [] := List.eq_nil_of_length_eq_zero (by simpa using hlen)
          obtain ⟨rfl, rfl⟩ := List.cons.inj hsplit
          exact ⟨rfl, rfl⟩
      obtain ⟨rfl, rfl⟩ := hl1
      intro a ha
      obtain rfl | ha := List.mem_cons.mp ha
      · exact hplain rfl
      · exact ih h hm a ha

end ConsoleArgs

/-- The rendered arguments are the tokens of the leaves. -/
theorem renderArgs_tokens (qt : JsonQt) (params : List (String × Json)) :
    renderArgs qt params {} = (renderedArgs qt params).map argText := by
  rw [renderArgs_eq, renderedArgs, List.map_map]
  rfl

/-- The first token gives the command. -/
theorem parseTokens_cmd (name : String) (rest : List String) :
    ({} : ConsoleArgs).parseTokens (("--cmd=" ++ name) :: rest) =
      ({ cmd := String.ofList (ConsoleArgs.fromUtf8 name) } : ConsoleArgs).parseTokens rest := by
  have htoken : ConsoleArgs.fromUtf8 ("--cmd=" ++ name) =
      '-' :: '-' :: 'c' :: 'm' :: 'd' :: '=' :: ConsoleArgs.fromUtf8 name := by
    simp [ConsoleArgs.fromUtf8, String.toList_append]
  have hlong : ({} : ConsoleArgs).parseLongArg
      ('c' :: 'm' :: 'd' :: '=' :: ConsoleArgs.fromUtf8 name) =
      .ok { cmd := String.ofList (ConsoleArgs.fromUtf8 name) } := by
    have hflag : ∀ flag : String, '=' ∉ flag.toList →
        String.ofList ('c' :: 'm' :: 'd' :: '=' :: ConsoleArgs.fromUtf8 name) ≠ flag := by
      intro flag hflag heq
      apply hflag
      rw [← heq, String.toList_ofList]
      simp
    rw [ConsoleArgs.parseLongArg, if_neg (hflag "help" (by decide)),
      if_neg (hflag "version" (by decide)), if_neg (hflag "export-meta" (by decide))]
    rfl
  rw [ConsoleArgs.parseTokens, htoken]
  simp only [hlong]

variable {qt : JsonQt} {params : List (String × Json)} {c : Char}

/-- What `parse` makes of a command line whose arguments all arrive. -/
theorem parse_commandLine {name : String} (h : ∀ arg ∈ renderedArgs qt params, Plain arg) :
    ConsoleArgs.parse (commandLine qt name params) =
      ConsoleArgs.checked { cmd := String.ofList (ConsoleArgs.fromUtf8 name),
                            rawDataArgs := renderedArgs qt params } := by
  rw [ConsoleArgs.parse, commandLine, parseTokens_cmd, renderArgs_tokens,
    ConsoleArgs.parseTokens_rendered _ h]
  rfl

/-- A command line means what it shows: the command and the rendered leaves are what the parser
has at the end, no other option is set, no guard is started, and the leaves parse to the
parameters. -/
def MeansWhatItShows (qt : JsonQt) (name : String) (params : List (String × Json)) : Prop :=
  ConsoleArgs.parse (commandLine qt name params) =
      .ok { cmd := name, rawDataArgs := renderedArgs qt params } ∧
    guardName (commandLine qt name params) = none ∧
    parseArgs qt (renderedArgs qt params) .canonical = .ok params

theorem guardName_commandLine {name : String} (h : ∀ arg ∈ renderedArgs qt params, Plain arg) :
    guardName (commandLine qt name params) = none := by
  have hnone : ((commandLine qt name params).map ConsoleArgs.fromUtf8).find?
      (fun arg => "--guard=".toList.isPrefixOf arg) = none := by
    rw [List.find?_eq_none]
    intro chars hchars
    rw [List.isPrefixOf_iff_prefix]
    obtain ⟨token, htoken, rfl⟩ := List.mem_map.mp hchars
    intro hprefix
    obtain ⟨rest, hrest⟩ := hprefix
    rw [commandLine, renderArgs_tokens] at htoken
    obtain rfl | htoken := List.mem_cons.mp htoken
    · simp [ConsoleArgs.fromUtf8, String.toList_append] at hrest
    · obtain ⟨arg, harg, rfl⟩ := List.mem_map.mp htoken
      have hplain := h arg harg
      -- what stands before the first equals sign is the path
      have hpath : String.ofList ['g', 'u', 'a', 'r', 'd'] = arg.path := by
        have hguard : 'g' :: 'u' :: 'a' :: 'r' :: 'd' :: '=' :: rest =
            arg.path.toList ++ '=' :: arg.rawValue.toList := by
          rw [fromUtf8_argText, received_plain hplain] at hrest
          exact (List.cons.inj (List.cons.inj hrest).2).2
        have htake := (ConsoleArgs.split_equals arg.rawValue.toList hplain.equals).1
        rw [← hguard] at htake
        rw [← String.ofList_toList (s := arg.path), ← htake]
        rfl
      exact hplain.notReserved (hpath ▸ by decide)
  rw [guardName, hnone]

/-! ## §4. Which keys give plain arguments -/

/-- A character that stands in a path only if it is in a key. -/
def KeyChar (c : Char) : Prop := c ∉ ['[', ']', '"', '\\', '.'] ∧ c.isDigit = false

theorem mem_escaped (hc : KeyChar c) (key : List Char) : c ∈ escaped key ↔ c ∈ key := by
  obtain ⟨hc, -⟩ := hc
  simp only [List.mem_cons, List.not_mem_nil, or_false, not_or] at hc
  induction key with
  | nil => rfl
  | cons d key ih =>
    rw [escaped_cons, List.mem_cons]
    by_cases hback : d = '\\'
    · subst hback
      simp [ih, hc]
    · by_cases hquote : d = '"'
      · subst hquote
        simp [ih, hc]
      · simp [ih, hback, hquote]

theorem mem_quoted (hc : KeyChar c) (key : String) :
    c ∈ (quotedForPath key).toList ↔ c ∈ key.toList := by
  rw [quotedForPath_toList, ← mem_escaped hc key.toList]
  obtain ⟨hc, -⟩ := hc
  simp only [List.mem_cons, List.not_mem_nil, or_false, not_or] at hc
  simp [hc]

theorem mem_keyText (hc : KeyChar c) (simple : String → Bool) (key : String) :
    c ∈ keyText simple key ↔ c ∈ key.toList := by
  unfold keyText
  split
  · rfl
  · exact mem_quoted hc key

theorem mem_segmentText (hc : KeyChar c) (simple : String → Bool) {segment : CliPathSegment}
    (hfits : IndexFits segment) :
    c ∈ segmentText simple segment ↔ ∃ key, segment = .key key ∧ c ∈ key.toList := by
  obtain ⟨hc', hdigit⟩ := id hc
  simp only [List.mem_cons, List.not_mem_nil, or_false, not_or] at hc'
  cases segment with
  | key key =>
    unfold segmentText
    dsimp only
    split
    · simp [hc']
    · rw [mem_quoted hc]
      simp
  | index i =>
    obtain ⟨hlo, -⟩ := hfits i rfl
    have hdigits : c ∉ i.repr.toList := by
      intro hmem
      rw [Int.repr_eq_if, if_pos hlo] at hmem
      rw [isDigit_of_mem_repr hmem] at hdigit
      cases hdigit
    simp [segmentText, String.toList_append, hc', hdigits]
  | append => simp [segmentText, hc']

/-- **The text of a path has the characters of its keys.** -/
theorem mem_pathText (hc : KeyChar c) (simple : String → Bool) (key : String) {path : CliPath}
    (hfits : ∀ s ∈ path, IndexFits s) :
    c ∈ keyText simple key ++ path.flatMap (segmentText simple) ↔
      ∃ k, .key k ∈ (.key key :: path : CliPath) ∧ c ∈ k.toList := by
  rw [List.mem_append, mem_keyText hc, List.mem_flatMap]
  constructor
  · intro h
    obtain hmem | ⟨s, hs, hmem⟩ := h
    · exact ⟨key, by simp, hmem⟩
    · obtain ⟨k, rfl, hk⟩ := (mem_segmentText hc simple (hfits s hs)).mp hmem
      exact ⟨k, List.mem_cons_of_mem _ hs, hk⟩
  · intro h
    obtain ⟨k, hk, hmem⟩ := h
    obtain heq | hk := List.mem_cons.mp hk
    · obtain rfl := CliPathSegment.key.inj heq
      exact Or.inl hmem
    · exact Or.inr ⟨_, hk, (mem_segmentText hc simple (hfits _ hk)).mpr ⟨k, rfl, hmem⟩⟩

/-- A rendered path has the characters of its keys. -/
theorem mem_renderPath (hc : KeyChar c) (key : String) {path : CliPath}
    (hfits : ∀ s ∈ path, IndexFits s) :
    c ∈ (renderPath (.key key :: path)).toList ↔
      ∃ k, .key k ∈ (.key key :: path : CliPath) ∧ c ∈ k.toList := by
  rw [renderPath_toList, tailText_eq]
  exact mem_pathText hc isSimpleKey key hfits

/-- A word without dots and brackets is the beginning of a path if it is the beginning of its
first key, which is not quoted then. -/
theorem prefix_renderPath {word : List Char} (hne : word ≠ []) (hword : ∀ c ∈ word, c ≠ '.' ∧ c ≠ '[')
    (key : String) (path : CliPath) :
    word <+: (renderPath (.key key :: path)).toList ↔
      isSimpleKey key = true ∧ word <+: key.toList := by
  rw [renderPath_toList]
  constructor
  · intro h
    unfold headText at h
    split at h
    · rename_i hsimple
      refine ⟨hsimple, ?_⟩
      obtain hprefix | hprefix := List.prefix_or_prefix_of_prefix h (List.prefix_append _ _)
      · exact hprefix
      · -- a shorter key is followed by a dot or a bracket
        obtain ⟨rest, rfl⟩ := hprefix
        have htail := (List.prefix_append_right_inj _).mp h
        cases rest with
        | nil => simp
        | cons c rest =>
          obtain ⟨after, hafter⟩ := htail
          obtain ⟨hdot, hbracket⟩ := hword c (by simp)
          rw [tailText_eq] at hafter
          obtain hc | hc := boundary_flatMap isSimpleKey path c (by rw [← hafter]; rfl)
          · exact absurd hc hdot
          · exact absurd hc hbracket
    · obtain ⟨c, rest, rfl⟩ := List.exists_cons_of_ne_nil hne
      rw [quotedForPath_toList] at h
      obtain ⟨after, hafter⟩ := h
      exact absurd (List.cons.inj hafter).1 (hword c (by simp)).2
  · intro h
    obtain ⟨hsimple, hprefix⟩ := h
    rw [headText, if_pos hsimple]
    exact hprefix.trans (List.prefix_append _ _)

/-- A path is a reserved name if it is a single key and that name. -/
theorem renderPath_mem_frameworkArgs (key : String) (path : CliPath) :
    renderPath (.key key :: path) ∈ frameworkArgs ↔ path = [] ∧ key ∈ frameworkArgs := by
  have hnames : ∀ name ∈ frameworkArgs, isSimpleKey name = true ∧ name.toList ≠ [] ∧
      ∀ c ∈ name.toList, c ≠ '.' ∧ c ≠ '[' := by
    intro name hmem
    have hall : frameworkArgs.all isSimpleKey = true := rfl
    have hsimple := List.all_eq_true.mp hall name hmem
    exact ⟨hsimple, simpleKey_chars hsimple⟩
  constructor
  · intro hmem
    obtain ⟨-, hne, hchars⟩ := hnames _ hmem
    obtain ⟨hsimple, -⟩ := (prefix_renderPath hne hchars key path).mp List.prefix_rfl
    have hhead : headText key = key.toList := by rw [headText, if_pos hsimple]
    cases path with
    | nil =>
      have htext := renderPath_toList key []
      rw [List.flatMap_nil, List.append_nil, hhead, String.toList_inj] at htext
      rw [htext] at hmem
      exact ⟨rfl, hmem⟩
    | cons s path =>
      -- the next segment would put a dot or a bracket in the name
      exfalso
      obtain ⟨c, rest, htext, hc⟩ := segmentText_ne_nil isSimpleKey s
      have hin : c ∈ (renderPath (.key key :: s :: path)).toList := by
        rw [renderPath_toList, tailText_eq, List.flatMap_cons, htext]
        simp
      obtain ⟨hdot, hbracket⟩ := hchars c hin
      obtain hc | hc := hc
      · exact hdot hc
      · exact hbracket hc
  · intro h
    obtain ⟨rfl, hmem⟩ := h
    obtain ⟨hsimple, -⟩ := hnames _ hmem
    have htext := renderPath_toList key []
    rw [List.flatMap_nil, List.append_nil, headText, if_pos hsimple, String.toList_inj] at htext
    rw [htext]
    exact hmem

/-! ## §5. Which command lines mean what they show -/

/-- The command has a name without NUL, if there are parameters at all; no key on the way to a
leaf has an equals sign or a NUL; and no parameter is taken for the escape of a data argument
or, where it is written as one argument, for a framework option. -/
structure Unambiguous (name : String) (params : List (String × Json)) : Prop where
  nameNul : '\x00' ∉ name.toList
  nameGiven : name = "" → params = []
  keyText : ∀ e ∈ memberLeaves params, ∀ key, .key key ∈ e.1 →
    '=' ∉ key.toList ∧ '\x00' ∉ key.toList
  notEscaped : ∀ key v, (key, v) ∈ params → isSimpleKey key = true →
    ¬ ['a', 'r', 'g', '-'] <+: key.toList
  notReserved : ∀ key v, (key, v) ∈ params → key ∈ frameworkArgs → ¬ IsLeaf v

/-- **The arguments are plain exactly if the keys are.** -/
theorem plain_iff (hparams : Held (.obj params))
    (hnul : ∀ e ∈ memberLeaves params, '\x00' ∉ (literalText qt e.2).toList) :
    (∀ arg ∈ renderedArgs qt params, Plain arg) ↔
      (∀ e ∈ memberLeaves params, ∀ key, .key key ∈ e.1 →
        '=' ∉ key.toList ∧ '\x00' ∉ key.toList) ∧
      (∀ key v, (key, v) ∈ params → isSimpleKey key = true →
        ¬ ['a', 'r', 'g', '-'] <+: key.toList) ∧
      ∀ key v, (key, v) ∈ params → key ∈ frameworkArgs → ¬ IsLeaf v := by
  obtain ⟨hheld⟩ : Nonempty (∀ key v, (key, v) ∈ params → Held v) := by
    cases hparams with
    | obj _ hheld => exact ⟨hheld⟩
  have hequals : KeyChar '=' := by
    unfold KeyChar
    decide
  have hzero : KeyChar '\x00' := by
    unfold KeyChar
    decide
  constructor
  · intro h
    have hplain : ∀ e ∈ memberLeaves params, Plain ⟨renderPath e.1, literalText qt e.2⟩ := by
      intro e he
      exact h _ (List.mem_map.mpr ⟨e, he, rfl⟩)
    refine ⟨?_, ?_, ?_⟩
    · intro e he key hkey
      have hpe := hplain e he
      obtain ⟨k, v, e', hmem, he', rfl⟩ := mem_memberLeaves.mp he
      have hfits := indexFits_leaves (hheld k v hmem) e' he'
      constructor
      · intro hc
        exact hpe.equals ((mem_renderPath hequals k hfits).mpr ⟨key, hkey, hc⟩)
      · intro hc
        exact hpe.pathNul ((mem_renderPath hzero k hfits).mpr ⟨key, hkey, hc⟩)
    · intro key v hmem hsimple hprefix
      obtain ⟨e', he'⟩ := List.exists_mem_of_ne_nil _ (leaves_ne_nil v)
      have hpe := hplain _ (mem_memberLeaves.mpr ⟨key, v, e', hmem, he', rfl⟩)
      exact hpe.notEscaped
        ((prefix_renderPath (by simp) (by simp) key e'.1).mpr ⟨hsimple, hprefix⟩)
    · intro key v hmem hreserved hleaf
      have hself : ([], v) ∈ leaves v := by
        rw [leaves_eq_self hleaf]
        simp
      have hpe := hplain _ (mem_memberLeaves.mpr ⟨key, v, _, hmem, hself, rfl⟩)
      exact hpe.notReserved ((renderPath_mem_frameworkArgs key []).mpr ⟨rfl, hreserved⟩)
  · intro h
    obtain ⟨hkeys, hescaped, hreserved⟩ := h
    intro arg harg
    obtain ⟨e, he, rfl⟩ := List.mem_map.mp harg
    have hchars := hkeys e he
    have hliteral := hnul e he
    obtain ⟨k, v, e', hmem, he', rfl⟩ := mem_memberLeaves.mp he
    have hfits := indexFits_leaves (hheld k v hmem) e' he'
    refine ⟨?_, hliteral, ?_, ?_, ?_⟩
    · intro hc
      obtain ⟨key, hkey, hin⟩ := (mem_renderPath hzero k hfits).mp hc
      exact (hchars key hkey).2 hin
    · intro hc
      obtain ⟨key, hkey, hin⟩ := (mem_renderPath hequals k hfits).mp hc
      exact (hchars key hkey).1 hin
    · intro hprefix
      obtain ⟨hsimple, hkey⟩ := (prefix_renderPath (by simp) (by simp) k e'.1).mp hprefix
      exact hescaped k v hmem hsimple hkey
    · intro hname
      obtain ⟨hnil, hkey⟩ := (renderPath_mem_frameworkArgs k e'.1).mp hname
      have hself : ([], e'.2) ∈ leaves v := by
        rw [← hnil]
        exact he'
      exact hreserved k v hmem hkey (isLeaf_of_nil_path (hheld k v hmem) hself)

/-- No data argument, no parameter. -/
theorem renderedArgs_eq_nil : renderedArgs qt params = [] ↔ params = [] := by
  rw [renderedArgs, List.map_eq_nil_iff]
  constructor
  · intro h
    cases params with
    | nil => rfl
    | cons member rest =>
      obtain ⟨key, v⟩ := member
      rw [memberLeaves, List.append_eq_nil_iff, List.map_eq_nil_iff] at h
      exact absurd h.1 (leaves_ne_nil v)
  · intro h
    rw [h]
    rfl

/-- The name arrives and the checks at the end pass. -/
theorem checked_eq_ok_iff (name : String) (raw : List RawCliArg) :
    ConsoleArgs.checked { cmd := String.ofList (ConsoleArgs.fromUtf8 name), rawDataArgs := raw } =
        .ok { cmd := name, rawDataArgs := raw } ↔
      '\x00' ∉ name.toList ∧ (name = "" → raw = []) := by
  have hname : String.ofList (ConsoleArgs.fromUtf8 name) = name ↔ '\x00' ∉ name.toList := by
    rw [← String.toList_inj, String.toList_ofList, ConsoleArgs.fromUtf8,
      List.takeWhile_eq_self_iff]
    constructor
    · intro h hmem
      simpa using h _ hmem
    · intro h c hc
      rw [bne_iff_ne]
      intro heq
      exact h (heq ▸ hc)
  have hchecked : ∀ cmd : String,
      ConsoleArgs.checked { cmd := cmd, rawDataArgs := raw } =
        if !raw.isEmpty && cmd.isEmpty then .error "Data arguments require --cmd"
        else .ok { cmd := cmd, rawDataArgs := raw } := by
    intro cmd
    simp [ConsoleArgs.checked]
  rw [hchecked]
  split
  · rename_i hempty
    refine iff_of_false (by simp) ?_
    intro h
    obtain ⟨hnul, hgiven⟩ := h
    rw [hname.mpr hnul] at hempty
    simp at hempty
    exact hempty.1 (hgiven hempty.2)
  · rename_i hsome
    constructor
    · intro h
      have hcmd := congrArg ConsoleArgs.cmd (Except.ok.inj h)
      dsimp only at hcmd
      rw [hcmd] at hsome
      refine ⟨hname.mp hcmd, ?_⟩
      intro hnone
      subst hnone
      simpa using hsome
    · intro h
      rw [hname.mpr h.1]

/-- The checks at the end change nothing. -/
theorem checked_rawDataArgs {args args' : ConsoleArgs} (h : args.checked = .ok args') :
    args.rawDataArgs = args'.rawDataArgs := by
  unfold ConsoleArgs.checked at h
  repeat' split at h
  all_goals cases h <;> rfl

/-- **Which command lines mean what they show.**  Exactly those with unambiguous names, where Qt
reads back what it writes and writes no NUL. -/
theorem commandLine_kept_iff (qt : JsonQt) (name : String) (params : List (String × Json))
    (hparams : Held (.obj params)) (hqt : ∀ e ∈ memberLeaves params, ReadsBack qt e.2)
    (hnul : ∀ e ∈ memberLeaves params, '\x00' ∉ (qt.toJson [e.2]).toList) :
    MeansWhatItShows qt name params ↔ Unambiguous name params := by
  have hliteral : ∀ e ∈ memberLeaves params, '\x00' ∉ (literalText qt e.2).toList := by
    intro e he hmem
    apply hnul e he
    have hleaf : IsLeaf e.2 := by
      obtain ⟨key, v, e', hkv, he', rfl⟩ := mem_memberLeaves.mp he
      cases hparams with
      | obj _ hheld => exact isLeaf_of_mem (hheld key v hkv) e' he'
    rw [toJson_literalText hleaf (hqt e he)]
    simp [String.toList_append, hmem]
  have hplain := plain_iff hparams hliteral
  constructor
  · intro h
    obtain ⟨hparse, -, -⟩ := h
    -- all arguments arrive, so they are plain
    have hall : ∀ arg ∈ renderedArgs qt params, Plain arg := by
      rw [ConsoleArgs.parse, commandLine, parseTokens_cmd, renderArgs_tokens] at hparse
      generalize hstart : ({ cmd := String.ofList (ConsoleArgs.fromUtf8 name) } : ConsoleArgs) =
        start at hparse
      cases htokens : start.parseTokens ((renderedArgs qt params).map argText) with
      | error error =>
        rw [htokens] at hparse
        cases hparse
      | ok args =>
        rw [htokens] at hparse
        have hraw := checked_rawDataArgs hparse
        apply ConsoleArgs.plain_of_parseTokens htokens
        rw [← hstart, hraw, List.nil_append]
    rw [parse_commandLine hall, checked_eq_ok_iff, renderedArgs_eq_nil] at hparse
    obtain ⟨hkeys, hescaped, hreserved⟩ := hplain.mp hall
    exact ⟨hparse.1, hparse.2, hkeys, hescaped, hreserved⟩
  · intro h
    have hall := hplain.mpr ⟨h.keyText, h.notEscaped, h.notReserved⟩
    refine ⟨?_, guardName_commandLine hall, (renderArgs_roundTrip qt params hparams hqt).2⟩
    rw [parse_commandLine hall, checked_eq_ok_iff, renderedArgs_eq_nil]
    exact ⟨h.nameNul, h.nameGiven⟩

/-- The command line of a nested object. -/
theorem nested_commandLine_kept : MeansWhatItShows (tableQt nestedTexts) "run" nestedData := by
  have hleaves : memberLeaves nestedData = [([.key "", .key "a.b"], .arr []),
      ([.key "k", .index 0], .null), ([.key "k", .index 1], .bool true)] := rfl
  refine (commandLine_kept_iff (tableQt nestedTexts) "run" nestedData nestedData_held
    nestedTexts_readBack ?_).mpr ⟨by decide, by simp, ?_, ?_, ?_⟩
  · rw [hleaves]
    decide
  · rw [hleaves]
    simp
  · intro key v hmem
    simp only [nestedData, List.mem_cons, Prod.mk.injEq, List.not_mem_nil, or_false] at hmem
    obtain ⟨rfl, -⟩ | ⟨rfl, -⟩ := hmem <;> decide
  · intro key v hmem hreserved
    simp only [nestedData, List.mem_cons, Prod.mk.injEq, List.not_mem_nil, or_false] at hmem
    obtain ⟨rfl, -⟩ | ⟨rfl, -⟩ := hmem <;> exact absurd hreserved (by decide)

/-- The text of a mode that is a parameter. -/
def modeTexts : List (Json × String) := [(.str "frame", "[\"frame\"]")]

/-- A parameter that is called mode is taken for the mode of the program, and is missing in the
data. -/
theorem mode_parameter_lost :
    ConsoleArgs.parse (commandLine (tableQt modeTexts) "scan" [("mode", .str "frame")]) =
      .ok { cmd := "scan", mode := "\"frame\"" } ∧
    ¬ MeansWhatItShows (tableQt modeTexts) "scan" [("mode", .str "frame")] := by
  have hparse : ConsoleArgs.parse
      (commandLine (tableQt modeTexts) "scan" [("mode", .str "frame")]) =
      .ok { cmd := "scan", mode := "\"frame\"" } := by
    rfl
  refine ⟨hparse, ?_⟩
  intro h
  rw [MeansWhatItShows, hparse] at h
  have hmode := congrArg ConsoleArgs.mode (Except.ok.inj h.1)
  revert hmode
  decide

end Stdiolink.Cli
