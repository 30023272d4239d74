/-
  Stdiolink.Driver.DriverCore — the two front ends of a driver, `driver/driver_core.cpp`.

  A request arrives as a line on stdin or as a command line.  Both fill in the defaults of the
  command, check the parameters and call the handler.  What a front end does is the list of
  its calls: of the handler, and of the responder.

  Main results:
    * `rejected_of_bad`   — a wrong type survives the filling, so validation refuses it;
    * `frontEnds_agree`   — where the command line can carry the object, both do the same.
-/
import Stdiolink.Cli.ConsoleArgs
import Stdiolink.Cli.SchemaParser
import Stdiolink.Protocol.Jsonl

namespace Stdiolink.Driver

open Stdiolink.Protocol
open Stdiolink.Meta
open Stdiolink.Cli
open Stdiolink.Cli.CliSchemaParser

/-! ## §1. The driver -/

/-- A call that a front end makes: of the handler, of `done` or `error` of the responder, or of
`printHelp`. -/
inductive Call where
  | handle (cmd : String) (data : Json)
  | done (code : Int) (payload : Json)
  | error (code : Int) (payload : List (String × Json))
  | help

/-- `IMetaCommandHandler`: the commands of the metadata, its JSON, and whether parameters are
validated automatically. -/
structure MetaHandler where
  commands : List CommandMeta
  metaJson : Json
  autoValidateParams : Bool := true

/-- `DriverCore`, with a handler that may have metadata. -/
structure DriverCore where
  metaHandler : Option MetaHandler

/-- What the driver uses of Qt for a line. -/
structure LineQt where
  fromJson : FromJson
  fromUtf8 : List UInt8 → String

/-- `DriverMeta::findCommand`. -/
def MetaHandler.findCommand (handler : MetaHandler) (name : String) : Option CommandMeta :=
  handler.commands.find? fun cmd => cmd.name = name

/-- `QByteArray::trimmed().isEmpty()`. -/
def isBlank (line : List UInt8) : Bool := line.all fun b => b = 32 || 9 ≤ b && b ≤ 13

namespace DriverCore

/-- `handleMetaCommand`: the calls for a meta command. -/
def handleMetaCommand (core : DriverCore) (cmd : String) : Option (List Call) :=
  if !"meta.".toList.isPrefixOf cmd.toList then none
  else
    match core.metaHandler with
    | none =>
        some [.error 501 [("message", .str "This driver does not support meta commands"),
          ("name", .str "MetaNotSupported")]]
    | some handler =>
        if cmd = "meta.describe" then some [.done 0 handler.metaJson]
        else some [.error 404 [("message", .str ("Unknown meta command: " ++ cmd)),
          ("name", .str "CommandNotFound")]]

/-- The command whose parameters are validated. -/
def validatedCommand (core : DriverCore) (cmd : String) : Option CommandMeta :=
  match core.metaHandler with
  | none => none
  | some handler => if handler.autoValidateParams then handler.findCommand cmd else none

/-- The error of a failed validation. -/
def validationFailed (result : ValidationResult) : Call :=
  .error 400 [("message", .str result.text), ("name", .str "ValidationFailed")]

/-- `processOneLine`: the result and the calls. -/
def processOneLine (core : DriverCore) (vqt : ValidatorQt) (lqt : LineQt) (line : List UInt8) :
    Bool × List Call :=
  if isBlank line then (true, [])
  else
    match parseRequest lqt.fromJson line with
    | none =>
        (false, [.error 1000 [("message", .str "invalid request format"),
          ("raw", .str (lqt.fromUtf8 line))]])
    | some req =>
        match core.handleMetaCommand req.cmd with
        | some calls => (true, calls)
        | none =>
            match core.validatedCommand req.cmd with
            | none => (true, [.handle req.cmd req.data])
            | some cmdMeta =>
                let filledData := fillDefaults req.data.toObject cmdMeta.params
                let result := validateParams vqt (.obj filledData) cmdMeta true
                if !result.valid then (false, [validationFailed result])
                else (true, [.handle req.cmd (.obj filledData)])

/-- `buildConsoleData`. -/
def buildConsoleData (sqt : SchemaQt) (rawArgs : List RawCliArg) (cmdMeta : Option CommandMeta) :
    Except CliSchemaError (List (String × Json)) :=
  CliSchemaParser.parseArgs sqt rawArgs
    (match cmdMeta with
      | none => []
      | some cmdMeta => cmdMeta.params)

/-- `runConsoleMode`, the event loop with the one command. -/
def runConsoleMode (core : DriverCore) (vqt : ValidatorQt) (sqt : SchemaQt) (args : ConsoleArgs) :
    List Call :=
  if args.cmd.isEmpty then [.help]
  else
    let cmdMeta := core.metaHandler.bind fun handler => handler.findCommand args.cmd
    match (if args.rawDataArgs.isEmpty then .ok []
      else buildConsoleData sqt args.rawDataArgs cmdMeta) with
    | .error buildError =>
        [.error 400 [("message", .str buildError.error), ("name", .str "CliParseFailed")]]
    | .ok consoleData =>
        match core.handleMetaCommand args.cmd with
        | some calls => calls
        | none =>
            match core.validatedCommand args.cmd with
            | none => [.handle args.cmd (.obj consoleData)]
            | some cmdMeta =>
                let filledData := fillDefaults consoleData cmdMeta.params
                let result := validateParams vqt (.obj filledData) cmdMeta true
                if !result.valid then [validationFailed result]
                else [.handle args.cmd (.obj filledData)]

end DriverCore

/-! ## §2. Both front ends -/

/-- Both call the handler once with the same command and data, or both answer one error 400 and do
not call it. -/
inductive SameOutcome : List Call → List Call → Prop where
  | handled (cmd : String) (data : Json) : SameOutcome [.handle cmd data] [.handle cmd data]
  | refused (payload payload' : List (String × Json)) :
      SameOutcome [.error 400 payload] [.error 400 payload']

/-- The arguments of a command whose data are rendered. -/
def renderedCommand (sqt : SchemaQt) (cmd : String) (d : List (String × Json)) : ConsoleArgs :=
  { cmd := cmd, rawDataArgs := renderedArgs sqt.toJsonQt d }

/-- A wrong type survives the filling, so validation refuses it. -/
theorem rejected_of_bad (vqt : ValidatorQt) {params : List FieldMeta} {d : List (String × Json)}
    (hd : Held (.obj d)) (hclash : ¬ Clash params d) {g : FieldMeta} {w : Json}
    (hreached : Reached params d g w) (hbad : ¬ TypeChecked g.type w) :
    (validateObject vqt (fillDefaults d params) params [] true).valid = false := by
  by_contra hvalid
  rw [Bool.not_eq_false] at hvalid
  obtain ⟨key, v, hmem, hroute⟩ := hreached
  cases hd with
  | obj hsorted hheld =>
    cases hf : findFieldByName params key with
    | none =>
      rw [hf] at hroute
      cases hroute
    | some f =>
      obtain ⟨hmemf, rfl⟩ := mem_of_findFieldByName hf
      have hplace := hroute.place (hheld _ v hmem) f hf
      -- the value is still at its place in the filled object
      have hadds := onlyAdds_of_not_clash params d d hclash (OnlyAdds.refl _)
      obtain ⟨v', hv', hkept⟩ := onlyAdds_obj.mp hadds _ v (hsorted.lookup_of_mem hmem)
      obtain ⟨w', hplace', hkept'⟩ := hplace.onlyAdds hkept
      have hfield := ((validateObject_valid vqt _ params [] true).mp hvalid).1 f hmemf
      have hchecked := (validateField_iff vqt f v').mp (hfield.present v' hv') g w' hplace'
      exact hbad (hchecked.type.of_onlyAdds hkept')

namespace DriverCore

/-- What both front ends do with the data of a command that is no meta command. -/
def answer (core : DriverCore) (vqt : ValidatorQt) (cmd : String) (data : Json) : List Call :=
  match core.validatedCommand cmd with
  | none => [.handle cmd data]
  | some cmdMeta =>
      let filledData := fillDefaults data.toObject cmdMeta.params
      let result := validateParams vqt (.obj filledData) cmdMeta true
      if !result.valid then [validationFailed result] else [.handle cmd (.obj filledData)]

section FrontEnds

variable {core : DriverCore} {vqt : ValidatorQt} {cmd : String}

theorem handleMetaCommand_none (h : ¬ "meta.".toList <+: cmd.toList) :
    core.handleMetaCommand cmd = none := by
  have hprefix : "meta.".toList.isPrefixOf cmd.toList = false := by
    rw [Bool.eq_false_iff, ne_eq, List.isPrefixOf_iff_prefix]
    exact h
  rw [handleMetaCommand, hprefix]
  rfl

/-- A command is answered with one call, of the handler or an error 400. -/
theorem answer_same (data : Json) : SameOutcome (core.answer vqt cmd data)
    (core.answer vqt cmd data) := by
  unfold answer
  cases core.validatedCommand cmd with
  | none => exact .handled cmd data
  | some cmdMeta =>
    dsimp only
    split
    · exact .refused _ _
    · exact .handled cmd _

/-- Parameters that are refused are answered with an error 400. -/
theorem answer_refused {cmdMeta : CommandMeta} (hcmd : core.validatedCommand cmd = some cmdMeta)
    {data : Json} (hrefused : (validateParams vqt
      (.obj (fillDefaults data.toObject cmdMeta.params)) cmdMeta true).valid = false) :
    ∃ payload, core.answer vqt cmd data = [.error 400 payload] := by
  unfold answer
  rw [hcmd]
  dsimp only
  rw [hrefused]
  exact ⟨_, rfl⟩

/-- The line of a request, once it is parsed. -/
theorem processOneLine_answer {lqt : LineQt} {line : List UInt8} {data : Json}
    (hmeta : ¬ "meta.".toList <+: cmd.toList) (hblank : isBlank line = false)
    (hline : lqt.fromJson line = some (.obj [("cmd", .str cmd), ("data", data)])) :
    (core.processOneLine vqt lqt line).2 = core.answer vqt cmd data := by
  have hparse : parseRequest lqt.fromJson line = some ⟨cmd, data⟩ := by
    unfold parseRequest
    rw [hline]
    rfl
  unfold processOneLine answer
  rw [hblank, hparse, if_neg (by simp)]
  dsimp only
  rw [handleMetaCommand_none hmeta]
  dsimp only
  cases core.validatedCommand cmd with
  | none => rfl
  | some cmdMeta =>
    dsimp only
    split
    · rfl
    · rfl

/-- Without arguments nothing is built, which is what the parser would give. -/
theorem buildConsoleData_empty (sqt : SchemaQt) (rawArgs : List RawCliArg)
    (cmdMeta : Option CommandMeta) :
    (if rawArgs.isEmpty then .ok [] else buildConsoleData sqt rawArgs cmdMeta) =
      buildConsoleData sqt rawArgs cmdMeta := by
  cases rawArgs with
  | nil => rfl
  | cons arg rest => rfl

/-- The data of a command line, once they are built. -/
theorem runConsoleMode_answer {sqt : SchemaQt} {args : ConsoleArgs} {data : List (String × Json)}
    (hmeta : ¬ "meta.".toList <+: args.cmd.toList) (hne : args.cmd.isEmpty = false)
    (hbuild : buildConsoleData sqt args.rawDataArgs
      (core.metaHandler.bind fun handler => handler.findCommand args.cmd) = .ok data) :
    core.runConsoleMode vqt sqt args = core.answer vqt args.cmd (.obj data) := by
  unfold runConsoleMode answer
  rw [hne, if_neg (by simp)]
  dsimp only
  rw [buildConsoleData_empty, hbuild]
  dsimp only
  rw [handleMetaCommand_none hmeta]
  rfl

/-- Arguments that cannot be read are answered with an error 400. -/
theorem runConsoleMode_refused {sqt : SchemaQt} {args : ConsoleArgs} {error : CliSchemaError}
    (hne : args.cmd.isEmpty = false) (hbuild : buildConsoleData sqt args.rawDataArgs
      (core.metaHandler.bind fun handler => handler.findCommand args.cmd) = .error error) :
    ∃ payload, core.runConsoleMode vqt sqt args = [.error 400 payload] := by
  unfold runConsoleMode
  rw [hne, if_neg (by simp)]
  dsimp only
  rw [buildConsoleData_empty, hbuild]
  exact ⟨_, rfl⟩

end FrontEnds

/-- A declaration under which the console reads the object as it is: every value that is read is
kept, and a scalar at a text is a text. -/
structure ReadAsIs (params : List FieldMeta) (d : List (String × Json)) : Prop where
  noClash : ¬ Clash params d
  kept : ∀ g w, Reached params d g w → Kept g w
  textual : ∀ g w, Reached params d g w → Textual g w

/-- Without declarations nothing is reached. -/
theorem not_reached_nil {d : List (String × Json)} {g : FieldMeta} {w : Json} :
    ¬ Reached [] d g w := by
  intro h
  obtain ⟨key, v, -, hroute⟩ := h
  cases hroute

/-- **Both front ends agree** on an object that the command line can carry, and data that are no
object are refused where the defaults alone are. -/
theorem frontEnds_agree (core : DriverCore) (handler : MetaHandler) (vqt : ValidatorQt)
    (sqt : SchemaQt) (lqt : LineQt) (cmd : String) (hcore : core.metaHandler = some handler)
    (hauto : handler.autoValidateParams = true) (hmeta : ¬ "meta.".toList <+: cmd.toList) :
    (∀ line d, cmd ≠ "" → isBlank line = false →
      lqt.fromJson line = some (.obj [("cmd", .str cmd), ("data", .obj d)]) →
      Held (.obj d) → (∀ e ∈ memberLeaves d, SchemaReads sqt e.2) →
      (∀ cmdMeta, handler.findCommand cmd = some cmdMeta → ReadAsIs cmdMeta.params d) →
        SameOutcome (core.processOneLine vqt lqt line).2
          (core.runConsoleMode vqt sqt (renderedCommand sqt cmd d))) ∧
    (∀ line data cmdMeta, isBlank line = false →
      lqt.fromJson line = some (.obj [("cmd", .str cmd), ("data", data)]) →
      (∀ m, data ≠ .obj m) → handler.findCommand cmd = some cmdMeta →
      (validateParams vqt (.obj (fillDefaults [] cmdMeta.params)) cmdMeta true).valid = false →
        ∃ payload, (core.processOneLine vqt lqt line).2 = [.error 400 payload]) := by
  have hvalidated : core.validatedCommand cmd = handler.findCommand cmd := by
    unfold validatedCommand
    rw [hcore]
    dsimp only
    rw [if_pos hauto]
  constructor
  · intro line d hne hblank hline hd hqt hread
    have hname : (renderedCommand sqt cmd d).cmd.isEmpty = false := by
      simpa [renderedCommand] using hne
    have hfind : (core.metaHandler.bind fun h => h.findCommand cmd) = handler.findCommand cmd := by
      rw [hcore]
      rfl
    rw [processOneLine_answer hmeta hblank hline]
    -- the parameters that the parser follows, none for a command without metadata
    cases hcmd : handler.findCommand cmd with
    | none =>
      have hbuild : buildConsoleData sqt (renderedCommand sqt cmd d).rawDataArgs none = .ok d := by
        obtain hok | ⟨-, g, w, hreached, -⟩ :=
          parseArgs_or_bad hd hqt fun g w h => absurd h not_reached_nil
        · exact hok
        · exact absurd hreached not_reached_nil
      rw [runConsoleMode_answer hmeta hname (by rw [← hbuild, ← hcmd, ← hfind]; rfl)]
      exact answer_same _
    | some cmdMeta =>
      have hasIs := hread cmdMeta hcmd
      have hbuild : buildConsoleData sqt (renderedCommand sqt cmd d).rawDataArgs
          (core.metaHandler.bind fun h => h.findCommand cmd) =
          parseArgs sqt (renderedArgs sqt.toJsonQt d) cmdMeta.params := by
        rw [hfind, hcmd]
        rfl
      obtain hok | ⟨⟨error, herror⟩, g, w, hreached, hbad⟩ :=
        parseArgs_or_bad hd hqt fun g w h => ⟨hasIs.kept g w h, hasIs.textual g w h⟩
      · rw [runConsoleMode_answer hmeta hname (hbuild.trans hok)]
        exact answer_same _
      · -- what cannot be read has a wrong type, which the validator refuses
        have hrefused := rejected_of_bad vqt hd hasIs.noClash hreached hbad
        obtain ⟨payload, hstdio⟩ :=
          @answer_refused core vqt cmd cmdMeta (hvalidated.trans hcmd) (.obj d) hrefused
        obtain ⟨payload', hconsole⟩ := @runConsoleMode_refused core vqt sqt
          (renderedCommand sqt cmd d) error hname (hbuild.trans herror)
        rw [hstdio, hconsole]
        exact .refused payload payload'
  · intro line data cmdMeta hblank hline hdata hcmd hrefused
    rw [processOneLine_answer hmeta hblank hline]
    apply answer_refused (hvalidated.trans hcmd)
    have hempty : data.toObject = [] := by
      cases data with
      | obj m => exact absurd rfl (hdata m)
      | _ => rfl
    rw [hempty]
    exact hrefused

/-- The bytes of an ASCII text. -/
def ascii (text : String) : List UInt8 := text.toList.map fun c => UInt8.ofNat c.toNat

/-- A Qt that knows some lines. -/
def lineQt (table : List (String × Json)) : LineQt where
  fromJson line := (table.find? fun entry => ascii entry.1 = line).map Prod.snd
  fromUtf8 line := String.ofList (line.map fun b => Char.ofNat b.toNat)

/-- A driver with one command "run" and one parameter. -/
def runHandler (field : FieldMeta) : MetaHandler :=
  { commands := [{ name := "run", params := [field] }], metaJson := .null }

/-- A required int64. -/
def countField : FieldMeta := { name := "n", type := .int64, required := true }

/-- A line with a count, and one whose data are a number. -/
def countLines : LineQt :=
  lineQt [("\x7b\"cmd\":\"run\",\"data\":\x7b\"n\":7\x7d\x7d",
      .obj [("cmd", .str "run"), ("data", .obj [("n", .num 7)])]),
    ("\x7b\"cmd\":\"run\",\"data\":7\x7d", .obj [("cmd", .str "run"), ("data", .num 7)])]

/-- A count is handled the same way; a number for the data is refused. -/
theorem count_agrees :
    SameOutcome
      (processOneLine ⟨some (runHandler countField)⟩ plainQt countLines
        (ascii "\x7b\"cmd\":\"run\",\"data\":\x7b\"n\":7\x7d\x7d")).2
      (runConsoleMode ⟨some (runHandler countField)⟩ plainQt sevenQt
        (renderedCommand sevenQt "run" [("n", .num 7)])) ∧
    ∃ payload, (processOneLine ⟨some (runHandler countField)⟩ plainQt countLines
      (ascii "\x7b\"cmd\":\"run\",\"data\":7\x7d")).2 = [.error 400 payload] := by
  have hagree := frontEnds_agree ⟨some (runHandler countField)⟩ (runHandler countField) plainQt
    sevenQt countLines "run" rfl rfl (by decide)
  have hcommand : ∀ cmdMeta, (runHandler countField).findCommand "run" = some cmdMeta →
      cmdMeta = { name := "run", params := [countField] } :=
    fun cmdMeta h => (Option.some.inj h).symm
  constructor
  · refine hagree.1 _ [("n", .num 7)] (by decide) (by decide +kernel) (by decide +kernel) ?_ ?_ ?_
    · refine .obj (by simp [Json.Sorted]) ?_
      intro key v hmem
      obtain ⟨-, rfl⟩ := Prod.mk.inj (List.mem_singleton.mp hmem)
      exact .num 7
    · intro e he
      have hleaves : memberLeaves [("n", .num 7)] = [([.key "n"], .num 7)] := rfl
      rw [hleaves] at he
      rw [List.mem_singleton.mp he]
      exact sevenQt_reads
    · intro cmdMeta hcmd
      rw [hcommand cmdMeta hcmd]
      have hreached : ∀ g w, Reached [countField] [("n", .num 7)] g w →
          g = countField ∧ w = .num 7 := by
        intro g w h
        obtain ⟨key, v, hmem, hroute⟩ := h
        obtain ⟨rfl, rfl⟩ := Prod.mk.inj (List.mem_singleton.mp hmem)
        have hfield : findFieldByName [countField] "n" = some countField := rfl
        rw [hfield] at hroute
        cases hroute
        exact ⟨rfl, rfl⟩
      refine ⟨?_, ?_, ?_⟩
      · intro hclash
        cases hclash with
        | here hmem hnested _ _ =>
          rw [List.mem_singleton.mp hmem] at hnested
          cases hnested
        | inside hmem hnested _ _ =>
          rw [List.mem_singleton.mp hmem] at hnested
          cases hnested
      · intro g w h
        obtain ⟨rfl, rfl⟩ := hreached g w h
        refine ⟨?_, ?_, fun _ _ => ⟨7, rfl, by decide⟩⟩
        · intro htype
          cases htype
        · intro htype
          cases htype
      · intro g w h
        obtain ⟨rfl, rfl⟩ := hreached g w h
        intro htype
        obtain htype | htype := htype <;> cases htype
  · exact hagree.2 _ (.num 7) { name := "run", params := [countField] } (by decide +kernel)
      (by decide +kernel) (by simp) rfl (by decide +kernel)

/-- A text. -/
def textField : FieldMeta := { name := "name", type := .string }

/-- A Qt that knows the texts of five and of the text of five. -/
def fiveQt : SchemaQt :=
  { tableQt [(.num 5, "[5]"), (.str "5", "[\"5\"]")] with
    toDouble := fun text => if text = ['5'] then some 5 else none }

/-- A number where a text should be is refused on a line and handled as a text on a command
line. -/
theorem number_for_text_differs :
    let core : DriverCore := ⟨some (runHandler textField)⟩
    let line := "\x7b\"cmd\":\"run\",\"data\":\x7b\"name\":5\x7d\x7d"
    let lines := lineQt [(line, .obj [("cmd", .str "run"), ("data", .obj [("name", .num 5)])])]
    let stdio := (processOneLine core plainQt lines (ascii line)).2
    let console := runConsoleMode core plainQt fiveQt
      (renderedCommand fiveQt "run" [("name", .num 5)])
    (∃ payload, stdio = [.error 400 payload]) ∧
      console = [.handle "run" (.obj [("name", .str "5")])] ∧ ¬ SameOutcome stdio console := by
  intro core line lines stdio console
  have hstdio : ∃ payload, stdio = [.error 400 payload] := by
    have hanswer : stdio = core.answer plainQt "run" (.obj [("name", .num 5)]) :=
      processOneLine_answer (by decide) (by decide +kernel) (by decide +kernel)
    rw [hanswer]
    exact @answer_refused core plainQt "run" { name := "run", params := [textField] } rfl _
      (by decide +kernel)
  have hconsole : console = [.handle "run" (.obj [("name", .str "5")])] := by rfl
  refine ⟨hstdio, hconsole, ?_⟩
  obtain ⟨payload, hstdio⟩ := hstdio
  rw [hstdio, hconsole]
  intro hsame
  cases hsame

end DriverCore

end Stdiolink.Driver
