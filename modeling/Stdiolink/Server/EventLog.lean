/-
  Stdiolink.Server.EventLog — the log of the server's events, `http/event_log.cpp`.

  Every published event is written as one line of JSON.  A query reads the last 4 MB of the file
  and goes through their lines backwards: two indices move over the bytes, and a line that is
  blank, does not parse or does not pass the filters is skipped.

  Qt's JSON reader and compact writer are parameters; `Recorded` is what is asked of the two about
  the record of one event.

  Main results:
    * `query_lines` — a query of any file: the newest records among its last lines;
    * `query_exact` — a query of a file that the log has written: its newest matching events, from
      all of them where the file is small, and from those of the last 4 MB where it is not.
-/
import Stdiolink.Lib.Bytes
import Stdiolink.Protocol.JsonlStream

namespace Stdiolink.Server

open Stdiolink.Lib
open Stdiolink.Protocol

/-! ## §1. Writing -/

/-- `ServerEvent` of `event_bus.h`; the timestamp as `toString(Qt::ISODateWithMs)` gives it. -/
structure PublishedEvent where
  type : String
  data : List (String × Json)
  timestamp : String
  deriving DecidableEq

/-- The `record` that is written for an event. -/
def PublishedEvent.record (event : PublishedEvent) : List (String × Json) :=
  let record := Json.put [] ("type", .str event.type)
  let record := Json.put record ("data", .obj event.data)
  Json.put record ("ts", .str event.timestamp)

/-- The end of a line, as the logger of the platform writes it. -/
inductive EndOfLine where
  | lf
  | crlf
  deriving DecidableEq

/-- What an end of line has before its newline. -/
def EndOfLine.beforeNewline : EndOfLine → List UInt8
  | .lf => []
  | .crlf => [13]

/-- `EventLog`: whether its logger could be created, and the file at `m_logPath`. -/
structure EventLog where
  logger : Bool := true
  file : Option (List UInt8) := some []

section Log

variable (toJson : ToJson) (fromJson : FromJson) (eol : EndOfLine)

/-- The line that is written for an event, without its newline. -/
def eventLine (event : PublishedEvent) : List UInt8 :=
  cString (toJson event.record) ++ eol.beforeNewline

namespace EventLog

def onEventPublished (log : EventLog) (event : PublishedEvent) : EventLog :=
  if !log.logger then log
  else { log with file := some (log.file.getD [] ++ (eventLine toJson eol event ++ [newline])) }

/-- The log after these events. -/
def published (events : List PublishedEvent) : EventLog :=
  events.foldl (onEventPublished toJson eol) {}

/-! ## §2. Queries -/

def kMaxReadBytes : Nat := 4 * 1024 * 1024

/-- Whether the record of an object passes the filters. -/
def passes (typePrefix projectId : String) (obj : List (String × Json)) : Bool :=
  (typePrefix.isEmpty || typePrefix.toList.isPrefixOf (Json.value obj "type").toStr.toList) &&
  (projectId.isEmpty ||
    (Json.value (Json.value obj "data").toObject "projectId").toStr = projectId)

/-- What the body of the loop appends for a line. -/
def found (typePrefix projectId : String) (line : List UInt8) : Option (List (String × Json)) :=
  let line := trimmed line
  if line = [] then none
  else
    match fromJson line with
    | some (.obj obj) => if passes typePrefix projectId obj then some obj else none
    | _ => none

/-- The last 4 MB of a file. -/
def lastBytes (file : List UInt8) : List UInt8 := file.drop (file.length - kMaxReadBytes)

def query (log : EventLog) (limit : Int) (typePrefix projectId : String) :
    List (List (String × Json)) :=
  match log.file with
  | none => []
  | some file =>
      let data := lastBytes file
      forLinesBack newline (fun results => decide ((results.length : Int) < limit))
        (fun results line => results ++ (found fromJson typePrefix projectId line).toList)
        data data.length [] data.length

/-! ## §3. Any file -/

/-- The newest of these, at most `limit`, the newest one first. -/
def newest {α : Type*} (limit : Int) (items : List α) : List α := items.reverse.take limit.toNat

/-- The newline of a line makes no difference. -/
theorem found_newline (typePrefix projectId : String) (line : List UInt8) :
    found fromJson typePrefix projectId (line ++ [newline]) =
      found fromJson typePrefix projectId line := by
  unfold found
  rw [trimmed_concat (by decide)]

/-- **A query of any file**: the newest of the records that are found in its last lines. -/
theorem query_lines {log : EventLog} {file : List UInt8} (hfile : log.file = some file)
    (limit : Int) (typePrefix projectId : String) :
    query fromJson log limit typePrefix projectId =
      newest limit ((textLines newline (lastBytes file)).filterMap
        (found fromJson typePrefix projectId)) := by
  unfold query
  rw [hfile]
  dsimp only
  rw [forLinesBack_text, foldWhile_filterMap, List.nil_append, List.filterMap_reverse]
  · simp [newest]
  · intro results line
    rw [found_newline]

/-! ## §4. Files that the log has written -/

end EventLog

/-- What is asked of Qt about one record: its compact text is a text in braces without a newline or
a zero byte, and parses back to it. -/
structure Recorded (obj : List (String × Json)) : Prop extends ReadsBack toJson fromJson obj where
  nonzero : 0 ∉ toJson obj
  braces : ∃ members, toJson obj = 123 :: members ++ [125]

/-- An event whose type begins with the prefix and that belongs to the project; an empty filter
lets every event pass. -/
def PublishedEvent.Matches (typePrefix projectId : String) (event : PublishedEvent) : Prop :=
  typePrefix.toList <+: event.type.toList ∧
    (projectId = "" ∨ Json.value event.data "projectId" = .str projectId)

instance (typePrefix projectId : String) (event : PublishedEvent) :
    Decidable (event.Matches typePrefix projectId) :=
  inferInstanceAs (Decidable (_ ∧ _))

namespace EventLog

/-- The lines of a log. -/
theorem published_eq (events : List PublishedEvent) :
    published toJson eol events =
      { file := some (frame newline (events.map (eventLine toJson eol))) } := by
  induction events using List.reverseRecOn with
  | nil => rfl
  | append_singleton events event ih =>
    unfold published at ih ⊢
    rw [List.foldl_append, ih, List.map_append, frame_append]
    simp [onEventPublished]

/-- The filters of a query, on the record of an event. -/
theorem passes_record (typePrefix projectId : String) (event : PublishedEvent) :
    passes typePrefix projectId event.record = decide (event.Matches typePrefix projectId) := by
  have htable : event.record = Json.record [("type", .str event.type), ("data", .obj event.data),
      ("ts", .str event.timestamp)] := rfl
  have htype : Json.value event.record "type" = .str event.type := by
    rw [htable, Json.value_record (by simp)]
    rfl
  have hdata : Json.value event.record "data" = .obj event.data := by
    rw [htable, Json.value_record (by simp)]
    rfl
  have hprefix (hempty : typePrefix = "") : typePrefix.toList <+: event.type.toList := by
    rw [hempty]
    exact List.nil_prefix
  rw [Bool.eq_iff_iff, decide_eq_true_iff]
  unfold passes PublishedEvent.Matches
  rw [htype, hdata, Bool.and_eq_true, Bool.or_eq_true, Bool.or_eq_true, String.isEmpty_iff,
    String.isEmpty_iff, List.isPrefixOf_iff_prefix, decide_eq_true_iff]
  show (_ ∨ typePrefix.toList <+: event.type.toList) ∧
    (_ ∨ (Json.value event.data "projectId").toStr = projectId) ↔ _
  constructor
  · rintro ⟨htype, hid⟩
    refine ⟨htype.elim hprefix id, ?_⟩
    by_cases hne : projectId = ""
    · exact .inl hne
    · exact .inr ((Json.toStr_eq_iff hne).mp (hid.resolve_left hne))
  · rintro ⟨htype, hid⟩
    refine ⟨.inr htype, ?_⟩
    by_cases hne : projectId = ""
    · exact .inl hne
    · exact .inr ((Json.toStr_eq_iff hne).mpr (hid.resolve_left hne))

/-- Text in braces is not trimmed, but for what follows it on the line. -/
theorem trimmed_braces (members : List UInt8) :
    trimmed (123 :: members ++ [125] ++ eol.beforeNewline) = 123 :: members ++ [125] := by
  have hself : trimmed (123 :: members ++ [125]) = 123 :: members ++ [125] := by
    unfold trimmed
    rw [List.cons_append, List.dropWhile_cons_of_neg (by decide), ← List.cons_append,
      List.rdropWhile_concat_neg _ _ _ (by decide)]
  cases eol with
  | lf => simpa [EndOfLine.beforeNewline] using hself
  | crlf => exact (trimmed_concat (by decide) _).trans hself

variable {toJson fromJson}

/-- What a query finds in the line of an event. -/
theorem found_eventLine {event : PublishedEvent} (hqt : Recorded toJson fromJson event.record)
    (typePrefix projectId : String) :
    found fromJson typePrefix projectId (eventLine toJson eol event) =
      if event.Matches typePrefix projectId then some event.record else none := by
  obtain ⟨members, hmembers⟩ := hqt.braces
  have hvalue := hqt.value
  unfold found eventLine
  rw [cString_eq_self hqt.nonzero, hmembers, trimmed_braces, ← hmembers]
  rw [if_neg (by simp [hmembers]), hvalue]
  simp [passes_record]

theorem filterMap_found {events : List PublishedEvent}
    (hqt : ∀ event ∈ events, Recorded toJson fromJson event.record)
    (typePrefix projectId : String) :
    (events.map (eventLine toJson eol)).filterMap (found fromJson typePrefix projectId) =
      (events.filter (·.Matches typePrefix projectId)).map PublishedEvent.record := by
  induction events with
  | nil => rfl
  | cons event events ih =>
    have hfound := found_eventLine eol (hqt event (by simp)) typePrefix projectId
    rw [List.map_cons, List.filterMap_cons, hfound,
      ih fun event hevent => hqt event (List.mem_cons_of_mem _ hevent)]
    by_cases hmatches : event.Matches typePrefix projectId <;> simp [hmatches]

/-- An event takes one line. -/
theorem newline_notMem_eventLine {events : List PublishedEvent}
    (hqt : ∀ event ∈ events, Recorded toJson fromJson event.record) :
    ∀ line ∈ events.map (eventLine toJson eol), newline ∉ line := by
  intro line hline
  obtain ⟨event, hevent, rfl⟩ := List.mem_map.mp hline
  have hrecorded := hqt event hevent
  unfold eventLine
  rw [cString_eq_self hrecorded.nonzero, List.mem_append, not_or]
  exact ⟨hrecorded.line, by cases eol <;> decide⟩

/-- **A query of a file that the log has written.**  Of a small file it gives the newest matching
events; of a large one the same for the lines of its last bytes, the first of which may be cut. -/
theorem query_exact {events : List PublishedEvent}
    (hqt : ∀ event ∈ events, Recorded toJson fromJson event.record) (limit : Int)
    (typePrefix projectId : String) :
    let log := published toJson eol events
    let matching (events : List PublishedEvent) :=
      (events.filter (·.Matches typePrefix projectId)).map PublishedEvent.record
    ∃ file, log.file = some file ∧
      (file.length ≤ kMaxReadBytes →
        query fromJson log limit typePrefix projectId = newest limit (matching events)) ∧
      (kMaxReadBytes < file.length →
        ∃ older event newer cut, events = older ++ event :: newer ∧
          cut <:+ eventLine toJson eol event ∧
          lastBytes file = frame newline (cut :: newer.map (eventLine toJson eol)) ∧
          query fromJson log limit typePrefix projectId =
            newest limit ((found fromJson typePrefix projectId cut).toList ++ matching newer)) := by
  intro log matching
  have hfile : log.file = some (frame newline (events.map (eventLine toJson eol))) :=
    congrArg EventLog.file (published_eq toJson eol events)
  have hlines := newline_notMem_eventLine eol hqt
  refine ⟨_, hfile, ?_, ?_⟩
  · intro hsmall
    have hwhole : lastBytes (frame newline (events.map (eventLine toJson eol))) =
        frame newline (events.map (eventLine toJson eol)) ++ [] := by
      rw [lastBytes, Nat.sub_eq_zero_of_le hsmall, List.drop_zero, List.append_nil]
    rw [query_lines fromJson hfile, hwhole, textLines_frame hlines List.not_mem_nil, if_pos rfl,
      filterMap_found eol hqt]
  · intro hlarge
    have hinside : (frame newline (events.map (eventLine toJson eol))).length - kMaxReadBytes <
        (frame newline (events.map (eventLine toJson eol))).length :=
      Nat.sub_lt (by omega) (by decide)
    obtain ⟨older, line, newer, cut, hsplit, hcut, hlast⟩ := drop_frame hinside
    obtain ⟨older', rest, rfl, rfl, hrest⟩ := List.map_eq_append_iff.mp hsplit
    obtain ⟨event, newer', rfl, rfl, rfl⟩ := List.map_eq_cons_iff.mp hrest
    have hnewer : ∀ event ∈ newer', Recorded toJson fromJson event.record :=
      fun event hevent => hqt event (by simp [hevent])
    have hlines' : ∀ line ∈ cut :: newer'.map (eventLine toJson eol), newline ∉ line := by
      intro line hline
      obtain rfl | hline := List.mem_cons.mp hline
      · exact fun h => hlines _ (by simp) (hcut.subset h)
      · exact newline_notMem_eventLine eol hnewer line hline
    refine ⟨older', event, newer', cut, rfl, hcut, hlast, ?_⟩
    rw [query_lines fromJson hfile, lastBytes, hlast, ← List.append_nil (frame newline _),
      textLines_frame hlines' List.not_mem_nil, if_pos rfl, List.filterMap_cons]
    show newest limit _ = newest limit (_ ++ _)
    rw [filterMap_found eol hnewer]
    cases found fromJson typePrefix projectId cut <;> rfl

end EventLog

end Log

/-- An event of a project. -/
def projectEvent (type project timestamp : String) : PublishedEvent :=
  ⟨type, [("projectId", .str project)], timestamp⟩

/-- Its compact text. -/
def projectText (event : PublishedEvent) : List UInt8 :=
  plainText ("\x7b\x22data\x22:\x7b\x22projectId\x22:\x22" ++
    (Json.value event.data "projectId").toStr ++ "\x22\x7d,\x22ts\x22:\x22" ++ event.timestamp ++
    "\x22,\x22type\x22:\x22" ++ event.type ++ "\x22\x7d")

def projectEvents : List PublishedEvent :=
  [projectEvent "instance.started" "p" "1", projectEvent "schedule.triggered" "p" "2",
    projectEvent "instance.started" "q" "3", projectEvent "instance.finished" "p" "4",
    projectEvent "instance.started" "p" "5"]

/-- A writer and a reader that know these events. -/
def projectWriter (obj : List (String × Json)) : List UInt8 :=
  ((projectEvents.find? fun event => event.record = obj).map projectText).getD []

def projectReader (text : List UInt8) : Option Json :=
  (projectEvents.find? fun event => projectText event = text).map fun event => .obj event.record

theorem projectEvents_recorded :
    ∀ event ∈ projectEvents, Recorded projectWriter projectReader event.record := by
  have hbraces : ∀ event ∈ projectEvents, projectWriter event.record =
      123 :: (projectWriter event.record).tail.dropLast ++ [125] := by decide +kernel
  have hline : ∀ event ∈ projectEvents, newline ∉ projectWriter event.record := by decide +kernel
  have hzero : ∀ event ∈ projectEvents, 0 ∉ projectWriter event.record := by decide +kernel
  have hvalue : ∀ event ∈ projectEvents,
      projectReader (projectWriter event.record) = some (.obj event.record) := by decide +kernel
  intro event hevent
  exact ⟨⟨hline event hevent, hvalue event hevent⟩, hzero event hevent, _, hbraces event hevent⟩

/-- The newest two of three events of instances of a project, of five in all. -/
theorem query_exact_started :
    EventLog.query projectReader (EventLog.published projectWriter .crlf projectEvents) 2
      "instance" "p" = [(projectEvent "instance.started" "p" "5").record,
        (projectEvent "instance.finished" "p" "4").record] := by
  obtain ⟨file, hfile, hsmall, -⟩ :=
    EventLog.query_exact .crlf projectEvents_recorded 2 "instance" "p"
  have hlength : file.length ≤ EventLog.kMaxReadBytes := by
    obtain rfl := Option.some.inj hfile
    decide +kernel
  exact (hsmall hlength).trans (by decide +kernel)

end Stdiolink.Server
