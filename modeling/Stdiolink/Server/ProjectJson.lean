/-
  Stdiolink.Server.ProjectJson — projects and schedules as JSON, `model/project.cpp` and
  `model/schedule.cpp`.

  A reader stops at the first thing it rejects and returns the record as far as it got, next to
  the text of the error; an empty text is no error.  Who keeps the record keeps that part of it.

  Main results:
    * `Schedule.fromJson_accepted`   — what is read without an error is within its bounds;
    * `Schedule.fromJson_toJson`     — a schedule that was read is written and read as it was;
    * `Project.fromStorageJson_written` — what reading a written record gives, field by field.
-/
import Stdiolink.Server.Model
import Stdiolink.Meta.DriverMeta

namespace Stdiolink.Server

open Stdiolink.Lib
open Stdiolink.Protocol
open Stdiolink.Protocol.Json
open Stdiolink.Meta

/-! ## §1. Schedules -/

/-- `parseNonNegativeIntField`. -/
def parseNonNegativeIntField (obj : List (String × Json)) (key : String) (defaultValue : Int) :
    Except String Int :=
  if !hasKey obj key then .ok defaultValue
  else
    let v := value obj key
    let raw := v.toDouble
    if !isDouble v then .error ("schedule." ++ key ++ " must be an integer >= 0")
    else if raw.den ≠ 1 || raw < 0 || raw > 2147483647 then
      .error ("schedule." ++ key ++ " must be an integer >= 0")
    else .ok raw.num

namespace Schedule

/-- `Schedule::fromJson`. -/
def fromJson (obj : List (String × Json)) : Schedule × String :=
  match parseNonNegativeIntField obj "runTimeoutMs" 0 with
  | .error error => ({}, error)
  | .ok runTimeoutMs =>
    let type := toStrOr "manual" (value obj "type")
    if type = "manual" then ({ runTimeoutMs := runTimeoutMs }, "")
    else if type = "fixed_rate" then
      let schedule : Schedule :=
        { type := .fixedRate
          runTimeoutMs := runTimeoutMs
          intervalMs := toIntOr 5000 (value obj "intervalMs")
          maxConcurrent := toIntOr 1 (value obj "maxConcurrent") }
      if schedule.intervalMs < 100 then (schedule, "schedule.intervalMs must be >= 100")
      else if schedule.maxConcurrent < 1 then (schedule, "schedule.maxConcurrent must be >= 1")
      else (schedule, "")
    else if type = "daemon" then
      let schedule : Schedule :=
        { type := .daemon
          runTimeoutMs := runTimeoutMs
          restartDelayMs := toIntOr 3000 (value obj "restartDelayMs")
          maxConsecutiveFailures := toIntOr 5 (value obj "maxConsecutiveFailures") }
      if schedule.restartDelayMs < 0 then (schedule, "schedule.restartDelayMs must be >= 0")
      else if schedule.maxConsecutiveFailures < 1 then
        (schedule, "schedule.maxConsecutiveFailures must be >= 1")
      else (schedule, "")
    else ({ runTimeoutMs := runTimeoutMs }, "unknown schedule type: " ++ type)

/-- The switch of `Schedule::toJson`: the settings of the other types are not written. -/
def typeMembers (schedule : Schedule) : List (String × Json) :=
  match schedule.type with
  | .manual => [("type", .str "manual")]
  | .fixedRate =>
      [("type", .str "fixed_rate"), ("intervalMs", .num schedule.intervalMs),
        ("maxConcurrent", .num schedule.maxConcurrent)]
  | .daemon =>
      [("type", .str "daemon"), ("restartDelayMs", .num schedule.restartDelayMs),
        ("maxConsecutiveFailures", .num schedule.maxConsecutiveFailures)]

/-- `Schedule::toJson`. -/
def toJson (schedule : Schedule) : List (String × Json) :=
  record (("runTimeoutMs", .num schedule.runTimeoutMs) :: schedule.typeMembers)

/-- The bounds that reading checks for the schedule's type. -/
def boundsError (schedule : Schedule) : String :=
  match schedule.type with
  | .manual => ""
  | .fixedRate =>
      if schedule.intervalMs < 100 then "schedule.intervalMs must be >= 100"
      else if schedule.maxConcurrent < 1 then "schedule.maxConcurrent must be >= 1"
      else ""
  | .daemon =>
      if schedule.restartDelayMs < 0 then "schedule.restartDelayMs must be >= 0"
      else if schedule.maxConsecutiveFailures < 1 then
        "schedule.maxConsecutiveFailures must be >= 1"
      else ""

end Schedule

/-! ## §2. Projects -/

namespace Project

/-- `parseProjectJson` from the config on. -/
def parseConfig (obj : List (String × Json)) (allowConfigField : Bool) (project : Project) :
    Project × String :=
  if allowConfigField && hasKey obj "config" then
    if !isObject (value obj "config") then (project, "project field 'config' must be an object")
    else ({ project with config := value obj "config" }, "")
  else (project, "")

/-- `parseProjectJson` from the schedule on. -/
def parseSchedule (obj : List (String × Json)) (allowConfigField : Bool) (project : Project) :
    Project × String :=
  if hasKey obj "schedule" then
    if !isObject (value obj "schedule") then
      (project, "project field 'schedule' must be an object")
    else
      let (schedule, scheduleErr) := Schedule.fromJson (value obj "schedule").toObject
      -- the record takes the schedule as far as it was read
      if scheduleErr ≠ "" then ({ project with schedule := schedule }, scheduleErr)
      else parseConfig obj allowConfigField { project with schedule := schedule }
  else parseConfig obj allowConfigField project

/-- `parseProjectJson` from the enabled flag on. -/
def parseEnabled (obj : List (String × Json)) (allowConfigField : Bool) (project : Project) :
    Project × String :=
  if hasKey obj "enabled" then
    if !isBool (value obj "enabled") then (project, "project field 'enabled' must be a bool")
    else parseSchedule obj allowConfigField { project with enabled := (value obj "enabled").toBool }
  else parseSchedule obj allowConfigField project

/-- `parseProjectJson` from the service on. -/
def parseServiceId (obj : List (String × Json)) (allowConfigField : Bool) (project : Project) :
    Project × String :=
  if !isString (value obj "serviceId") then
    (project, "missing required string field: serviceId")
  else
    let serviceId := (value obj "serviceId").toStr
    if serviceId = "" then (project, "project serviceId cannot be empty")
    else parseEnabled obj allowConfigField { project with serviceId := serviceId }

/-- `parseProjectJson` from the name on. -/
def parseName (obj : List (String × Json)) (allowConfigField : Bool) (project : Project) :
    Project × String :=
  if !isString (value obj "name") then (project, "missing required string field: name")
  else
    let name := (value obj "name").toStr
    if name = "" then (project, "project name cannot be empty")
    else parseServiceId obj allowConfigField { project with name := name }

/-- The fields that a record may have. -/
def knownFields (allowConfigField : Bool) : List String :=
  ["id", "name", "serviceId", "enabled", "schedule"] ++ if allowConfigField then ["config"] else []

/-- `parseProjectJson`. -/
def parseProjectJson (id : String) (obj : List (String × Json)) (allowConfigField : Bool) :
    Project × String :=
  let project : Project := { id := id, name := "", serviceId := "" }
  if !allowConfigField && hasKey obj "config" then
    (project, "project metadata file must not contain 'config'; " ++
      "move service parameters to param.json")
  else
    match obj.find? fun member => !(knownFields allowConfigField).contains member.1 with
    | some member => (project, "unknown field in project config: " ++ member.1)
    | none =>
      let bodyId := value obj "id"
      if hasKey obj "id" && !isString bodyId then (project, "project field 'id' must be a string")
      else if bodyId.toStr ≠ "" && bodyId.toStr ≠ id then
        (project, "project id mismatch: body=" ++ bodyId.toStr ++ ", path=" ++ id)
      else parseName obj allowConfigField project

/-- `Project::fromJson`. -/
def fromJson (id : String) (obj : List (String × Json)) : Project × String :=
  parseProjectJson id obj true

/-- `Project::fromStorageJson`. -/
def fromStorageJson (id : String) (obj : List (String × Json)) : Project × String :=
  parseProjectJson id obj false

/-- `Project::toJson`: what `config.json` holds. -/
def toJson (project : Project) : List (String × Json) :=
  record [
    ("id", .str project.id),
    ("name", .str project.name),
    ("serviceId", .str project.serviceId),
    ("enabled", .bool project.enabled),
    ("schedule", .obj project.schedule.toJson)]

end Project

/-! ## §3. What a schedule reads as -/

namespace Schedule

/-- The settings that go with the type; the others are at their defaults. -/
def ownSettings (schedule : Schedule) : Schedule :=
  match schedule.type with
  | .manual => { runTimeoutMs := schedule.runTimeoutMs }
  | .fixedRate =>
      { type := .fixedRate, runTimeoutMs := schedule.runTimeoutMs,
        intervalMs := schedule.intervalMs, maxConcurrent := schedule.maxConcurrent }
  | .daemon =>
      { type := .daemon, runTimeoutMs := schedule.runTimeoutMs,
        restartDelayMs := schedule.restartDelayMs,
        maxConsecutiveFailures := schedule.maxConsecutiveFailures }

/-- The numbers are of their type, the timeout is none below zero, and the settings of the other
types are at their defaults. -/
structure AsRead (schedule : Schedule) : Prop where
  runTimeoutMs : IsInt schedule.runTimeoutMs
  nonnegative : 0 ≤ schedule.runTimeoutMs
  intervalMs : IsInt schedule.intervalMs
  maxConcurrent : IsInt schedule.maxConcurrent
  restartDelayMs : IsInt schedule.restartDelayMs
  maxConsecutiveFailures : IsInt schedule.maxConsecutiveFailures
  own : schedule.ownSettings = schedule

theorem isInt_toIntOr {default : Int} (h : IsInt default) (v : Json) :
    IsInt (toIntOr default v) := by
  unfold toIntOr
  split
  · split_ifs with hq
    · exact hq.2
    · exact h
  · exact h

variable {n : Int} {obj : List (String × Json)}

theorem toIntOr_num (h : IsInt n) (default : Int) : toIntOr default (.num n) = n := by
  rw [toIntOr, if_pos]
  · exact Rat.num_intCast n
  · exact ⟨Rat.den_intCast n, h⟩

theorem parseNonNegativeIntField_range {key : String}
    (h : parseNonNegativeIntField obj key 0 = .ok n) : 0 ≤ n ∧ n ≤ 2147483647 := by
  unfold parseNonNegativeIntField at h
  dsimp only at h
  split_ifs at h with hkey hdouble hraw
  · rw [← Except.ok.inj h]
    decide
  · rw [← Except.ok.inj h]
    simp only [ne_eq, Bool.or_eq_true, decide_eq_true_eq, not_or, not_not, not_lt] at hraw
    obtain ⟨⟨hden, hlo⟩, hhi⟩ := hraw
    have hnum : (((value obj key).toDouble.num : Int) : ℚ) = (value obj key).toDouble :=
      Rat.coe_int_num_of_den_eq_one hden
    constructor
    · exact Rat.num_nonneg.mpr hlo
    · have hle : (((value obj key).toDouble.num : Int) : ℚ) ≤ (2147483647 : Int) := by
        rw [hnum]
        exact_mod_cast hhi
      exact_mod_cast hle

theorem parseNonNegativeIntField_num {key : String} (hkey : hasKey obj key = true)
    (hvalue : value obj key = .num n) (hlo : 0 ≤ n) (hhi : n ≤ 2147483647) :
    parseNonNegativeIntField obj key 0 = .ok n := by
  have hdouble : (value obj key).toDouble = n := by
    rw [hvalue, toDouble_int, roundToDouble_small (by omega)]
  have hq : ¬ ((n : ℚ) < 0) ∧ ¬ ((n : ℚ) > 2147483647) := by
    constructor
    · exact not_lt.mpr (by exact_mod_cast hlo)
    · exact not_lt.mpr (by exact_mod_cast hhi)
  unfold parseNonNegativeIntField
  dsimp only
  rw [hdouble]
  simp [hkey, hvalue, isDouble, hq]

theorem asRead_default : ({} : Schedule).AsRead :=
  ⟨by decide, by decide, by decide, by decide, by decide, by decide, rfl⟩

/-- What reading gives, without or with an error, is as read. -/
theorem fromJson_asRead (obj : List (String × Json)) : (fromJson obj).1.AsRead := by
  obtain ⟨-, -, hinterval, hmax, hdelay, hfailures, -⟩ := asRead_default
  unfold fromJson
  split
  · exact asRead_default
  · rename_i n hn
    obtain ⟨hlo, hhi⟩ := parseNonNegativeIntField_range hn
    have hint : IsInt n := ⟨by omega, hhi⟩
    have hmanual : ({ runTimeoutMs := n } : Schedule).AsRead :=
      ⟨hint, hlo, hinterval, hmax, hdelay, hfailures, rfl⟩
    have hfixed : ({
        type := .fixedRate
        runTimeoutMs := n
        intervalMs := toIntOr 5000 (value obj "intervalMs")
        maxConcurrent := toIntOr 1 (value obj "maxConcurrent") } : Schedule).AsRead :=
      ⟨hint, hlo, isInt_toIntOr hinterval _, isInt_toIntOr hmax _, hdelay, hfailures, rfl⟩
    have hdaemon : ({
        type := .daemon
        runTimeoutMs := n
        restartDelayMs := toIntOr 3000 (value obj "restartDelayMs")
        maxConsecutiveFailures := toIntOr 5 (value obj "maxConsecutiveFailures") } :
        Schedule).AsRead :=
      ⟨hint, hlo, hinterval, hmax, isInt_toIntOr hdelay _, isInt_toIntOr hfailures _, rfl⟩
    dsimp only
    split_ifs <;> assumption

/-- **The error of a reading.**  It is the one of the bounds, or the timeout or the type was
rejected, and the record was left at its defaults. -/
theorem fromJson_error (obj : List (String × Json)) :
    (fromJson obj).2 = (fromJson obj).1.boundsError ∨
      (fromJson obj).1.boundsError = "" ∧
        ((fromJson obj).2 = "schedule.runTimeoutMs must be an integer >= 0" ∨
          ∃ type, (fromJson obj).2 = "unknown schedule type: " ++ type) := by
  unfold fromJson
  split
  · rename_i error herror
    right
    refine ⟨rfl, Or.inl ?_⟩
    unfold parseNonNegativeIntField at herror
    dsimp only at herror
    split_ifs at herror
    all_goals
      rw [← Except.error.inj herror]
      decide
  · dsimp only
    split_ifs with hmanual hfixed hinterval hmax hdaemon hdelay hfailures
    · exact Or.inl rfl
    · left
      exact (if_pos hinterval).symm
    · left
      unfold boundsError
      exact ((if_neg hinterval).trans (if_pos hmax)).symm
    · left
      exact ((if_neg hinterval).trans (if_neg hmax)).symm
    · left
      exact (if_pos hdelay).symm
    · left
      exact ((if_neg hdelay).trans (if_pos hfailures)).symm
    · left
      exact ((if_neg hdelay).trans (if_neg hfailures)).symm
    · right
      exact ⟨rfl, Or.inr ⟨_, rfl⟩⟩

/-- **A written schedule.**  It is read as it was, with the error of its bounds. -/
theorem fromJson_toJson {schedule : Schedule} (h : schedule.AsRead) :
    fromJson schedule.toJson = (schedule, schedule.boundsError) := by
  have hobj : Defined schedule.toJson := defined_record _
  have hread : ∀ key, value schedule.toJson key =
      value (("runTimeoutMs", .num schedule.runTimeoutMs) :: schedule.typeMembers) key := by
    apply value_record
    unfold typeMembers
    cases schedule.type <;> simp
  have htimeout : parseNonNegativeIntField schedule.toJson "runTimeoutMs" 0 =
      .ok schedule.runTimeoutMs := by
    have hvalue : value schedule.toJson "runTimeoutMs" = .num schedule.runTimeoutMs := by
      rw [hread, value_cons, if_pos rfl]
    apply parseNonNegativeIntField_num _ hvalue h.nonnegative h.runTimeoutMs.2
    rw [hobj, hvalue]
    rfl
  have hown := h.own
  unfold ownSettings at hown
  unfold fromJson boundsError
  rw [htimeout]
  simp only [hread, typeMembers]
  cases htype : schedule.type with
  | manual =>
    rw [htype] at hown
    simp only [value_cons, String.reduceEq, if_true, if_false, toStrOr]
    exact congrArg (fun read => (read, "")) hown
  | fixedRate =>
    rw [htype] at hown
    simp only [value_cons, String.reduceEq, if_true, if_false, toStrOr, toIntOr_num h.intervalMs,
      toIntOr_num h.maxConcurrent, hown]
    split_ifs <;> rfl
  | daemon =>
    rw [htype] at hown
    simp only [value_cons, String.reduceEq, if_true, if_false, toStrOr,
      toIntOr_num h.restartDelayMs, toIntOr_num h.maxConsecutiveFailures, hown]
    split_ifs <;> rfl

/-- What is read without an error is within the bounds of its type. -/
theorem fromJson_accepted {schedule : Schedule} (h : fromJson obj = (schedule, "")) :
    schedule.boundsError = "" := by
  obtain hbounds | ⟨hnone, -⟩ := fromJson_error obj
  · rw [h] at hbounds
    exact hbounds.symm
  · rw [h] at hnone
    exact hnone

end Schedule

/-! ## §4. What a written record reads as -/

namespace Project

/-- **A written record.**  Reading stops at an empty name or service; otherwise it has every field,
and the schedule as its own reader takes it.  The parameters are not part of it. -/
theorem fromStorageJson_written (project : Project) :
    fromStorageJson project.id project.toJson =
      if project.name = "" then
        ({ id := project.id, name := "", serviceId := "" }, "project name cannot be empty")
      else if project.serviceId = "" then
        ({ id := project.id, name := project.name, serviceId := "" },
          "project serviceId cannot be empty")
      else
        ({ id := project.id, name := project.name, serviceId := project.serviceId,
           enabled := project.enabled
           schedule := (Schedule.fromJson project.schedule.toJson).1 },
          (Schedule.fromJson project.schedule.toJson).2) := by
  have hobj : Defined project.toJson := defined_record _
  have hread : ∀ key, value project.toJson key = value [
      ("id", .str project.id),
      ("name", .str project.name),
      ("serviceId", .str project.serviceId),
      ("enabled", .bool project.enabled),
      ("schedule", .obj project.schedule.toJson)] key := value_record (by simp)
  have hconfig : hasKey project.toJson "config" = false := by
    rw [hobj, hread]
    rfl
  have hunknown : project.toJson.find? (fun member =>
      !(knownFields false).contains member.1) = none := by
    rw [List.find?_eq_none]
    intro member hmember
    have hkey := key_of_mem_record (by simp) hmember
    rw [Bool.not_eq_true', Bool.not_eq_false]
    exact List.contains_iff_mem.mpr hkey
  have henabled : hasKey project.toJson "enabled" = true := by
    rw [hobj, hread]
    rfl
  have hschedule : hasKey project.toJson "schedule" = true := by
    rw [hobj, hread]
    rfl
  unfold fromStorageJson parseProjectJson
  rw [hconfig, hunknown]
  simp only [parseName, parseServiceId, parseEnabled, parseSchedule, parseConfig, henabled,
    hschedule, hconfig, hread, value_cons, String.reduceEq, if_true, if_false, isString, isBool,
    isObject, toStr_str, Json.toBool, toObject]
  -- the checks for the kinds of the members pass; what is left are the three emptiness tests
  by_cases herror : (Schedule.fromJson project.schedule.toJson).2 = ""
  · simp [herror]
  · simp [herror]

/-- A schedule that was read, or the default one. -/
def ScheduleRead (schedule : Schedule) : Prop :=
  schedule = {} ∨ ∃ obj, Schedule.fromJson obj = (schedule, "")

/-- The text is the error of a reading that has one. -/
theorem text_of_read {p q : Project} {text error : String} (h : (p, text) = (q, error)) :
    text = error := congrArg Prod.snd h

theorem parseConfig_schedule (obj : List (String × Json)) (allowConfigField : Bool)
    (project : Project) :
    (parseConfig obj allowConfigField project).1.schedule = project.schedule := by
  unfold parseConfig
  split_ifs <;> rfl

theorem parseSchedule_read {obj : List (String × Json)} {allowConfigField : Bool}
    {project read : Project} (hproject : ScheduleRead project.schedule)
    (h : parseSchedule obj allowConfigField project = (read, "")) : ScheduleRead read.schedule := by
  unfold parseSchedule at h
  dsimp only at h
  split_ifs at h with hkey hobject herror
  · exact absurd (text_of_read h) (by decide)
  · exact absurd (text_of_read h) herror
  · right
    have hread := congrArg (fun r => r.1.schedule) h
    dsimp only at hread
    rw [parseConfig_schedule] at hread
    refine ⟨(value obj "schedule").toObject, ?_⟩
    rw [← hread, ← not_not.mp herror]
  · have hread := congrArg (fun r => r.1.schedule) h
    dsimp only at hread
    rw [parseConfig_schedule] at hread
    rw [← hread]
    exact hproject

/-- A record that is read without an error has a schedule that was read without one. -/
theorem parseProjectJson_read {id : String} {obj : List (String × Json)} {allowConfigField : Bool}
    {read : Project} (h : parseProjectJson id obj allowConfigField = (read, "")) :
    ScheduleRead read.schedule := by
  have hdefault : ScheduleRead ({} : Schedule) := Or.inl rfl
  have hlength : ∀ text rest : String, text ≠ "" → text ++ rest ≠ "" := by
    intro text rest htext heq
    exact htext (String.append_eq_empty_iff.mp heq).1
  unfold parseProjectJson at h
  dsimp only at h
  by_cases hconfig : (!allowConfigField && hasKey obj "config") = true
  · rw [if_pos hconfig] at h
    exact absurd (text_of_read h) (by decide)
  rw [if_neg hconfig] at h
  cases hfind : obj.find? fun member => !(knownFields allowConfigField).contains member.1 with
  | some member =>
    rw [hfind] at h
    exact absurd (text_of_read h) (hlength _ _ (by decide))
  | none =>
    rw [hfind] at h
    dsimp only at h
    split_ifs at h
    · exact absurd (text_of_read h) (by decide)
    · refine absurd (text_of_read h) ?_
      rw [String.append_assoc, String.append_assoc]
      exact hlength _ _ (by decide)
    unfold parseName at h
    dsimp only at h
    split_ifs at h
    · exact absurd (text_of_read h) (by decide)
    · exact absurd (text_of_read h) (by decide)
    unfold parseServiceId at h
    dsimp only at h
    split_ifs at h
    · exact absurd (text_of_read h) (by decide)
    · exact absurd (text_of_read h) (by decide)
    unfold parseEnabled at h
    split_ifs at h
    · exact absurd (text_of_read h) (by decide)
    · exact parseSchedule_read hdefault h
    · exact parseSchedule_read hdefault h

end Project

/-- The draft is what `Project::fromJson` makes of a body, or `loadProject` of the stored files. -/
def ProjectDraft.Read (draft : ProjectDraft) : Prop :=
  ∃ id obj, Project.fromJson id obj = (Project.fromDraft id draft, "") ∨
    Project.fromStorageJson id obj = ({ Project.fromDraft id draft with config := .obj [] }, "")

theorem ProjectDraft.Read.schedule {draft : ProjectDraft} (h : draft.Read) :
    Project.ScheduleRead draft.schedule := by
  obtain ⟨id, obj, hread | hread⟩ := h
  · exact Project.parseProjectJson_read hread
  · exact Project.parseProjectJson_read hread

end Stdiolink.Server
