/-
  Stdiolink.Server.ScheduleFields — which schedules are taken as they are written,
  `model/schedule.cpp`.

  The timeout is read strictly.  The type and the other settings go through conversions that put a
  default in the place of a value of another kind, before the bounds are checked.

  Main results:
    * `parseNonNegativeIntField_eq`  — the strict reader takes the integer that is there;
    * `fromJson_as_written_iff`      — when a schedule is taken as written, or rejected;
    * `text_taken_for_default`       — an interval that is replaced.
-/
import Stdiolink.Server.ProjectJson

namespace Stdiolink.Server.Schedule

open Stdiolink.Protocol
open Stdiolink.Protocol.Json
open Stdiolink.Meta

/-! ## §1. What a schedule says -/

/-- The name of a type. -/
def typeName : ScheduleType → String
  | .manual => "manual"
  | .fixedRate => "fixed_rate"
  | .daemon => "daemon"

/-- A number in a schedule: its key, the field that it is read into, and the least one allowed. -/
structure Setting where
  key : String
  field : Schedule → Int
  least : Int

/-- The numbers that matter for a type. -/
def settings : ScheduleType → List Setting
  | .manual => [⟨"runTimeoutMs", runTimeoutMs, 0⟩]
  | .fixedRate =>
    [⟨"runTimeoutMs", runTimeoutMs, 0⟩, ⟨"intervalMs", intervalMs, 100⟩,
      ⟨"maxConcurrent", maxConcurrent, 1⟩]
  | .daemon =>
    [⟨"runTimeoutMs", runTimeoutMs, 0⟩, ⟨"restartDelayMs", restartDelayMs, 0⟩,
      ⟨"maxConsecutiveFailures", maxConsecutiveFailures, 1⟩]

variable (obj : List (String × Json))

/-- If the setting is there, it is an integer within its bounds, and the field has it. -/
def SettingAsWritten (schedule : Schedule) (s : Setting) : Prop :=
  hasKey obj s.key = true → ∃ n : Int,
    value obj s.key = .num n ∧ s.least ≤ n ∧ n ≤ 2147483647 ∧ s.field schedule = n

/-- **The schedule is the one that is written.** -/
structure AsWritten (schedule : Schedule) : Prop where
  type : if hasKey obj "type" then value obj "type" = .str (typeName schedule.type)
    else schedule.type = .manual
  settings : ∀ s ∈ settings schedule.type, SettingAsWritten obj schedule s

/-- The integer of this setting is too small. -/
def TooSmall (key : String) (least : Int) : Prop :=
  ∃ n : Int, value obj key = .num n ∧ IsInt n ∧ n < least

/-- The setting is an integer, if it is there. -/
def IntIfThere (key : String) : Prop :=
  hasKey obj key = true → ∃ n : Int, value obj key = .num n ∧ IsInt n

/-- For each of two settings that go with a type: both are integers, if they are there, or an integer
is too small. -/
def PairTaken (key : String) (least : Int) (key' : String) (least' : Int) : Prop :=
  TooSmall obj key least ∨ TooSmall obj key' least' ∨ IntIfThere obj key ∧ IntIfThere obj key'

/-- The setting is there, and it is no integer from 0 on of 32 bits. -/
def NoNonNegativeInt (key : String) : Prop :=
  hasKey obj key = true ∧ ¬ ∃ n : Int, value obj key = .num n ∧ 0 ≤ n ∧ n ≤ 2147483647

/-- **Nothing is replaced**: the timeout is no integer that is allowed, or the type is a text, if it
is there, and the settings that go with it are integers. -/
def NothingReplaced : Prop :=
  NoNonNegativeInt obj "runTimeoutMs" ∨
  hasKey obj "type" = false ∨
  ∃ text, value obj "type" = .str text ∧
    (text = "fixed_rate" → PairTaken obj "intervalMs" 100 "maxConcurrent" 1) ∧
    (text = "daemon" → PairTaken obj "restartDelayMs" 0 "maxConsecutiveFailures" 1)

/-! ## §2. One setting -/

variable {obj}

variable {key : String} {n default : Int}

/-- **The strict reader** takes the integer that is there. -/
theorem parseNonNegativeIntField_eq (h : parseNonNegativeIntField obj key 0 = .ok n)
    (hkey : hasKey obj key = true) :
    value obj key = .num n ∧ 0 ≤ n ∧ n ≤ 2147483647 := by
  have hrange := parseNonNegativeIntField_range h
  refine ⟨?_, hrange⟩
  unfold parseNonNegativeIntField at h
  rw [hkey] at h
  cases hvalue : value obj key with
  | num q =>
    rw [hvalue] at h
    simp only [isDouble, Bool.not_true, Bool.false_eq_true, if_false] at h
    split_ifs at h with hraw
    simp only [ne_eq, Bool.or_eq_true, decide_eq_true_eq, not_or, not_not, not_lt] at hraw
    -- the double is the integer, and so is what is read as it
    have hread : toDouble (.num q) = n := by
      rw [← Except.ok.inj h]
      exact (Rat.coe_int_num_of_den_eq_one hraw.1.1).symm
    rw [eq_of_toDouble_eq hread (by omega)]
  | _ =>
    rw [hvalue] at h
    cases h

/-- A conversion gives less than its default only for an integer. -/
theorem toIntOr_lt_iff {least : Int} (hdefault : least ≤ default) :
    toIntOr default (value obj key) < least ↔ TooSmall obj key least := by
  constructor
  · intro h
    cases hvalue : value obj key with
    | num q =>
      rw [hvalue, toIntOr] at h
      split_ifs at h with hq
      · obtain ⟨hden, hint⟩ := hq
        refine ⟨q.num, ?_, hint, h⟩
        rw [hvalue, Rat.coe_int_num_of_den_eq_one hden]
      · omega
    | _ =>
      rw [hvalue, toIntOr] at h
      · omega
      · intro q hq
        cases hq
  · rintro ⟨n, hvalue, hint, hlt⟩
    rw [hvalue, toIntOr_num hint]
    exact hlt

/-- A conversion takes the integer that is there. -/
theorem settingAsWritten_iff {s : Setting} {schedule : Schedule}
    (hfield : s.field schedule = toIntOr default (value obj s.key))
    (hleast : s.least ≤ s.field schedule) (hlow : -2147483648 ≤ s.least) :
    SettingAsWritten obj schedule s ↔ IntIfThere obj s.key := by
  constructor
  · intro h hkey
    obtain ⟨n, hvalue, hn, hmax, -⟩ := h hkey
    exact ⟨n, hvalue, by omega, hmax⟩
  · intro h hkey
    obtain ⟨n, hvalue, hint⟩ := h hkey
    have hn : s.field schedule = n := by rw [hfield, hvalue, toIntOr_num hint]
    exact ⟨n, hvalue, by omega, hint.2, hn⟩

/-! ## §3. A whole schedule -/

/-- The timeout that was read. -/
theorem timeoutAsWritten (hn : parseNonNegativeIntField obj "runTimeoutMs" 0 = .ok n)
    {schedule : Schedule} (hschedule : schedule.runTimeoutMs = n) :
    SettingAsWritten obj schedule ⟨"runTimeoutMs", runTimeoutMs, 0⟩ := by
  intro hkey
  obtain ⟨hvalue, hlow, hhigh⟩ := parseNonNegativeIntField_eq hn hkey
  exact ⟨n, hvalue, hlow, hhigh, hschedule⟩

/-- A type with two settings, for the schedule that is read. -/
theorem pairAsWritten_iff (hn : parseNonNegativeIntField obj "runTimeoutMs" 0 = .ok n)
    (schedule : Schedule) (s s' : Setting) (hschedule : schedule.runTimeoutMs = n)
    (htype : value obj "type" = .str (typeName schedule.type))
    (hsettings : settings schedule.type = [⟨"runTimeoutMs", runTimeoutMs, 0⟩, s, s'])
    {default' : Int} (hfield : s.field schedule = toIntOr default (value obj s.key))
    (hfield' : s'.field schedule = toIntOr default' (value obj s'.key))
    (hdefault : s.least ≤ default) (hdefault' : s'.least ≤ default') (hlow : -2147483648 ≤ s.least)
    (hlow' : -2147483648 ≤ s'.least) :
    (¬ s.field schedule < s.least → ¬ s'.field schedule < s'.least → AsWritten obj schedule) ↔
      PairTaken obj s.key s.least s'.key s'.least := by
  rw [PairTaken, ← toIntOr_lt_iff hdefault, ← toIntOr_lt_iff hdefault', ← hfield, ← hfield']
  have hwritten : AsWritten obj schedule ↔
      SettingAsWritten obj schedule s ∧ SettingAsWritten obj schedule s' := by
    constructor
    · intro h
      have hall := h.settings
      rw [hsettings] at hall
      exact ⟨hall s (by simp), hall s' (by simp)⟩
    · rintro ⟨hs, hs'⟩
      refine ⟨?_, ?_⟩
      · split
        · exact htype
        · rename_i hkey
          rw [value, hasKey_eq_false.mp (Bool.not_eq_true _ ▸ hkey)] at htype
          cases htype
      · rw [hsettings]
        simp only [List.forall_mem_cons]
        exact ⟨timeoutAsWritten hn hschedule, hs, hs', fun _ h => absurd h List.not_mem_nil⟩
  rw [hwritten]
  by_cases hsmall : s.field schedule < s.least
  · simp [hsmall]
  by_cases hsmall' : s'.field schedule < s'.least
  · simp [hsmall']
  rw [settingAsWritten_iff hfield (not_lt.mp hsmall) hlow,
    settingAsWritten_iff hfield' (not_lt.mp hsmall') hlow']
  simp [hsmall, hsmall']

theorem error_ne {text rest : String} (h : text ≠ "") : text ++ rest ≠ "" := by
  intro heq
  rw [String.append_eq_empty_iff] at heq
  exact h heq.1

/-- What the strict reader rejects, and that its error is a text. -/
theorem parseNonNegativeIntField_error {error : String}
    (h : parseNonNegativeIntField obj key 0 = .error error) :
    error ≠ "" ∧ NoNonNegativeInt obj key := by
  refine ⟨?_, ?_, ?_⟩
  · unfold parseNonNegativeIntField at h
    dsimp only at h
    split_ifs at h
    all_goals
      rw [← Except.error.inj h]
      exact error_ne (error_ne (by decide))
  · by_contra hkey
    rw [Bool.not_eq_true] at hkey
    rw [parseNonNegativeIntField, hkey] at h
    cases h
  · rintro ⟨n, hvalue, hlow, hhigh⟩
    by_cases hkey : hasKey obj key = true
    · rw [parseNonNegativeIntField_num hkey hvalue hlow hhigh] at h
      cases h
    · rw [Bool.not_eq_true] at hkey
      rw [parseNonNegativeIntField, hkey] at h
      cases h

/-- What is read is no integer that is rejected. -/
theorem not_noNonNegativeInt (h : parseNonNegativeIntField obj key 0 = .ok n) :
    ¬ NoNonNegativeInt obj key := by
  rintro ⟨hkey, hno⟩
  exact hno ⟨n, parseNonNegativeIntField_eq h hkey⟩

/-- A schedule of no type of its own. -/
theorem manualAsWritten_iff (hn : parseNonNegativeIntField obj "runTimeoutMs" 0 = .ok n) :
    AsWritten obj { runTimeoutMs := n } ↔
      hasKey obj "type" = false ∨ value obj "type" = .str "manual" := by
  have hsettings : ∀ s ∈ settings .manual,
      SettingAsWritten obj ({ runTimeoutMs := n } : Schedule) s := by
    intro s hs
    rw [List.mem_singleton.mp hs]
    exact timeoutAsWritten hn rfl
  constructor
  · intro h
    cases hkey : hasKey obj "type" with
    | false => exact .inl rfl
    | true =>
      have htype := h.type
      rw [hkey] at htype
      exact .inr htype
  · rintro (hkey | htype)
    · refine ⟨?_, hsettings⟩
      rw [hkey]
      rfl
    · refine ⟨?_, hsettings⟩
      split
      · exact htype
      · rfl

/-- What is read after the timeout, for a type. -/
theorem fromJson_of_type (hn : parseNonNegativeIntField obj "runTimeoutMs" 0 = .ok n)
    {text : String} (htype : value obj "type" = .str text) :
    ((fromJson obj).2 = "" → AsWritten obj (fromJson obj).1) ↔
      (text = "fixed_rate" → PairTaken obj "intervalMs" 100 "maxConcurrent" 1) ∧
      (text = "daemon" → PairTaken obj "restartDelayMs" 0 "maxConsecutiveFailures" 1) := by
  unfold fromJson
  rw [hn, htype, toStrOr]
  dsimp only
  by_cases hmanual : text = "manual"
  · subst hmanual
    rw [if_pos rfl]
    refine iff_of_true (fun _ => (manualAsWritten_iff hn).mpr (.inr htype)) ⟨?_, ?_⟩
    · exact fun h => absurd h (by decide)
    · exact fun h => absurd h (by decide)
  rw [if_neg hmanual]
  by_cases hfixed : text = "fixed_rate"
  · subst hfixed
    rw [if_pos rfl]
    have hpair := pairAsWritten_iff hn
      { type := .fixedRate
        runTimeoutMs := n
        intervalMs := toIntOr 5000 (value obj "intervalMs")
        maxConcurrent := toIntOr 1 (value obj "maxConcurrent") }
      ⟨"intervalMs", intervalMs, 100⟩ ⟨"maxConcurrent", maxConcurrent, 1⟩ rfl htype rfl rfl rfl
      (by decide) (by decide) (by decide) (by decide)
    rw [and_iff_left (fun h => absurd h (by decide)), imp_iff_right rfl, ← hpair]
    dsimp only
    -- a rejected schedule has an error, a taken one has both bounds
    split_ifs with hinterval hmax
    · have hne : "schedule.intervalMs must be >= 100" ≠ "" := by decide
      exact iff_of_true (fun h => absurd h hne) (fun h => absurd hinterval h)
    · have hne : "schedule.maxConcurrent must be >= 1" ≠ "" := by decide
      exact iff_of_true (fun h => absurd h hne) (fun _ h => absurd hmax h)
    · rw [imp_iff_right rfl, imp_iff_right hinterval, imp_iff_right hmax]
  rw [if_neg hfixed]
  by_cases hdaemon : text = "daemon"
  · subst hdaemon
    rw [if_pos rfl]
    have hpair := pairAsWritten_iff hn
      { type := .daemon
        runTimeoutMs := n
        restartDelayMs := toIntOr 3000 (value obj "restartDelayMs")
        maxConsecutiveFailures := toIntOr 5 (value obj "maxConsecutiveFailures") }
      ⟨"restartDelayMs", restartDelayMs, 0⟩
      ⟨"maxConsecutiveFailures", maxConsecutiveFailures, 1⟩ rfl htype rfl rfl rfl
      (by decide) (by decide) (by decide) (by decide)
    rw [and_iff_right (fun h => absurd h (by decide)), imp_iff_right rfl, ← hpair]
    dsimp only
    split_ifs with hdelay hfailures
    · have hne : "schedule.restartDelayMs must be >= 0" ≠ "" := by decide
      exact iff_of_true (fun h => absurd h hne) (fun h => absurd hdelay h)
    · have hne : "schedule.maxConsecutiveFailures must be >= 1" ≠ "" := by decide
      exact iff_of_true (fun h => absurd h hne) (fun _ h => absurd hfailures h)
    · rw [imp_iff_right rfl, imp_iff_right hdelay, imp_iff_right hfailures]
  rw [if_neg hdaemon]
  refine iff_of_true (fun h => ?_) ⟨fun h => absurd h hfixed, fun h => absurd h hdaemon⟩
  exact absurd h (error_ne (by decide))

/-- **When a schedule is taken as it is written, or rejected**: if and only if nothing in it is
replaced by a default. -/
theorem fromJson_as_written_iff (obj : List (String × Json)) :
    ((fromJson obj).2 = "" → AsWritten obj (fromJson obj).1) ↔ NothingReplaced obj := by
  rw [NothingReplaced]
  cases hn : parseNonNegativeIntField obj "runTimeoutMs" 0 with
  | error error =>
    obtain ⟨hne, hrejected⟩ := parseNonNegativeIntField_error hn
    refine iff_of_true (fun h => ?_) (.inl hrejected)
    rw [fromJson, hn] at h
    exact absurd h hne
  | ok n =>
    have hok := not_noNonNegativeInt hn
    by_cases htype : ∃ text, value obj "type" = .str text
    · obtain ⟨text, htype⟩ := htype
      have hkey : ¬ hasKey obj "type" = false := by
        intro hkey
        rw [value, hasKey_eq_false.mp hkey] at htype
        cases htype
      rw [fromJson_of_type hn htype, or_iff_right hok, or_iff_right hkey]
      simp only [htype, Json.str.injEq, exists_eq_left']
    · -- a value of another kind is taken for `manual`
      have hmanual : fromJson obj = ({ runTimeoutMs := n }, "") := by
        unfold fromJson
        rw [hn]
        dsimp only
        rw [if_pos]
        cases hvalue : value obj "type" with
        | str text => exact absurd ⟨text, hvalue⟩ htype
        | _ => rfl
      rw [hmanual, imp_iff_right rfl, manualAsWritten_iff hn]
      have hno : ∀ text, value obj "type" ≠ .str text := fun text h => htype ⟨text, h⟩
      simp only [hok, hno, false_or, false_and, exists_false, or_false]

/-- **An interval that is replaced**: the text 200 is taken for 5000. -/
theorem text_taken_for_default :
    let obj := [("intervalMs", Json.str "200"), ("type", .str "fixed_rate")]
    ¬((fromJson obj).2 = "" → AsWritten obj (fromJson obj).1) := by
  intro obj h
  have hread : fromJson obj = ({ type := .fixedRate }, "") := by decide
  rw [hread] at h
  obtain ⟨n, hvalue, -⟩ :=
    (h rfl).settings ⟨"intervalMs", intervalMs, 100⟩ (by simp [settings]) rfl
  cases hvalue

end Stdiolink.Server.Schedule
