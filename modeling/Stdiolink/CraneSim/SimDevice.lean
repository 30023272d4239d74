/-
  Stdiolink.CraneSim.SimDevice — the simulated crane, `sim_device.cpp`.

  A cylinder and a valve move on their own timers.  Four registers drive them: one for each of the
  two, a start bit that is only kept, and the mode.  In automatic mode the device itself opens the
  valve and then lowers the cylinder.

  Main results:
    * `step_safe`     — timers run exactly while something moves, and in automatic mode the valve
      opens first and the cylinder comes down;
    * `auto_mode_iff` — the automatic sequence lowers the cylinder through an open valve, in every
      run, iff nobody asks for automatic mode while the valve is still opening.
-/
import Stdiolink.Lib.Machine
import Mathlib.Data.Option.Basic

namespace Stdiolink.CraneSim

open Stdiolink.Lib

/-! ## §1. Cylinder and valve -/

/-- `CylinderState` and `ValveState`: two ends, the ways to them, and a stop in between. -/
inductive MotionState where
  | atLow
  | movingHigh
  | atHigh
  | movingLow
  | idle
  deriving Repr, DecidableEq

abbrev CylinderState := MotionState

namespace CylinderState

@[match_pattern] abbrev atBottom : CylinderState := .atLow
@[match_pattern] abbrev movingUp : CylinderState := .movingHigh
@[match_pattern] abbrev atTop : CylinderState := .atHigh
@[match_pattern] abbrev movingDown : CylinderState := .movingLow

end CylinderState

abbrev ValveState := MotionState

namespace ValveState

@[match_pattern] abbrev closed : ValveState := .atLow
@[match_pattern] abbrev movingOpen : ValveState := .movingHigh
@[match_pattern] abbrev opened : ValveState := .atHigh
@[match_pattern] abbrev movingClose : ValveState := .movingLow

end ValveState

/-- On the way to one of the ends. -/
def MotionState.Moving (s : MotionState) : Prop := s = .movingHigh ∨ s = .movingLow

instance (s : MotionState) : Decidable s.Moving := inferInstanceAs (Decidable (_ ∨ _))

/-- Halfway, if it was on the way. -/
def MotionState.stopped : MotionState → MotionState
  | .movingHigh | .movingLow => .idle
  | s => s

theorem MotionState.not_moving_stopped (s : MotionState) : ¬ s.stopped.Moving := by
  cases s <;> decide

/-- The register, the state and the timer of the cylinder or of the valve.  A timer that runs has
the interval that it was started with. -/
structure Actuator where
  register : UInt16 := 0
  state : MotionState
  timer : Option Nat := none
  deriving Repr, DecidableEq

namespace Actuator

/-- The common part of `applyCylinderAction` and `applyValveAction`, behind their checks. -/
def act (a : Actuator) (value : UInt16) (delayHigh delayLow : Nat) : Actuator :=
  if value = 0 then
    { register := value, timer := none, state := a.state.stopped }
  else if value = 1 then
    if a.state = .atHigh ∨ a.state = .movingHigh then { a with register := value }
    else { register := value, state := .movingHigh, timer := some delayHigh }
  else
    if a.state = .atLow ∨ a.state = .movingLow then { a with register := value }
    else { register := value, state := .movingLow, timer := some delayLow }

/-- The timer fires. -/
def arrive (a : Actuator) : Actuator :=
  match a.state with
  | .movingHigh => { a with state := .atHigh, timer := none }
  | .movingLow => { a with state := .atLow, timer := none }
  | _ => { a with timer := none }

/-- **The timer runs exactly while there is movement.** -/
def TimerRight (a : Actuator) : Prop := a.timer.isSome = true ↔ a.state.Moving

theorem act_timerRight {a : Actuator} (h : a.TimerRight) (value : UInt16)
    (delayHigh delayLow : Nat) : (a.act value delayHigh delayLow).TimerRight := by
  obtain ⟨register, state, timer⟩ := a
  unfold TimerRight at h ⊢
  unfold act
  split_ifs
  · simpa using state.not_moving_stopped
  · exact h
  · simp [MotionState.Moving]
  · exact h
  · simp [MotionState.Moving]

theorem arrive_timerRight (a : Actuator) : a.arrive.TimerRight := by
  obtain ⟨register, state, timer⟩ := a
  unfold TimerRight MotionState.Moving arrive
  cases state <;> simp

end Actuator

/-! ## §2. The device -/

/-- `Config`: delays in milliseconds. -/
structure Config where
  cylinderUpDelayMs : Nat := 2500
  cylinderDownDelayMs : Nat := 2000
  valveOpenDelayMs : Nat := 1500
  valveCloseDelayMs : Nat := 1200
  deriving Repr, DecidableEq

structure SimPlcCraneDevice where
  cfg : Config
  cylinder : Actuator := { state := CylinderState.atTop }
  valve : Actuator := { state := ValveState.closed }
  hrRun : UInt16 := 0
  hrMode : UInt16 := 0
  deriving Repr, DecidableEq

namespace SimPlcCraneDevice

/-- The device after an action, and the error if the action is not accepted. -/
abbrev Acted := SimPlcCraneDevice × Option String

variable (d : SimPlcCraneDevice)

/-- The error of the checks, which are the same up to what they name and what they allow. -/
def checkAction (what expected : String) (limit value : UInt16) : Option String :=
  if value > limit then
    some ("Invalid " ++ what ++ " action: " ++ toString value.toNat ++ ", expected " ++ expected)
  else none

/-- The check for manual actions. -/
def checkManual (what : String) (internalAuto : Bool) : Option String :=
  if !internalAuto ∧ d.hrMode = 1 then
    some ("Manual " ++ what ++ " action is disabled in auto mode")
  else none

def applyCylinderAction (value : UInt16) (internalAuto : Bool) : Acted :=
  match checkAction "cylinder" "0/1/2" 2 value <|> d.checkManual "cylinder" internalAuto with
  | some err => (d, some err)
  | none =>
    ({ d with
        cylinder := d.cylinder.act value d.cfg.cylinderUpDelayMs d.cfg.cylinderDownDelayMs }, none)

def applyValveAction (value : UInt16) (internalAuto : Bool) : Acted :=
  match checkAction "valve" "0/1/2" 2 value <|> d.checkManual "valve" internalAuto with
  | some err => (d, some err)
  | none =>
    ({ d with
        valve := d.valve.act value d.cfg.valveOpenDelayMs d.cfg.valveCloseDelayMs }, none)

def applyRunAction (value : UInt16) : Acted :=
  match checkAction "run" "0/1" 1 value with
  | some err => (d, some err)
  | none => ({ d with hrRun := value }, none)

def stepAutoSequence : Acted :=
  if d.hrMode ≠ 1 then (d, none)
  else if d.valve.state ≠ ValveState.opened ∧ d.valve.state ≠ ValveState.movingOpen then
    d.applyValveAction 1 true
  -- here the valve may still be on its way
  else if d.cylinder.state ≠ CylinderState.atBottom ∧
      d.cylinder.state ≠ CylinderState.movingDown then
    d.applyCylinderAction 2 true
  else (d, none)

def applyModeAction (value : UInt16) : Acted :=
  match checkAction "mode" "0/1" 1 value with
  | some err => (d, some err)
  | none =>
    let d := { d with hrMode := value }
    if d.hrMode = 1 then d.stepAutoSequence else (d, none)

def writeHoldingRegister (address value : UInt16) : Acted :=
  if address = 0 then d.applyCylinderAction value false
  else if address = 1 then d.applyValveAction value false
  else if address = 2 then d.applyRunAction value
  else if address = 3 then d.applyModeAction value
  else (d, some ("Unsupported holding register address: " ++ toString address.toNat))

def holdingRegister (address : UInt16) : UInt16 :=
  if address = 0 then d.cylinder.register
  else if address = 1 then d.valve.register
  else if address = 2 then d.hrRun
  else if address = 3 then d.hrMode
  else 0

/-- The cylinder timer fires. -/
def cylinderTimeout : SimPlcCraneDevice := { d with cylinder := d.cylinder.arrive }

/-- The valve timer fires. -/
def valveTimeout : SimPlcCraneDevice :=
  let arrived := { d with valve := d.valve.arrive }
  if d.valve.state = ValveState.movingOpen ∧ d.hrMode = 1 then arrived.stepAutoSequence.1
  else arrived

end SimPlcCraneDevice

/-! ## §3. Steps -/

/-- What happens to the device. -/
inductive DeviceEvent where
  | write (address value : UInt16)
  | cylinderTimeout
  | valveTimeout
  deriving Repr, DecidableEq

namespace SimPlcCraneDevice

/-- One step, with the error if there is one.  A timer that is not running does not fire. -/
def step (d : SimPlcCraneDevice) : DeviceEvent → Acted
  | .write address value => d.writeHoldingRegister address value
  | .cylinderTimeout => (if d.cylinder.timer.isSome then d.cylinderTimeout else d, none)
  | .valveTimeout => (if d.valve.timer.isSome then d.valveTimeout else d, none)

/-- The device as a machine; it emits its errors. -/
def machine : Machine SimPlcCraneDevice DeviceEvent String where
  step d e := ((d.step e).1, (d.step e).2.toList)

/-- **What holds in every state.** -/
structure Safe (d : SimPlcCraneDevice) : Prop where
  cylinder : d.cylinder.TimerRight
  valve : d.valve.TimerRight
  opening : d.hrMode = 1 →
    d.valve.state = ValveState.opened ∨ d.valve.state = ValveState.movingOpen
  lowering : d.hrMode = 1 → d.valve.state = ValveState.opened →
    d.cylinder.state = CylinderState.atBottom ∨ d.cylinder.state = CylinderState.movingDown

theorem new_safe (cfg : Config) : Safe { cfg := cfg } :=
  ⟨by simp [Actuator.TimerRight, MotionState.Moving],
    by simp [Actuator.TimerRight, MotionState.Moving], nofun, nofun⟩

variable {d : SimPlcCraneDevice}

/-- **The automatic sequence**: the valve is opened, or else the cylinder comes down, or all is done. -/
theorem stepAutoSequence_cases (hmode : d.hrMode = 1) :
    (d.valve.state ≠ ValveState.opened ∧ d.valve.state ≠ ValveState.movingOpen ∧
      d.stepAutoSequence =
        ({ d with valve := ⟨1, ValveState.movingOpen, some d.cfg.valveOpenDelayMs⟩ }, none)) ∨
    ((d.valve.state = ValveState.opened ∨ d.valve.state = ValveState.movingOpen) ∧
      (d.cylinder.state ≠ CylinderState.atBottom ∧
          d.cylinder.state ≠ CylinderState.movingDown ∧
        d.stepAutoSequence =
          ({ d with
              cylinder := ⟨2, CylinderState.movingDown, some d.cfg.cylinderDownDelayMs⟩ }, none) ∨
      (d.cylinder.state = CylinderState.atBottom ∨
          d.cylinder.state = CylinderState.movingDown) ∧
        d.stepAutoSequence = (d, none))) := by
  unfold stepAutoSequence
  rw [if_neg (not_not.mpr hmode)]
  by_cases hvalve : d.valve.state = ValveState.opened ∨ d.valve.state = ValveState.movingOpen
  · refine Or.inr ⟨hvalve, ?_⟩
    rw [if_neg (not_and_or.mpr (hvalve.imp not_not.mpr not_not.mpr))]
    by_cases hcylinder : d.cylinder.state = CylinderState.atBottom ∨
        d.cylinder.state = CylinderState.movingDown
    · rw [if_neg (not_and_or.mpr (hcylinder.imp not_not.mpr not_not.mpr))]
      exact Or.inr ⟨hcylinder, rfl⟩
    · have hne := not_or.mp hcylinder
      rw [if_pos hne]
      refine Or.inl ⟨hne.1, hne.2, ?_⟩
      show (_, none) = _
      rw [Actuator.act, if_neg (by decide), if_neg (by decide), if_neg hcylinder]
  · have hne := not_or.mp hvalve
    rw [if_pos hne]
    refine Or.inl ⟨hne.1, hne.2, ?_⟩
    show (_, none) = _
    rw [Actuator.act, if_neg (by decide), if_pos rfl, if_neg hvalve]

/-- Wherever it starts from, the automatic sequence leaves things right. -/
theorem stepAutoSequence_safe (hmode : d.hrMode = 1) (hcylinder : d.cylinder.TimerRight)
    (hvalve : d.valve.TimerRight) : Safe d.stepAutoSequence.1 := by
  rcases stepAutoSequence_cases hmode with
    ⟨-, -, heq⟩ | ⟨hopen, ⟨-, -, heq⟩ | ⟨hdown, heq⟩⟩
  · rw [heq]
    exact ⟨hcylinder, by simp [Actuator.TimerRight, MotionState.Moving],
      fun _ => Or.inr rfl, fun _ hopened => nomatch hopened⟩
  · rw [heq]
    exact ⟨by simp [Actuator.TimerRight, MotionState.Moving], hvalve, fun _ => hopen,
      fun _ _ => Or.inr rfl⟩
  · rw [heq]
    exact ⟨hcylinder, hvalve, fun _ => hopen, fun _ _ => hdown⟩

/-- **What one step can do.** -/
inductive Stepped (d : SimPlcCraneDevice) : DeviceEvent → SimPlcCraneDevice → Prop where
  | same (e : DeviceEvent) : Stepped d e d
  | cylinder (value : UInt16) (hmanual : d.hrMode ≠ 1) : Stepped d (.write 0 value)
      { d with
        cylinder := d.cylinder.act value d.cfg.cylinderUpDelayMs d.cfg.cylinderDownDelayMs }
  | valve (value : UInt16) (hmanual : d.hrMode ≠ 1) : Stepped d (.write 1 value)
      { d with valve := d.valve.act value d.cfg.valveOpenDelayMs d.cfg.valveCloseDelayMs }
  | run (value : UInt16) : Stepped d (.write 2 value) { d with hrRun := value }
  | manual : Stepped d (.write 3 0) { d with hrMode := 0 }
  | auto : Stepped d (.write 3 1) { d with hrMode := 1 }.stepAutoSequence.1
  | cylinderTimeout (harmed : d.cylinder.timer.isSome = true) :
      Stepped d .cylinderTimeout { d with cylinder := d.cylinder.arrive }
  | valveArrives (harmed : d.valve.timer.isSome = true)
      (hother : ¬(d.valve.state = ValveState.movingOpen ∧ d.hrMode = 1)) :
      Stepped d .valveTimeout { d with valve := d.valve.arrive }
  | valveOpens (harmed : d.valve.timer.isSome = true)
      (hopening : d.valve.state = ValveState.movingOpen) (hmode : d.hrMode = 1) :
      Stepped d .valveTimeout { d with valve := d.valve.arrive }.stepAutoSequence.1

variable {value address : UInt16}

theorem checkAction_none {what expected : String} {limit : UInt16}
    (h : checkAction what expected limit value = none) : value ≤ limit := by
  unfold checkAction at h
  split_ifs at h with hgreater
  exact UInt16.not_lt.mp hgreater

theorem checkManual_none {what : String} (h : d.checkManual what false = none) :
    d.hrMode ≠ 1 := by
  unfold checkManual at h
  split_ifs at h with hauto
  exact fun hmode => hauto ⟨rfl, hmode⟩

theorem step_stepped (d : SimPlcCraneDevice) (e : DeviceEvent) : Stepped d e (d.step e).1 := by
  cases e with
  | write address value =>
    show Stepped d _ (d.writeHoldingRegister address value).1
    unfold writeHoldingRegister
    split_ifs with hcylinder hvalve hrun hmode
    · subst hcylinder
      unfold applyCylinderAction
      split
      · exact .same _
      · rename_i hchecks
        exact .cylinder value (checkManual_none ((Option.orElse_eq_none _ _).mp hchecks).2)
    · subst hvalve
      unfold applyValveAction
      split
      · exact .same _
      · rename_i hchecks
        exact .valve value (checkManual_none ((Option.orElse_eq_none _ _).mp hchecks).2)
    · subst hrun
      unfold applyRunAction
      split
      · exact .same _
      · exact .run value
    · subst hmode
      unfold applyModeAction
      split
      · exact .same _
      · -- only 0 and 1 pass the check
        rename_i hcheck
        have hle := checkAction_none hcheck
        by_cases hone : value = 1
        · subst hone
          exact .auto
        · have hzero : value = 0 := by
            have hlt : value.toNat ≤ 1 := hle
            have hne : value.toNat ≠ 1 := fun h => hone (UInt16.toNat_inj.mp h)
            exact UInt16.toNat_inj.mp (by show value.toNat = 0; omega)
          subst hzero
          exact .manual
    · exact .same _
  | cylinderTimeout =>
    show Stepped d _ (if _ then _ else _)
    split_ifs with harmed
    · exact .cylinderTimeout harmed
    · exact .same _
  | valveTimeout =>
    show Stepped d _ (if _ then _ else _)
    split_ifs with harmed
    · unfold valveTimeout
      dsimp only
      split_ifs with hopening
      · exact .valveOpens harmed hopening.1 hopening.2
      · exact .valveArrives harmed hopening
    · exact .same _

/-- Every automatic sequence is accepted. -/
theorem stepAutoSequence_accepted (d : SimPlcCraneDevice) : d.stepAutoSequence.2 = none := by
  by_cases hmode : d.hrMode = 1
  · rcases stepAutoSequence_cases hmode with ⟨-, -, heq⟩ | ⟨-, ⟨-, -, heq⟩ | ⟨-, heq⟩⟩ <;> rw [heq]
  · unfold stepAutoSequence
    rw [if_pos hmode]

/-- **A write that is not accepted** leaves the device. -/
theorem writeHoldingRegister_error {err : String}
    (h : (d.writeHoldingRegister address value).2 = some err) :
    (d.writeHoldingRegister address value).1 = d := by
  unfold writeHoldingRegister at h ⊢
  split_ifs at h ⊢
  · unfold applyCylinderAction at h ⊢
    split at h
    · rfl
    · cases h
  · unfold applyValveAction at h ⊢
    split at h
    · rfl
    · cases h
  · unfold applyRunAction at h ⊢
    split at h
    · rfl
    · cases h
  · unfold applyModeAction at h ⊢
    split at h
    · rfl
    · -- behind the check the mode is taken
      dsimp only at h
      split_ifs at h
      rw [stepAutoSequence_accepted] at h
      cases h
  · rfl

/-- There are four registers. -/
theorem writeHoldingRegister_above (h : address > 3) :
    d.writeHoldingRegister address value =
      (d, some ("Unsupported holding register address: " ++ toString address.toNat)) := by
  have hlt : 3 < address.toNat := h
  have hne : ∀ a : UInt16, a.toNat ≤ 3 → address ≠ a := by
    rintro a ha rfl
    omega
  unfold writeHoldingRegister
  rw [if_neg (hne 0 (by decide)), if_neg (hne 1 (by decide)), if_neg (hne 2 (by decide)),
    if_neg (hne 3 (by decide))]

/-- **A write changes no other register**, unless it starts the automatic sequence. -/
theorem writeHoldingRegister_frame {a : UInt16} (hne : a ≠ address)
    (hauto : ¬ (address = 3 ∧ value = 1)) :
    (d.writeHoldingRegister address value).1.holdingRegister a = d.holdingRegister a := by
  have hstepped := step_stepped d (.write address value)
  rw [show (d.step (.write address value)).1 = (d.writeHoldingRegister address value).1 from rfl]
    at hstepped
  generalize (d.writeHoldingRegister address value).1 = d' at hstepped
  cases hstepped with
  | same => rfl
  | cylinder value hmanual =>
    unfold holdingRegister
    rw [if_neg hne, if_neg hne]
  | valve value hmanual =>
    unfold holdingRegister
    rw [if_neg hne, if_neg hne]
  | run value =>
    unfold holdingRegister
    rw [if_neg hne, if_neg hne]
  | manual =>
    unfold holdingRegister
    rw [if_neg hne, if_neg hne]
  | auto => exact absurd ⟨rfl, rfl⟩ hauto

/-! ## §4. Every run -/

/-- **One step keeps what is right.** -/
theorem step_safe (h : Safe d) (e : DeviceEvent) : Safe (d.step e).1 := by
  have hstepped := step_stepped d e
  generalize (d.step e).1 = d' at hstepped
  cases hstepped with
  | same => exact h
  | cylinder value hmanual =>
    exact ⟨Actuator.act_timerRight h.cylinder _ _ _, h.valve, fun hmode => absurd hmode hmanual,
      fun hmode => absurd hmode hmanual⟩
  | valve value hmanual =>
    exact ⟨h.cylinder, Actuator.act_timerRight h.valve _ _ _, fun hmode => absurd hmode hmanual,
      fun hmode => absurd hmode hmanual⟩
  | run value => exact ⟨h.cylinder, h.valve, h.opening, h.lowering⟩
  | manual => exact ⟨h.cylinder, h.valve, nofun, nofun⟩
  | auto => exact stepAutoSequence_safe rfl h.cylinder h.valve
  | cylinderTimeout harmed =>
    refine ⟨Actuator.arrive_timerRight _, h.valve, h.opening, fun hmode hopened => Or.inl ?_⟩
    -- below an open valve the only way is down
    have hdown : d.cylinder.state = CylinderState.movingDown := by
      rcases h.lowering hmode hopened with hbottom | hdown
      · rcases h.cylinder.mp harmed with hup | hdown
        · rw [hbottom] at hup
          cases hup
        · exact hdown
      · exact hdown
    show d.cylinder.arrive.state = _
    unfold Actuator.arrive
    rw [hdown]
  | valveArrives harmed hother =>
    have hmanual : d.hrMode ≠ 1 := by
      intro hmode
      rcases h.opening hmode with hopened | hopening
      · -- an open valve does not move
        rcases h.valve.mp harmed with hmoving | hmoving
        · rw [hopened] at hmoving
          cases hmoving
        · rw [hopened] at hmoving
          cases hmoving
      · exact hother ⟨hopening, hmode⟩
    exact ⟨h.cylinder, Actuator.arrive_timerRight _, fun hmode => absurd hmode hmanual,
      fun hmode => absurd hmode hmanual⟩
  | valveOpens harmed hopening hmode =>
    exact stepAutoSequence_safe hmode h.cylinder (Actuator.arrive_timerRight _)

/-- The automatic sequence starts to lower the cylinder: it comes down, and nobody has written to its
register. -/
def AutoLowers (d : SimPlcCraneDevice) (e : DeviceEvent) : Prop :=
  d.cylinder.state ≠ CylinderState.movingDown ∧
    (d.step e).1.cylinder.state = CylinderState.movingDown ∧ ∀ value, e ≠ .write 0 value

/-- Automatic mode is asked for while the valve is opening and the cylinder is not down yet. -/
def AsksWhileOpening (d : SimPlcCraneDevice) (e : DeviceEvent) : Prop :=
  e = .write 3 1 ∧ d.valve.state = ValveState.movingOpen ∧
    d.cylinder.state ≠ CylinderState.atBottom ∧ d.cylinder.state ≠ CylinderState.movingDown

/-- After a timer has fired, a cylinder does not begin to move. -/
theorem not_moving_arrive (a : Actuator) : ¬ a.arrive.state.Moving := by
  obtain ⟨register, state, timer⟩ := a
  unfold Actuator.arrive
  cases state <;> simp [MotionState.Moving]

/-- **The valve is open** when the automatic sequence starts to lower the cylinder, or it was asked
for too early. -/
theorem autoLowers_open_iff (d : SimPlcCraneDevice) (e : DeviceEvent) :
    (AutoLowers d e → (d.step e).1.valve.state = ValveState.opened) ↔ ¬ AsksWhileOpening d e := by
  constructor
  · rintro hopen ⟨rfl, hopening, hbottom, hdown⟩
    -- the second branch of the sequence does not tell an open valve from one that opens
    have hlowered : (d.step (.write 3 1)).1 = { d with
        hrMode := 1
        cylinder := ⟨2, CylinderState.movingDown, some d.cfg.cylinderDownDelayMs⟩ } := by
      show ({ d with hrMode := 1 } : SimPlcCraneDevice).stepAutoSequence.1 = _
      rcases stepAutoSequence_cases (d := { d with hrMode := 1 }) rfl with
        ⟨-, hne, -⟩ | ⟨-, ⟨-, -, heq⟩ | ⟨hthere, -⟩⟩
      · exact absurd hopening hne
      · rw [heq]
      · exact (hthere.elim hbottom hdown).elim
    have hvalve := hopen ⟨hdown, by rw [hlowered], nofun⟩
    rw [hlowered] at hvalve
    rw [show d.valve.state = ValveState.opened from hvalve] at hopening
    cases hopening
  · rintro hasks ⟨hnot, hlowers, hmanual⟩
    have hstepped := step_stepped d e
    generalize (d.step e).1 = d' at hstepped hlowers ⊢
    cases hstepped with
    | same => exact absurd hlowers hnot
    | cylinder value => exact absurd rfl (hmanual value)
    | valve value => exact absurd hlowers hnot
    | run value => exact absurd hlowers hnot
    | manual => exact absurd hlowers hnot
    | auto =>
      rcases stepAutoSequence_cases (d := { d with hrMode := 1 }) rfl with
        ⟨-, -, heq⟩ | ⟨hopen, ⟨hbottom, hdown, heq⟩ | ⟨-, heq⟩⟩
      · rw [heq] at hlowers
        exact absurd hlowers hnot
      · rw [heq]
        rcases hopen with hopened | hopening
        · exact hopened
        · exact absurd ⟨rfl, hopening, hbottom, hdown⟩ hasks
      · rw [heq] at hlowers
        exact absurd hlowers hnot
    | cylinderTimeout => exact absurd (Or.inr hlowers) (not_moving_arrive d.cylinder)
    | valveArrives => exact absurd hlowers hnot
    | valveOpens harmed hopening hmode =>
      have harrived : d.valve.arrive.state = ValveState.opened := by
        unfold Actuator.arrive
        rw [hopening]
      rcases stepAutoSequence_cases (d := { d with valve := d.valve.arrive }) hmode with
        ⟨hne, -, -⟩ | ⟨-, ⟨-, -, heq⟩ | ⟨-, heq⟩⟩
      · exact absurd harrived hne
      · rw [heq]
        exact harrived
      · rw [heq]
        exact harrived

/-- **Automatic mode.**  In every state of every run the timers run exactly while something moves,
and in automatic mode the valve is open or opening, and below an open valve the cylinder is down or
on its way.  The automatic sequence lowers it through an open valve all along a run iff automatic
mode is never asked for too early. -/
theorem auto_mode_iff (cfg : Config) (es : List DeviceEvent) :
    machine.EveryState (fun c => Safe c.state) (Machine.start { cfg := cfg }) es ∧
      (machine.EveryStep
          (fun c e => AutoLowers c.state e → (c.state.step e).1.valve.state = ValveState.opened)
          (Machine.start { cfg := cfg }) es ↔
        machine.EveryStep (fun c e => ¬ AsksWhileOpening c.state e)
          (Machine.start { cfg := cfg }) es) := by
  constructor
  · exact Machine.everyState_of_invariant (M := machine) (C := fun _ _ => True)
      (fun c => Safe c.state) (fun c e hsafe _ => step_safe hsafe e) (fun c hsafe => hsafe)
      (new_safe cfg) (Machine.everyStep_iff.mpr fun _ _ _ _ => trivial)
  · exact Machine.everyStep_congr_of_invariant (fun _ => True) (fun _ _ _ => trivial)
      (fun c e _ => autoLowers_open_iff c.state e) trivial

/-- Automatic mode is asked for twice: the cylinder comes down while the valve is opening. -/
theorem lowered_through_opening_valve :
    let asked : SimPlcCraneDevice :=
      (machine.run (Machine.start { cfg := {} }) [.write 3 1]).state
    asked.hrMode = 1 ∧ AutoLowers asked (.write 3 1) ∧
      (asked.step (.write 3 1)).1.valve.state = ValveState.movingOpen := by
  refine ⟨by decide, ⟨by decide, by decide, nofun⟩, by decide⟩

end SimPlcCraneDevice

end Stdiolink.CraneSim
