/-
  Stdiolink.Modbus.FailedRuns — what a `run` that fails leaves behind.

  `run` takes the event mode and opens the port, and then adds the units one by one.  A bad entry
  closes the port again.  The units added before it and the new event mode stay.

  Main results:
    * `unitEntry_ok_iff`  — the entries that become units;
    * `addUnits_spec`     — the loop over the entries keeps every unit that is there;
    * `failed_run_iff`    — when a failed `run` leaves the handler as it was.
-/
import Stdiolink.Modbus.ServerHandlers

namespace Stdiolink.Modbus

open Stdiolink.Protocol
open Stdiolink.Protocol.Json
open UnitDataAreas

/-! ## §1. Entries -/

/-- An entry that becomes a unit: its id is an integer from 1 to 247, and there is no such unit. -/
def EntryFits (units : UnitDataAreas) (uo : List (String × Json)) : Prop :=
  ∃ q, value uo "id" = num q ∧ toDouble (num q) = ⌊toDouble (num q)⌋ ∧
    1 ≤ Meta.castInt (toDouble (num q)) ∧ Meta.castInt (toDouble (num q)) ≤ 247 ∧
    units.hasUnit (UInt8.ofInt (Meta.castInt (toDouble (num q)))) = false

section Entries

variable {units : UnitDataAreas} {i : Nat} {uo : List (String × Json)}

/-- The unit of an entry is new, and the units before it are as they were. -/
theorem unitEntry_ok {uid : Int} {units' : UnitDataAreas}
    (h : unitEntry units i uo = .ok (uid, units')) :
    EntryFits units uo ∧ units.hasUnit (UInt8.ofInt uid) = false ∧
      units'.hasUnit (UInt8.ofInt uid) = true ∧
      ∀ u, units.hasUnit u = true → units' u = units u := by
  unfold unitEntry at h
  dsimp only at h
  cases hid : value uo "id" with
  | num q =>
    rw [hid] at h
    dsimp only at h
    split_ifs at h with hfloor hrange
    cases hadd : units.addUnit (UInt8.ofInt (Meta.castInt (toDouble (num q))))
        (toIntOr 10000 (value uo "size")) with
    | none => simp [hadd] at h
    | some added =>
      rw [hadd] at h
      obtain ⟨rfl, rfl⟩ := Prod.mk.inj (Except.ok.inj h)
      obtain ⟨hnew, hthere, hkeep⟩ := addUnit_ne hadd
      refine ⟨⟨q, hid, not_not.mp hfloor, ?_, ?_, hnew⟩, hnew, hthere, hkeep⟩ <;> omega
  | _ => simp [hid] at h

/-- **Exactly the entries that fit** become units. -/
theorem unitEntry_ok_iff : (∃ r, unitEntry units i uo = .ok r) ↔ EntryFits units uo := by
  constructor
  · rintro ⟨⟨uid, units'⟩, h⟩
    exact (unitEntry_ok h).1
  · rintro ⟨q, hid, hfloor, hlo, hhi, hnew⟩
    unfold unitEntry
    dsimp only
    rw [hid]
    dsimp only
    rw [if_neg (not_not.mpr hfloor), if_neg (by omega), addUnit, hnew]
    exact ⟨_, rfl⟩

/-- **The loop over the entries** keeps the units that are there and the event mode, and stops the
server when it fails. -/
theorem addUnits_spec (h : ServerHandler) (i : Nat) (entries : List Json) :
    (∀ u, h.units.hasUnit u = true → (addUnits h i entries).1.units u = h.units u) ∧
      (addUnits h i entries).1.eventMode = h.eventMode ∧
      ∀ e, (addUnits h i entries).2 = .error e →
        e.status = .error ∧ (addUnits h i entries).1.endpoint = none := by
  induction entries generalizing h i with
  | nil => exact ⟨fun _ _ => rfl, rfl, fun e he => by cases he⟩
  | cons entry rest ih =>
    unfold addUnits
    cases hentry : unitEntry h.units i (toObject entry) with
    | error e =>
      refine ⟨fun _ _ => rfl, rfl, ?_⟩
      intro e' he
      obtain rfl : e = e' := Except.error.inj he
      refine ⟨?_, rfl⟩
      -- every way to refuse an entry is a refusal
      unfold unitEntry at hentry
      dsimp only at hentry
      repeat' split at hentry
      all_goals first
        | (obtain rfl := Except.error.inj hentry; rfl)
        | cases hentry
    | ok r =>
      obtain ⟨uid, units⟩ := r
      obtain ⟨hkept, hmode, herror⟩ := ih { h with units := units } (i + 1)
      obtain ⟨-, -, -, hkeep⟩ := unitEntry_ok hentry
      have hall : ∀ u, h.units.hasUnit u = true →
          (addUnits { h with units := units } (i + 1) rest).1.units u = h.units u := by
        intro u hu
        have hsame := hkeep u hu
        have hthere : units.hasUnit u = true := by
          rw [hasUnit, hsame]
          exact hu
        exact (hkept u hthere).trans hsame
      dsimp only
      rcases hrest : addUnits { h with units := units } (i + 1) rest with ⟨h', e | uids⟩
      · rw [hrest] at hall hmode herror
        exact ⟨hall, hmode, herror⟩
      · rw [hrest] at hall hmode
        exact ⟨hall, hmode, fun e he => by cases he⟩

/-- When the first entry fits, the units are others after the loop. -/
theorem addUnits_first_fits {h : ServerHandler} {entry : Json} (i : Nat) (rest : List Json)
    (hfits : EntryFits h.units (toObject entry)) :
    (addUnits h i (entry :: rest)).1.units ≠ h.units := by
  obtain ⟨⟨uid, units⟩, hentry⟩ := unitEntry_ok_iff (i := i).mpr hfits
  obtain ⟨-, hnew, hthere, -⟩ := unitEntry_ok hentry
  obtain ⟨hkept, -, -⟩ := addUnits_spec { h with units := units } (i + 1) rest
  intro hsame
  have hafter : (addUnits h i (entry :: rest)).1.units =
      (addUnits { h with units := units } (i + 1) rest).1.units := by
    rw [addUnits, hentry]
    dsimp only
    rcases addUnits { h with units := units } (i + 1) rest with ⟨h', e | uids⟩ <;> rfl
  have hunit : h.units (UInt8.ofInt uid) = units (UInt8.ofInt uid) := by
    rw [← hsame, hafter]
    exact hkept _ hthere
  rw [hasUnit, hunit] at hnew
  rw [hasUnit, hnew] at hthere
  cases hthere

/-- When it does not, nothing is added. -/
theorem addUnits_first_fails {h : ServerHandler} {i : Nat} {entry : Json} {rest : List Json}
    (hfits : ¬ EntryFits h.units (toObject entry)) :
    (addUnits h i (entry :: rest)).1 = { h with endpoint := none } := by
  unfold addUnits
  cases hentry : unitEntry h.units i (toObject entry) with
  | error e => rfl
  | ok r => exact absurd (unitEntry_ok_iff.mp ⟨r, hentry⟩) hfits

end Entries

/-! ## §2. Failed runs -/

section Runs

variable (h : ServerHandler) (p : List (String × Json))

/-- **The handler is as it was**: not running, with the same units and the same event mode.  So
another `run` starts it whenever it would have started it before. -/
structure AsItWas (handle : ServerHandler → String → Json → Answered) (h h' : ServerHandler) :
    Prop where
  endpoint : h'.endpoint = none
  units : h'.units = h.units
  eventMode : h'.eventMode = h.eventMode
  startsAgain : ∀ data, (handle h "run" data).2.status = .event →
    (handle h' "run" data).2.status = .event

/-- The command fails before the port is open; or its first unit is the bad one, and the event mode
asked for is the one that the handler has. -/
def FailsClean (start : List (String × Json) → Except Message Endpoint) : Prop :=
  ∀ eventMode endpoint, eventModeOf p = .ok eventMode → start p = .ok endpoint →
    eventMode = h.eventMode ∧
      ∀ entry ∈ (Meta.toArray (value p "units")).head?, ¬ EntryFits h.units (toObject entry)

variable {h p}

theorem AsItWas.of_eq {handle : ServerHandler → String → Json → Answered} {h h' : ServerHandler}
    (heq : h' = h) (hstopped : h.endpoint = none) : AsItWas handle h h' := by
  subst heq
  exact ⟨hstopped, rfl, rfl, fun _ => id⟩

theorem handle_run (parts : ServerParts) :
    handleCommand parts h "run" (obj p) = runCommand h p parts.start := by
  have hname : ServerCommand.ofName "run" = some .run := by decide
  unfold handleCommand
  rw [hname]
  rfl

/-- What `run` does behind its checks: it fails with the handler as it is, or the entries decide. -/
theorem runCommand_cases (start : List (String × Json) → Except Message Endpoint)
    (hstopped : h.endpoint = none) :
    ((∃ e, eventModeOf p = .error e) ∨ (∃ e, start p = .error e)) ∧ (runCommand h p start).1 = h ∨
    ∃ eventMode endpoint, eventModeOf p = .ok eventMode ∧ start p = .ok endpoint ∧
      (runCommand h p start).1 = (addUnits { h with endpoint := some endpoint, eventMode := eventMode }
        0 (Meta.toArray (value p "units"))).1 ∧
      ((runCommand h p start).2.status = .error → Meta.toArray (value p "units") ≠ []) := by
  unfold runCommand
  rw [hstopped]
  dsimp only [Option.isSome_none, Bool.false_eq_true, if_false]
  rw [if_neg (by decide)]
  cases hmode : eventModeOf p with
  | error e => exact .inl ⟨.inl ⟨e, rfl⟩, rfl⟩
  | ok eventMode =>
    cases hstart : start p with
    | error e => exact .inl ⟨.inr ⟨e, rfl⟩, rfl⟩
    | ok endpoint =>
      refine .inr ⟨eventMode, endpoint, rfl, rfl, ?_⟩
      dsimp only
      cases hentries : Meta.toArray (value p "units") with
      | nil => exact ⟨rfl, nofun⟩
      | cons entry rest =>
        rcases addUnits { h with endpoint := some endpoint, eventMode := eventMode } 0
          (entry :: rest) with ⟨h', e | uids⟩ <;> exact ⟨rfl, fun _ => List.cons_ne_nil _ _⟩

/-- **A failed `run`**, of any of the three drivers, leaves the handler as it was exactly when it
fails before the port is open, or at the first unit with the event mode unchanged. -/
theorem failed_run_iff (platform : ServerPlatform) (driver : ServerDriver) (h : ServerHandler)
    (p : List (String × Json)) (hstopped : h.endpoint = none)
    (herror : (driver.handle platform h "run" (obj p)).2.status = .error) :
    AsItWas (driver.handle platform) h (driver.handle platform h "run" (obj p)).1 ↔
      FailsClean h p (driver.parts platform).start := by
  have hrun : driver.handle platform h "run" (obj p) =
      runCommand h p (driver.parts platform).start := by
    rw [driver.handle_eq, handle_run]
  rw [hrun] at herror ⊢
  unfold FailsClean
  rcases runCommand_cases (p := p) (driver.parts platform).start hstopped with
    ⟨hearly, hsame⟩ | ⟨eventMode, endpoint, hmode, hstart, hafter, hentries⟩
  · refine iff_of_true (.of_eq hsame hstopped) ?_
    intro eventMode endpoint hmode hstart
    rcases hearly with ⟨e, he⟩ | ⟨e, he⟩
    · rw [he] at hmode
      cases hmode
    · rw [he] at hstart
      cases hstart
  rw [hafter]
  have hne := hentries herror
  cases hlist : Meta.toArray (value p "units") with
  | nil => exact absurd hlist hne
  | cons entry rest =>
    by_cases hfits : EntryFits h.units (toObject entry)
    · -- its unit is there now
      refine iff_of_false (fun hsame => ?_) (fun hclean => ?_)
      · exact addUnits_first_fits 0 rest
          (h := { h with endpoint := some endpoint, eventMode := eventMode }) hfits hsame.units
      · exact (hclean eventMode endpoint hmode hstart).2 entry rfl hfits
    · rw [addUnits_first_fails
        (h := { h with endpoint := some endpoint, eventMode := eventMode }) hfits]
      constructor
      · rintro hsame eventMode' endpoint' hmode' -
        rw [hmode] at hmode'
        obtain rfl := Except.ok.inj hmode'
        refine ⟨hsame.eventMode, fun entry' hentry' => ?_⟩
        obtain rfl : entry = entry' := Option.some.inj hentry'
        exact hfits
      · intro hclean
        apply AsItWas.of_eq _ hstopped
        rw [(hclean eventMode endpoint hmode hstart).1]
        obtain ⟨units, endpoint, mode⟩ := h
        rw [show endpoint = none from hstopped]

end Runs

/-- A platform on which every port can be opened. -/
def openPlatform : ServerPlatform where
  undefinedCast _ _ := 0
  listen _ port := .ok port
  opens _ := true

/-- The parameters with these ids in `units`. -/
def runWith (ids : List ℚ) : List (String × Json) :=
  [("units", arr (ids.map fun id => obj [("id", num id)]))]

/-- A run with unit 0 fails and changes nothing. -/
theorem unit_zero_refused :
    AsItWas (ModbusTcpServerHandler.handle openPlatform) {}
      (ModbusTcpServerHandler.handle openPlatform {} "run" (obj (runWith [0]))).1 := by
  apply (failed_run_iff openPlatform .tcp {} (runWith [0]) rfl (by decide)).mpr
  intro eventMode endpoint hmode _
  refine ⟨(Except.ok.inj hmode).symm, ?_⟩
  intro entry hentry
  obtain rfl : obj [("id", num 0)] = entry := Option.some.inj hentry
  rintro ⟨q, hq, -, hlo, -⟩
  obtain rfl : 0 = q := Json.num.inj hq
  revert hlo
  decide

/-- **A run that lists unit 1 twice** fails with unit 1 added; the run that lists it once, which
would have started the server, then fails, too. -/
theorem unit_one_left :
    let run := fun h ids => ModbusTcpServerHandler.handle openPlatform h "run" (obj (runWith ids))
    (run {} [1, 1]).2.status = .error ∧ (run {} [1, 1]).1.units.getUnits = [1] ∧
      (run {} [1]).2.status = .event ∧ (run (run {} [1, 1]).1 [1]).2.status = .error := by
  decide

end Stdiolink.Modbus
