import Starlane.Proofs.Rereading
import Starlane.Settings

/-!
# Settings as documents

The numbers that a document gives fit their fields, and they still do once every
field is within its bounds. So the document that is written of settings in force
says the same settings.
-/

namespace Starlane

namespace Settings

variable {settings : Settings}

/-- Whether the numbers of some settings fit their fields. -/
structure Fits (settings : Settings) : Prop where
  turnRegen : settings.turnRegenSeconds ≤ counterMax
  portTick : settings.portTickSeconds ≤ counterMax
  planetTick : settings.planetTickSeconds ≤ counterMax
  eventTick : settings.eventTickSeconds ≤ counterMax
  protectorateTick : settings.protectorateTickSeconds ≤ counterMax
  recentLogs : settings.recentLogLimit ≤ identifierMax
  credits_low : amountMin ≤ settings.startCredits
  credits_high : settings.startCredits ≤ amountMax
  turns : settings.startTurns ≤ counterMax
  turnsMax : settings.startTurnsMax ≤ counterMax
  cargoMax : settings.startCargoMax ≤ counterMax

/-- Settings that are read have numbers that fit. -/
theorem Fits.ofJson? {value : Json} (read : ofJson? value = some settings) : settings.Fits := by
  have counted : ∀ {default n : Nat} {field : Option Json}, default ≤ counterMax →
      Json.defaulted default Json.counter? field = some n → n ≤ counterMax :=
    fun standard given =>
      Json.defaulted_holds (· ≤ counterMax) given standard fun _ _ read => Json.counter?_le read
  unfold Settings.ofJson? at read
  obtain ⟨fields, _, read⟩ := Option.bind_eq_some_iff.mp read
  split at read
  · simp only [Option.bind_eq_bind, Option.bind_eq_some_iff, Option.pure_def,
      Option.some.injEq] at read
    obtain ⟨_, turnRegen, _, portTick, _, planetTick, _, eventTick, _, protectorateTick, _,
      recentLogs, credits, amount, _, turns, _, turnsMax, _, cargoMax, rfl⟩ := read
    have within : amountMin ≤ credits ∧ credits ≤ amountMax :=
      Json.defaulted_holds (fun n => amountMin ≤ n ∧ n ≤ amountMax) amount (by decide)
        fun _ _ read => Json.intWithin?_bounds read
    exact {
      turnRegen := counted (by decide) turnRegen
      portTick := counted (by decide) portTick
      planetTick := counted (by decide) planetTick
      eventTick := counted (by decide) eventTick
      protectorateTick := counted (by decide) protectorateTick
      recentLogs := Json.defaulted_holds (· ≤ identifierMax) recentLogs (by decide)
        fun _ _ read => Json.identifier?_le read
      credits_low := within.1
      credits_high := within.2
      turns := counted (by decide) turns
      turnsMax := counted (by decide) turnsMax
      cargoMax := counted (by decide) cargoMax }
  · cases read

theorem shownLogs_le (limit : Nat) : shownLogs limit ≤ logKeep := by
  unfold shownLogs logKeep
  omega

theorem shownLogs_shownLogs (limit : Nat) : shownLogs (shownLogs limit) = shownLogs limit := by
  unfold shownLogs logKeep
  omega

theorem floorOrOff_le {seconds floor most : Nat} (fits : seconds ≤ most) (low : floor ≤ most) :
    floorOrOff seconds floor ≤ most := by
  unfold floorOrOff
  split <;> omega

theorem floorOrOff_floorOrOff (seconds floor : Nat) :
    floorOrOff (floorOrOff seconds floor) floor = floorOrOff seconds floor := by
  unfold floorOrOff
  split <;> split <;> omega

/-- Bounds on the fields leave their numbers fitting. -/
theorem Fits.normalized (fits : settings.Fits) : settings.normalized.Fits where
  turnRegen := Nat.max_le.mpr ⟨fits.turnRegen, by decide⟩
  portTick := Nat.max_le.mpr ⟨fits.portTick, by decide⟩
  planetTick := Nat.max_le.mpr ⟨fits.planetTick, by decide⟩
  eventTick := floorOrOff_le fits.eventTick (by decide)
  protectorateTick := floorOrOff_le fits.protectorateTick (by decide)
  recentLogs := Nat.le_trans (shownLogs_le _) (by decide)
  credits_low := Int.le_trans fits.credits_low (Int.le_max_left _ _)
  credits_high := Int.max_le.mpr ⟨fits.credits_high, by decide⟩
  turns := Nat.le_trans (Nat.min_le_left _ _) fits.turns
  turnsMax := Nat.max_le.mpr ⟨fits.turnsMax, by decide⟩
  cargoMax := Nat.max_le.mpr ⟨fits.cargoMax, by decide⟩

/-- Fields within their bounds stay as they are. -/
theorem normalized_normalized (settings : Settings) :
    settings.normalized.normalized = settings.normalized := by
  simp [normalized, floorOrOff_floorOrOff, shownLogs_shownLogs]

/-- Settings whose numbers fit are read back from their document. -/
theorem readRaw?_write (fits : settings.Fits) : readRaw? settings.write = some settings := by
  have legible : settings.toJson.Legible := Json.legible_ofFields (by
    simp [Json.legible_ofNat, Json.legible_ofInt])
  rw [readRaw?, write, Json.parse?_render legible]
  simp [Settings.ofJson?, toJson, fieldNames, Json.record?_reread, Json.field?, Json.defaulted,
    Json.counter?_reread fits.turnRegen, Json.counter?_reread fits.portTick,
    Json.counter?_reread fits.planetTick, Json.counter?_reread fits.eventTick,
    Json.counter?_reread fits.protectorateTick, Json.identifier?_reread fits.recentLogs,
    Json.amount?_reread fits.credits_low fits.credits_high, Json.counter?_reread fits.turns,
    Json.counter?_reread fits.turnsMax, Json.counter?_reread fits.cargoMax]

/-- Settings in force are read back from the document that is stored of them. -/
theorem read?_write {document : String} (read : read? document = some settings) :
    read? settings.write = some settings := by
  obtain ⟨raw, given, rfl⟩ := Option.map_eq_some_iff.mp read
  obtain ⟨value, _, record⟩ := Option.bind_eq_some_iff.mp given
  rw [Settings.read?, readRaw?_write (Fits.ofJson? record).normalized]
  exact congrArg some (normalized_normalized raw)

end Settings

/-- All settings whose numbers fit are read from their document as they are within
their bounds, which is no further change to settings that are within them
already. So whatever document is accepted, the settings that it gives are those
that their own document gives. -/
theorem settings_survive_documents :
    (∀ settings : Settings, settings.Fits →
      Settings.read? settings.write = some settings.normalized) ∧
    (∀ settings : Settings, settings.normalized.normalized = settings.normalized) ∧
    ∀ (document : String) (settings : Settings), Settings.read? document = some settings →
      Settings.read? settings.write = some settings := by
  refine ⟨fun settings fits => ?_, Settings.normalized_normalized, fun document settings read => ?_⟩
  · rw [Settings.read?, Settings.readRaw?_write fits]
    rfl
  · exact Settings.read?_write read

/-- Settings at the ends of the ranges of their fields. -/
def Drill.outlandish : Settings where
  turnRegenSeconds := 0
  portTickSeconds := counterMax
  planetTickSeconds := 0
  eventTickSeconds := 0
  protectorateTickSeconds := 1
  recentLogLimit := identifierMax
  startCredits := amountMin
  startTurns := counterMax
  startTurnsMax := 0
  startCargoMax := 0

/-- What is left of the outlandish settings, and what a document gives that has
more turns than a player stores. -/
theorem settings_survive_documents_outlandish :
    Drill.outlandish.Fits ∧
    Settings.read? Drill.outlandish.write = some
      ⟨10, counterMax, 5, 0, 10, 50, 0, 1, 1, 1⟩ ∧
    ∃ settings, Settings.read? "\x7b \"start_turns\": 7, \"start_turns_max\": 3 \x7d" =
      some settings ∧ settings.startTurns = 3 ∧
      Settings.read? settings.write = some settings := by
  obtain ⟨fitting, _, given⟩ := settings_survive_documents
  have fits : Drill.outlandish.Fits := by constructor <;> decide
  refine ⟨fits, fitting _ fits, ?_⟩
  obtain ⟨settings, read⟩ := Option.isSome_iff_exists.mp
    (show (Settings.read? "\x7b \"start_turns\": 7, \"start_turns_max\": 3 \x7d").isSome by
      decide +kernel)
  have capped : (Settings.read? "\x7b \"start_turns\": 7, \"start_turns_max\": 3 \x7d").map
      (·.startTurns) = some 3 := by decide +kernel
  rw [read] at capped
  exact ⟨settings, read, Option.some.inj capped, given _ _ read⟩

end Starlane
