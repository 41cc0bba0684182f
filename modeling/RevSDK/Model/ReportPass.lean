import RevSDK.Model.ControlGroup
import RevSDK.Stats.StatsHandler

/-!
# Report passes

A tick of the reporting timer runs `reportStats` on the main run loop.  Each
iteration packs a report under the lock and sends it after giving the lock up,
and the loop goes on while records were left in the queue.  Between two of
these steps other threads load configurations, add records and events, and
complete the reports that were sent.
-/

namespace RevSDK

open RevSDK.Foundation

inductive PassPhase where
  | idle
  | packing
  | sending (index : Nat) (hasDataToSend : Bool)
  deriving DecidableEq

structure ReportingModel where
  model : ModelState
  world : ReportWorld
  phase : PassPhase

inductive ReportingEvent where
  | model (event : ModelEvent)
  | addRequestData (aRequestData : Data)
  | addEvent (aEvent : Event) (aLoggingLevel : Nat)
  | completion (index : Nat) (isNoError : Bool)
  | tick
  | pack (surroundings : Surroundings)
  | send

def PassPhase.continues : PassPhase → Bool
  | .idle => false
  | .packing => true
  | .sending _ hasDataToSend => hasDataToSend

namespace ReportingModel

section Runs

variable (platform : StatsPlatform) (leftover : List String → Nat → String)
  (reader : ConfigurationReader)

def pack (reporting : ReportingModel) (surroundings : Surroundings) :
    Outcome ReportingModel := do
  let (active, model) := reporting.model.getActive
  let requestsCount := active.statsReportingMaxRequests
  let (active, model) := model.getActive
  let appName := active.appName
  let requestsCount :=
    if requestsCount ≤ 0 then kRequestsCountMax else requestsCount
  let (active, model) := model.getActive
  let world ← reporting.world.createSendTransaction platform
    { surroundings with abTestingMode := active.abTesMode } requestsCount appName
  return {
    model := model
    world := world
    phase := .sending reporting.world.reports.length
      world.mStatsHandler.hasRequestsData }

def send (reporting : ReportingModel) (index : Nat) (hasDataToSend : Bool) :
    Outcome ReportingModel := do
  let buffer := (reporting.world.reports[index]?.map
    (·.statsData.Buffer.length)).getD 0
  assertion (buffer != 0) "statsData.Buffer.length()"
  return { reporting with
    model := reporting.model.getActive.2
    phase := if hasDataToSend then .packing else .idle }

def react (reporting : ReportingModel) :
    ReportingEvent → Outcome ReportingModel
  | .model event => do
      let model ← reporting.model.react leftover reader event
      return { reporting with model := model }
  | .addRequestData aRequestData => do
      let world ←
        reporting.world.react platform (.addRequestData aRequestData)
      return { reporting with world := world }
  | .addEvent aEvent aLoggingLevel =>
      if reporting.model.mCurrentLoggingLevel ≥ aLoggingLevel then do
        let world ← reporting.world.react platform (.addEvent aEvent)
        return { reporting with world := world }
      else .ok reporting
  | .completion index isNoError => do
      let world ←
        reporting.world.react platform (.completion index isNoError)
      -- An error is logged with the address, which reads the configuration.
      return { reporting with
        model :=
          if isNoError then reporting.model else reporting.model.getActive.2
        world := world }
  | .tick => .ok { reporting with phase := .packing }
  | .pack surroundings => reporting.pack platform surroundings
  | .send =>
      match reporting.phase with
      | .sending index hasDataToSend => reporting.send index hasDataToSend
      | _ => .ok reporting

def system : EventSystem ReportingModel ReportingEvent where
  initial reporting :=
    (ModelState.system leftover reader).initial reporting.model ∧
      (∃ requestsFile eventsFile gID,
        reporting.world = .start requestsFile eventsFile gID) ∧
      reporting.phase = .idle
  step reporting event :=
    (reporting.react platform leftover reader event).toOption

/--
The events of one process.  The timer ticks while it is armed, the steps of a
pass come in their order, and a report is completed after it was sent.
-/
def Admitted (reporting : ReportingModel) : ReportingEvent → Prop
  | .model event => reporting.model.Unforced event ∧
      ∀ now, event ≠ .restart now
  | .completion index _ => index < reporting.world.reports.length ∧
      ∀ hasDataToSend, reporting.phase ≠ .sending index hasDataToSend
  | .tick => reporting.phase = .idle ∧
      reporting.model.mStatsReportingTimer ≠ none
  | .pack _ => reporting.phase = .packing
  | .send => ∃ index hasDataToSend,
      reporting.phase = .sending index hasDataToSend
  | _ => True

theorem react_loadOf {configuration : Configuration}
    (hserved : configuration.Served configuration.servingPlatform)
    (reporting : ReportingModel) (roll : Int) :
    reporting.react platform leftover (ModelState.readerOf configuration)
        (.model (ModelState.loadOf configuration roll)) =
      .ok { reporting with
        model := reporting.model.configurationReceived leftover configuration
          roll ⟨"", 443, false⟩ } := by
  simp only [react, ModelState.react_loadOf leftover hserved, Outcome.ok_bind]
  rfl

theorem admitted_loadOf {configuration : Configuration}
    (reporting : ReportingModel) :
    reporting.Admitted (.model (ModelState.loadOf configuration 0)) :=
  ⟨ModelState.unforced_loadOf _ (Int.le_refl 0) (by decide),
    by simp [ModelState.loadOf]⟩

end Runs

end ReportingModel

end RevSDK
