import RevSDK.Model.ReportMode

/-!
# Monitoring of the addresses

`applyConfiguration` starts the monitoring and stops it, and the callback of a
stale service stops it once: the flag that guards the callback is lowered by an
accepted load.  The model is run here with a record of the state right after
each `getActive` and each `applyConfiguration`, those inside a load, a resume
and a test report included.  Beside it stands what the run has shown so far:
what was applied last, and when a call has found the service stale.
-/

namespace RevSDK

open RevSDK.Foundation

namespace ModelState

/-- The monitoring runs if and only if the active configuration reports. -/
def MonitorsActive (state : ModelState) : Prop :=
  state.monitoring = state.getActive.1.operationMode.reports

instance (state : ModelState) : Decidable state.MonitorsActive :=
  inferInstanceAs (Decidable (_ = _))

end ModelState

/--
A device.  `applied` is the configuration that the running process applied
last.  `staleBefore` says that a call found the service stale between the last
accepted load, or the launch, and that application, `staleSince` that one has
since then.  `moments` are the states right after the calls of the last event.
-/
structure MonitoredModel where
  state : ModelState
  launched : Bool
  applied : Option Configuration
  staleBefore : Bool
  staleSince : Bool
  moments : List ModelState
  deriving DecidableEq

namespace MonitoredModel

def getActive (world : MonitoredModel) : Configuration × MonitoredModel :=
  let (active, state) := world.state.getActive
  (active, { world with
    state := state
    staleSince := world.staleSince || world.state.isStale
    moments := world.moments ++ [state] })

def scheduleStatsReporting (world : MonitoredModel) : MonitoredModel :=
  { world.getActive.2 with state := world.state.scheduleStatsReporting }

def quicEndpointChanged (world : MonitoredModel) (session : QUICEndpoint) :
    Bool × MonitoredModel :=
  let (active, world) := world.getActive
  if session.host ≠ active.edgeHost then (true, world)
  else
    let (active, world) := world.getActive
    (session.port ≠ active.quicUDPPort, world)

section Runs

variable (leftover : List String → Nat → String) (reader : ConfigurationReader)

def applyConfiguration (world : MonitoredModel)
    (aConfiguration : Configuration) : MonitoredModel :=
  let state := world.state.applyConfiguration leftover aConfiguration
  { world with
    state := state
    applied := some aConfiguration
    staleBefore := world.staleBefore || world.staleSince
    staleSince := false
    moments := world.moments ++ [state] }

/-- The constructor applies a stored configuration that is not timed out. -/
def construct (world : MonitoredModel) (now : Int) : MonitoredModel :=
  let state := ModelState.construct leftover now
    world.state.storedConfiguration world.state.storedTimestamp
    world.state.mProtocolSelector.stored
  { state := state
    launched := true
    applied :=
      if state.isTimedOut then none else some state.mActiveConfiguration
    staleBefore := false
    staleSince := false
    moments := if state.isTimedOut then [] else [state] }

def resumeUpdate (world : MonitoredModel) : MonitoredModel :=
  let world := { world with
    state := { world.state with
      mActiveConfiguration := world.state.configuration } }
  let (active, world) := world.getActive
  (world.applyConfiguration leftover active).scheduleStatsReporting

/-- The completion of a load, up to the configuration it applies. -/
def drawAndApply (world : MonitoredModel) (configuration : Configuration)
    (roll : Int) : Configuration × MonitoredModel :=
  let world := { world with
    state := { world.state with mStaleOnFlag := false }
    staleBefore := false
    staleSince := false }
  let (active, world) := world.getActive
  let oldABRatio := active.abTestingRatio
  let (active, world) := world.getActive
  let oldABMode := active.abTesMode
  let configuration :=
    ModelState.drawLottery configuration oldABRatio oldABMode roll
  let world := { world with
    state := { world.state with
      mLastUpdated := world.state.now
      storedTimestamp := world.state.now
      mActiveConfiguration := configuration } }
  (configuration, world.applyConfiguration leftover configuration)

def scheduleAndSave (world : MonitoredModel) (configuration : Configuration) :
    MonitoredModel :=
  let world := world.scheduleStatsReporting
  { world with
    state := { world.state with storedConfiguration := some configuration } }

def configurationReceived (world : MonitoredModel)
    (configuration : Configuration) (roll : Int) (session : QUICEndpoint) :
    MonitoredModel :=
  let (configuration, world) := world.drawAndApply leftover configuration roll
  let world := world.scheduleAndSave configuration
  let (changed, world) := world.quicEndpointChanged session
  let state := if changed && session.connected then
      { world.state with reconnects := world.state.reconnects + 1 }
    else world.state
  { world with
    state := { state with
      mConfigurationRefreshTimer := scheduleTimer
        state.mConfigurationRefreshTimer configuration.refreshInterval } }

def handleTestResults (world : MonitoredModel)
    (aResults : List AvailabilityTestResult) : MonitoredModel :=
  let (active, world) := world.getActive
  { world with
    state := { world.state with
      mProtocolSelector := world.state.mProtocolSelector.handleTestResults
        leftover active.allowedProtocols aResults } }

def react (world : MonitoredModel) (event : ModelEvent) :
    Outcome MonitoredModel :=
  let world := { world with moments := [] }
  match event with
  | .configurationLoaded _ _ _ session => do
      let state ← world.state.react leftover reader event
      return match event.accepted reader with
        | some (configuration, roll) =>
            world.configurationReceived leftover configuration roll session
        | none => { world with state := state }
  | .handleTestResults aResults =>
      .ok (world.handleTestResults leftover aResults)
  | .getActive => .ok world.getActive.2
  | .resumeUpdate => .ok (world.resumeUpdate leftover)
  | .restart now => .ok (world.construct leftover now)
  | _ => do
      let state ← world.state.react leftover reader event
      return { world with state := state }

def system : EventSystem MonitoredModel ModelEvent where
  initial world := world.launched = false ∧ world.moments = []
  step world event := (world.react leftover reader event).toOption

/-- The first event launches a process. -/
def Admitted (world : MonitoredModel) (event : ModelEvent) : Prop :=
  world.state.Admitted event ∧
    (world.launched = true ∨ ∃ now, event = .restart now)

end Runs

/-! ## The condition -/

/-- Every recorded moment has the monitoring that the active mode asks for. -/
def Matches (world : MonitoredModel) : Prop :=
  ∀ moment ∈ world.moments, moment.MonitorsActive

def appliedReports (world : MonitoredModel) : Bool :=
  world.applied.any fun aConfiguration => aConfiguration.operationMode.reports

/--
A call that finds the service stale wants nothing that reports to have been
applied after one that did.  A call that finds it fresh wants what was applied
last to report as the loaded configuration does, and to be in force since then.
-/
def ReadsInStep (world : MonitoredModel) : Prop :=
  if world.state.isStale then
    world.appliedReports = true → world.staleBefore = false
  else if world.state.mActiveConfiguration.operationMode.reports then
    world.appliedReports = true ∧
      (world.staleSince = true → world.staleBefore = true)
  else
    world.appliedReports = true →
      world.staleSince = true ∧ world.staleBefore = false

section Conditions

variable (leftover : List String → Nat → String) (reader : ConfigurationReader)

def loaded (state : ModelState) (configuration : Configuration) : ModelState :=
  { state with
    mLastUpdated := state.now
    storedTimestamp := state.now
    mActiveConfiguration := configuration }

def resumed (world : MonitoredModel) : MonitoredModel :=
  { world with
    state := { world.state with
      mActiveConfiguration := world.state.configuration } }

/-- A load makes the callback possible again. -/
def lowered (world : MonitoredModel) : MonitoredModel :=
  { world with
    state := { world.state with mStaleOnFlag := false }
    staleBefore := false
    staleSince := false }

/-- And reads ratio and flag of the old configuration. -/
def readOld (world : MonitoredModel) : MonitoredModel :=
  world.lowered.getActive.2.getActive.2

def beforeApplying (world : MonitoredModel) (configuration : Configuration) :
    MonitoredModel :=
  { world.readOld with state := loaded world.readOld.state configuration }

/-- A document that reports is valid for some time and brings a protocol. -/
def LoadsInStep (state : ModelState) (configuration : Configuration) : Prop :=
  configuration.operationMode.reports = true →
    0 ≤ configuration.staleTimeout ∧
      state.mProtocolSelector.Offers leftover configuration

/--
If the loaded configuration reports, it finds a protocol while it is in force,
and the stale one that is applied in its place brings none back.
-/
def ResumesInStep (state : ModelState) : Prop :=
  state.mActiveConfiguration.operationMode.reports = true →
    if state.isStale then
      state.isTimedOut = false →
        ¬ state.mProtocolSelector.Offers leftover state.mStaleConfiguration
    else
      state.mProtocolSelector.Offers leftover state.mActiveConfiguration

/-- A stored configuration that reports is timed out or has a protocol. -/
def LaunchesInStep (state : ModelState) (now : Int) : Prop :=
  (now - state.storedTimestamp).tdiv ModelState.ticksPerSecond ≤
      state.configuration.staleTimeout →
    state.configuration.operationMode.reports = true →
      (ProtocolSelector.protocolOfID
        state.configuration.initialTransportProtocol).isSome = true

def InStep (world : MonitoredModel) : ModelEvent → Prop
  | .getActive | .handleTestResults _ => world.ReadsInStep
  | .configurationLoaded aData isNoError roll session =>
      ∀ configuration roll', (ModelEvent.configurationLoaded aData isNoError
        roll session).accepted reader = some (configuration, roll') →
        (world.state.isStale = false → world.ReadsInStep) ∧
          LoadsInStep leftover world.state
            (world.state.drawn configuration roll')
  | .resumeUpdate =>
      world.resumed.ReadsInStep ∧ ResumesInStep leftover world.resumed.state
  | .restart now => LaunchesInStep world.state now
  | _ => True

end Conditions

/-! ## The record follows the model -/

section Steps

variable (leftover : List String → Nat → String) {reader : ConfigurationReader}
  {world world' : MonitoredModel} {event : ModelEvent}

theorem quicEndpointChanged_state (world : MonitoredModel)
    (session : QUICEndpoint) :
    ((world.quicEndpointChanged session).1,
      (world.quicEndpointChanged session).2.state) =
        world.state.quicEndpointChanged session := by
  by_cases hhost : session.host ≠ world.state.getActive.1.edgeHost
  · have hread : session.host ≠ world.getActive.1.edgeHost := hhost
    simp only [quicEndpointChanged, ModelState.quicEndpointChanged,
      if_pos hhost, if_pos hread]
    rfl
  · have hread : ¬ session.host ≠ world.getActive.1.edgeHost := hhost
    simp only [quicEndpointChanged, ModelState.quicEndpointChanged,
      if_neg hhost, if_neg hread]
    rfl

theorem configurationReceived_state (world : MonitoredModel)
    (configuration : Configuration) (roll : Int) (session : QUICEndpoint) :
    (world.configurationReceived leftover configuration roll session).state =
      world.state.configurationReceived leftover configuration roll
        session := by
  have hread := quicEndpointChanged_state
    ((world.drawAndApply leftover configuration roll).2.scheduleAndSave
      (world.drawAndApply leftover configuration roll).1) session
  obtain ⟨hchanged, hstate⟩ := Prod.mk.inj hread
  simp only [configurationReceived, hchanged, hstate]
  rfl

theorem configurationReceived_moments (world : MonitoredModel)
    (configuration : Configuration) (roll : Int) (session : QUICEndpoint) :
    (world.configurationReceived leftover configuration roll
        session).moments =
      (((world.drawAndApply leftover configuration roll).2.scheduleAndSave
        (world.drawAndApply leftover configuration
          roll).1).quicEndpointChanged session).2.moments := by
  simp only [configurationReceived]

theorem react_accepted (world : MonitoredModel) {aData : Data}
    {isNoError : Bool} {roll roll' : Int} {session : QUICEndpoint}
    {configuration : Configuration}
    (haccepted : (ModelEvent.configurationLoaded aData isNoError roll
      session).accepted reader = some (configuration, roll')) :
    world.react leftover reader (.configurationLoaded aData isNoError roll
        session) =
      .ok ({ world with moments := [] }.configurationReceived leftover
        configuration roll' session) := by
  have hreact := world.state.completionBlock_accepted leftover haccepted
  simp only [react, ModelState.react, hreact, haccepted, Outcome.ok_bind]
  rfl

theorem react_state
    (hreact : world.react leftover reader event = .ok world') :
    world.state.react leftover reader event = .ok world'.state := by
  cases event with
  | configurationLoaded aData isNoError roll session =>
      obtain ⟨state, hstate, hworld⟩ := (Outcome.bind_eq_ok _ _ _).mp hreact
      obtain rfl := Except.ok.inj hworld
      split
      next configuration roll' haccepted =>
        rw [configurationReceived_state]
        exact ModelState.completionBlock_accepted leftover haccepted
      next => exact hstate
  | stopUpdate | setOperationMode _ | clock _ =>
      obtain ⟨state, hstate, hworld⟩ := (Outcome.bind_eq_ok _ _ _).mp hreact
      obtain rfl := Except.ok.inj hworld
      exact hstate
  | _ =>
      obtain rfl := Except.ok.inj hreact
      rfl

/-! ## Single calls -/

theorem monitorsActive_iff (state : ModelState)
    (hoff : state.mStaleConfiguration.operationMode.reports = false) :
    state.MonitorsActive ↔
      if state.isStale then state.monitoring = false
      else state.monitoring =
        state.mActiveConfiguration.operationMode.reports := by
  unfold ModelState.MonitorsActive
  rw [ModelState.getActive_fst]
  split
  · rw [hoff]
  · rfl

theorem getActive_monitorsActive_iff (state : ModelState)
    (hoff : state.mStaleConfiguration.operationMode.reports = false) :
    state.getActive.2.MonitorsActive ↔
      if state.isStale then
        state.mStaleOnFlag = true → state.monitoring = false
      else state.monitoring =
        state.mActiveConfiguration.operationMode.reports := by
  rw [monitorsActive_iff _ (by simpa using hoff)]
  cases hstale : state.isStale with
  | false =>
      rw [ModelState.getActive_fresh hstale]
      simp [hstale]
  | true =>
      have hafter : state.getActive.2.isStale = true := by
        rw [ModelState.getActive_frame]
        exact hstale
      rw [if_pos hafter, if_pos rfl]
      unfold ModelState.getActive
      cases hflag : state.mStaleOnFlag <;> simp [hstale]

theorem applyConfiguration_monitorsActive_iff (state : ModelState)
    (hoff : state.mStaleConfiguration.operationMode.reports = false)
    (aConfiguration : Configuration) :
    (state.applyConfiguration leftover aConfiguration).MonitorsActive ↔
      aConfiguration.operationMode.reports =
        (!state.isTimedOut &&
          (state.mProtocolSelector.onConfigurationApplied leftover
            aConfiguration).haveAvailadleProtocols &&
          state.mActiveConfiguration.operationMode.reports) := by
  rw [monitorsActive_iff (state.applyConfiguration leftover aConfiguration)
    hoff]
  have hstale : (state.applyConfiguration leftover aConfiguration).isStale =
      (state.isTimedOut || !(state.mProtocolSelector.onConfigurationApplied
        leftover aConfiguration).haveAvailadleProtocols) := rfl
  have hmonitoring : (state.applyConfiguration leftover
      aConfiguration).monitoring = aConfiguration.operationMode.reports := rfl
  have hactive : (state.applyConfiguration leftover
      aConfiguration).mActiveConfiguration = state.mActiveConfiguration := rfl
  rw [hstale, hmonitoring, hactive]
  cases state.isTimedOut <;>
    cases (state.mProtocolSelector.onConfigurationApplied leftover
      aConfiguration).haveAvailadleProtocols <;> simp

theorem isTimedOut_loaded (state : ModelState) (configuration : Configuration) :
    (loaded state configuration).isTimedOut =
      decide (configuration.staleTimeout < 0) := by
  simp [loaded, ModelState.isTimedOut]

theorem loaded_monitorsActive_iff (state : ModelState)
    (hoff : state.mStaleConfiguration.operationMode.reports = false)
    (configuration : Configuration) :
    ((loaded state configuration).applyConfiguration leftover
        configuration).MonitorsActive ↔
      LoadsInStep leftover state configuration := by
  rw [applyConfiguration_monitorsActive_iff leftover
    (loaded state configuration) hoff, isTimedOut_loaded]
  unfold LoadsInStep loaded
  rw [← ProtocolSelector.onConfigurationApplied_offers_iff]
  cases configuration.operationMode.reports <;> simp

theorem resumed_monitorsActive_iff (state : ModelState)
    (hoff : state.mStaleConfiguration.operationMode.reports = false) :
    (state.applyConfiguration leftover state.getActive.1).MonitorsActive ↔
      ResumesInStep leftover state := by
  rw [applyConfiguration_monitorsActive_iff leftover state hoff,
    ModelState.getActive_fst]
  unfold ResumesInStep
  rw [← ProtocolSelector.onConfigurationApplied_offers_iff,
    ← ProtocolSelector.onConfigurationApplied_offers_iff]
  cases hstale : state.isStale with
  | true =>
      rw [if_pos rfl, if_pos rfl, hoff]
      cases state.isTimedOut <;>
        cases state.mActiveConfiguration.operationMode.reports <;> simp
  | false =>
      have hfresh : state.isTimedOut = false :=
        (Bool.or_eq_false_iff.mp hstale).1
      rw [if_neg Bool.false_ne_true, if_neg Bool.false_ne_true, hfresh]
      cases state.mActiveConfiguration.operationMode.reports <;> simp

theorem monitorsActive_getActive {state : ModelState}
    (hoff : state.mStaleConfiguration.operationMode.reports = false)
    (hright : state.MonitorsActive) : state.getActive.2.MonitorsActive := by
  rw [getActive_monitorsActive_iff state hoff]
  rw [monitorsActive_iff state hoff] at hright
  split at hright
  next hstale =>
    rw [if_pos hstale]
    exact fun _ => hright
  next hfresh =>
    rw [if_neg hfresh]
    exact hright

/-! ## Calls in a row -/

theorem getActive_matches_iff (world : MonitoredModel) :
    world.getActive.2.Matches ↔
      world.Matches ∧ world.state.getActive.2.MonitorsActive := by
  simp [getActive, Matches, or_imp, forall_and]

theorem applyConfiguration_matches_iff (world : MonitoredModel)
    (aConfiguration : Configuration) :
    (world.applyConfiguration leftover aConfiguration).Matches ↔
      world.Matches ∧
        (world.state.applyConfiguration leftover
          aConfiguration).MonitorsActive := by
  simp [applyConfiguration, Matches, or_imp, forall_and]

theorem scheduleStatsReporting_read (state : ModelState) :
    state.scheduleStatsReporting = { state.getActive.2 with
      mStatsReportingTimer :=
        state.scheduleStatsReporting.mStatsReportingTimer } := by
  unfold ModelState.scheduleStatsReporting
  dsimp only
  split
  · split <;> rfl
  · rfl

theorem monitorsActive_of_same {state state' : ModelState}
    (hright : state.MonitorsActive)
    (hmonitoring : state'.monitoring = state.monitoring)
    (hstale : state'.isStale = state.isStale)
    (hoff : state'.mStaleConfiguration = state.mStaleConfiguration)
    (hactive : state'.mActiveConfiguration = state.mActiveConfiguration) :
    state'.MonitorsActive := by
  unfold ModelState.MonitorsActive at *
  rw [ModelState.getActive_fst] at *
  rw [hmonitoring, hstale, hoff, hactive]
  exact hright

structure Settled (world : MonitoredModel) : Prop where
  off : world.state.mStaleConfiguration.operationMode.reports = false
  recorded : world.Matches
  monitors : world.state.MonitorsActive

theorem Settled.getActive (hsettled : world.Settled) :
    world.getActive.2.Settled := by
  have hnext := monitorsActive_getActive hsettled.off hsettled.monitors
  refine ⟨?_, (getActive_matches_iff world).mpr ⟨hsettled.recorded, hnext⟩,
    hnext⟩
  simpa [MonitoredModel.getActive] using hsettled.off

theorem Settled.scheduleStatsReporting (hsettled : world.Settled) :
    world.scheduleStatsReporting.Settled := by
  have hread := hsettled.getActive
  refine ⟨?_, hread.recorded, ?_⟩
  · simpa [MonitoredModel.scheduleStatsReporting] using hsettled.off
  · change world.state.scheduleStatsReporting.MonitorsActive
    rw [scheduleStatsReporting_read]
    exact monitorsActive_of_same hread.monitors rfl rfl rfl rfl

theorem Settled.quicEndpointChanged (hsettled : world.Settled)
    (session : QUICEndpoint) :
    (world.quicEndpointChanged session).2.Settled := by
  unfold MonitoredModel.quicEndpointChanged
  dsimp only
  split
  · exact hsettled.getActive
  · exact hsettled.getActive.getActive

theorem Settled.of_applied {aConfiguration : Configuration}
    (hoff : world.state.mStaleConfiguration.operationMode.reports = false)
    (hrecorded : (world.applyConfiguration leftover aConfiguration).Matches) :
    (world.applyConfiguration leftover aConfiguration).Settled :=
  ⟨hoff, hrecorded,
    ((applyConfiguration_matches_iff leftover world aConfiguration).mp
      hrecorded).2⟩

theorem quicEndpointChanged_matches (world : MonitoredModel)
    (session : QUICEndpoint)
    (hrecorded : (world.quicEndpointChanged session).2.Matches) :
    world.Matches := by
  unfold MonitoredModel.quicEndpointChanged at hrecorded
  dsimp only at hrecorded
  split at hrecorded
  · exact ((getActive_matches_iff world).mp hrecorded).1
  · exact ((getActive_matches_iff world).mp
      ((getActive_matches_iff _).mp hrecorded).1).1

theorem scheduleAndSave_matches (world : MonitoredModel)
    (configuration : Configuration)
    (hrecorded : (world.scheduleAndSave configuration).Matches) :
    world.Matches :=
  ((getActive_matches_iff world).mp hrecorded).1

theorem Settled.scheduleAndSave (hsettled : world.Settled)
    (configuration : Configuration) :
    (world.scheduleAndSave configuration).Settled := by
  obtain ⟨hoff, hrecorded, hmonitors⟩ := hsettled.scheduleStatsReporting
  exact ⟨hoff, hrecorded, monitorsActive_of_same hmonitors rfl rfl rfl rfl⟩

theorem drawAndApply_eq (world : MonitoredModel)
    (configuration : Configuration) (roll : Int) :
    world.drawAndApply leftover configuration roll =
      (world.state.drawn configuration roll,
        (world.beforeApplying (world.state.drawn configuration
          roll)).applyConfiguration leftover
            (world.state.drawn configuration roll)) := by
  let lowered : ModelState := { world.state with mStaleOnFlag := false }
  have hdrawn : world.state.drawn configuration roll =
      (world.drawAndApply leftover configuration roll).1 := by
    rw [← ModelState.drawn_mStaleOnFlag]
    exact congrArg (fun active : Configuration =>
      ModelState.drawLottery configuration lowered.getActive.1.abTestingRatio
        active.abTesMode roll) lowered.getActive_getActive.symm
  rw [hdrawn]
  rfl

theorem beforeApplying_off (world : MonitoredModel)
    (configuration : Configuration) :
    (world.beforeApplying configuration).state.mStaleConfiguration =
      world.state.mStaleConfiguration := by
  simp [beforeApplying, loaded, readOld, lowered, MonitoredModel.getActive]

theorem configurationReceived_matches_iff (world : MonitoredModel)
    (configuration : Configuration) (roll : Int) (session : QUICEndpoint)
    (hoff : world.state.mStaleConfiguration.operationMode.reports = false) :
    (world.configurationReceived leftover configuration roll
        session).Matches ↔
      ((world.beforeApplying (world.state.drawn configuration
        roll)).applyConfiguration leftover
          (world.state.drawn configuration roll)).Matches := by
  have happlied : (world.drawAndApply leftover configuration roll).2 =
      (world.beforeApplying (world.state.drawn configuration
        roll)).applyConfiguration leftover
          (world.state.drawn configuration roll) := by
    rw [drawAndApply_eq]
  rw [← happlied]
  unfold Matches
  rw [configurationReceived_moments]
  constructor
  · intro hrecorded
    exact scheduleAndSave_matches _ _
      (quicEndpointChanged_matches _ session hrecorded)
  · intro hrecorded
    have hsettled : (world.drawAndApply leftover configuration
        roll).2.Settled := by
      rw [happlied] at hrecorded ⊢
      refine .of_applied leftover ?_ hrecorded
      rw [beforeApplying_off]
      exact hoff
    exact ((hsettled.scheduleAndSave _).quicEndpointChanged session).recorded

theorem resumeUpdate_matches_iff (world : MonitoredModel)
    (hoff : world.state.mStaleConfiguration.operationMode.reports = false) :
    (world.resumeUpdate leftover).Matches ↔
      (world.resumed.getActive.2.applyConfiguration leftover
        world.resumed.state.getActive.1).Matches := by
  constructor
  · exact fun hrecorded => ((getActive_matches_iff _).mp hrecorded).1
  · intro hrecorded
    have hsettled := Settled.of_applied leftover
      (by simpa [MonitoredModel.getActive, resumed] using hoff) hrecorded
    exact hsettled.scheduleStatsReporting.recorded

/-! ## Who is monitored -/

structure Recorded (world : MonitoredModel) : Prop where
  stale : world.state.mStaleConfiguration =
    { operationMode := .kRSOperationModeInnerOff }
  flag : world.state.mStaleOnFlag = (world.staleBefore || world.staleSince)

structure Tracks (world : MonitoredModel) : Prop where
  recorded : world.Recorded
  monitoring : world.state.monitoring =
    (world.appliedReports && (world.staleBefore || !world.staleSince))

theorem Recorded.off (hrecorded : world.Recorded) :
    world.state.mStaleConfiguration.operationMode.reports = false := by
  rw [hrecorded.stale]
  rfl

theorem Recorded.getActive (hrecorded : world.Recorded) :
    world.getActive.2.Recorded := by
  refine ⟨by simpa [MonitoredModel.getActive] using hrecorded.stale, ?_⟩
  have hflag := hrecorded.flag
  simp only [MonitoredModel.getActive]
  unfold ModelState.getActive
  cases world.state.isStale with
  | false => simpa using hflag
  | true => cases hup : world.state.mStaleOnFlag <;> simp [hup]

theorem Tracks.getActive (htracks : world.Tracks) :
    world.getActive.2.Tracks := by
  refine ⟨htracks.recorded.getActive, ?_⟩
  have hflag := htracks.recorded.flag
  have hmonitoring := htracks.monitoring
  simp only [MonitoredModel.getActive, appliedReports] at hmonitoring ⊢
  unfold ModelState.getActive
  cases world.state.isStale with
  | false => simpa using hmonitoring
  | true =>
      rw [if_pos rfl, Bool.or_true, Bool.not_true, Bool.or_false]
      cases hup : world.state.mStaleOnFlag with
      | false =>
          rw [hup, eq_comm, Bool.or_eq_false_iff] at hflag
          simp [hflag.1]
      | true =>
          rw [hup] at hflag
          rw [if_neg (by decide), hmonitoring]
          cases hbefore : world.staleBefore with
          | true => simp
          | false =>
              rw [hbefore, Bool.false_or] at hflag
              simp [← hflag]

theorem Recorded.applyConfiguration (hrecorded : world.Recorded)
    (aConfiguration : Configuration) :
    (world.applyConfiguration leftover aConfiguration).Tracks := by
  refine ⟨⟨hrecorded.stale, ?_⟩, ?_⟩
  · exact hrecorded.flag.trans (Bool.or_false _).symm
  · simp [MonitoredModel.applyConfiguration, ModelState.applyConfiguration,
      appliedReports]

theorem Tracks.scheduleStatsReporting (htracks : world.Tracks) :
    world.scheduleStatsReporting.Tracks := by
  have hread := htracks.getActive
  have hschedule : world.scheduleStatsReporting.state =
      { world.getActive.2.state with
        mStatsReportingTimer :=
          world.state.scheduleStatsReporting.mStatsReportingTimer } :=
    scheduleStatsReporting_read world.state
  refine ⟨⟨?_, ?_⟩, ?_⟩
  · rw [hschedule]
    exact hread.recorded.stale
  · rw [hschedule]
    exact hread.recorded.flag
  · rw [hschedule]
    exact hread.monitoring

theorem Tracks.scheduleAndSave (htracks : world.Tracks)
    (configuration : Configuration) :
    (world.scheduleAndSave configuration).Tracks :=
  have hscheduled := htracks.scheduleStatsReporting
  ⟨⟨hscheduled.recorded.stale, hscheduled.recorded.flag⟩,
    hscheduled.monitoring⟩

theorem Tracks.quicEndpointChanged (htracks : world.Tracks)
    (session : QUICEndpoint) :
    (world.quicEndpointChanged session).2.Tracks := by
  unfold MonitoredModel.quicEndpointChanged
  dsimp only
  split
  · exact htracks.getActive
  · exact htracks.getActive.getActive

theorem Recorded.readOld (hrecorded : world.Recorded) :
    world.readOld.Recorded := by
  have hlowered : world.lowered.Recorded := ⟨hrecorded.stale, rfl⟩
  exact hlowered.getActive.getActive

theorem Recorded.configurationReceived (hrecorded : world.Recorded)
    (configuration : Configuration) (roll : Int) (session : QUICEndpoint) :
    (world.configurationReceived leftover configuration roll
      session).Tracks := by
  have hbefore : (world.beforeApplying (world.state.drawn configuration
      roll)).Recorded := ⟨hrecorded.readOld.stale, hrecorded.readOld.flag⟩
  have happlied : (world.drawAndApply leftover configuration
      roll).2.Tracks := by
    rw [drawAndApply_eq]
    exact hbefore.applyConfiguration leftover _
  obtain ⟨⟨hstale, hflag⟩, hmonitoring⟩ :=
    (happlied.scheduleAndSave _).quicEndpointChanged session
  unfold appliedReports at hmonitoring
  constructor
  · constructor
    all_goals
      simp only [MonitoredModel.configurationReceived]
      split
      all_goals assumption
  · simp only [MonitoredModel.configurationReceived, appliedReports]
    split
    · exact hmonitoring
    · exact hmonitoring

theorem Tracks.resumeUpdate (htracks : world.Tracks) :
    (world.resumeUpdate leftover).Tracks := by
  have hresumed : world.resumed.Recorded :=
    ⟨htracks.recorded.stale, htracks.recorded.flag⟩
  exact (hresumed.getActive.applyConfiguration leftover
    _).scheduleStatsReporting

section Construction

variable (now : Int) (stored : Option Configuration) (timestamp : Int)
  (restored : List String)

theorem construct_loaded :
    (ModelState.construct leftover now stored timestamp
      restored).mActiveConfiguration = stored.getD .ofEmptyDictionary := by
  unfold ModelState.construct
  dsimp only
  split <;> rfl

theorem construct_isTimedOut :
    (ModelState.construct leftover now stored timestamp restored).isTimedOut =
      decide ((stored.getD .ofEmptyDictionary).staleTimeout <
        (now - timestamp).tdiv ModelState.ticksPerSecond) := by
  unfold ModelState.construct
  dsimp only
  split <;> rfl

theorem construct_monitoring :
    let state := ModelState.construct leftover now stored timestamp restored
    state.monitoring = (!state.isTimedOut &&
      state.mActiveConfiguration.operationMode.reports) := by
  have hguard (timedOut reports : Bool) :
      (if !timedOut then reports else false) = (!timedOut && reports) := by
    cases timedOut <;> rfl
  unfold ModelState.construct
  dsimp only
  split
  next hfresh => exact ((if_pos hfresh).symm.trans (hguard _ _))
  next htimed => exact ((if_neg htimed).symm.trans (hguard _ _))

theorem construct_haveAvailadleProtocols :
    let state := ModelState.construct leftover now stored timestamp restored
    state.isTimedOut = false →
      state.mProtocolSelector.haveAvailadleProtocols =
        (ProtocolSelector.protocolOfID
          state.mActiveConfiguration.initialTransportProtocol).isSome := by
  unfold ModelState.construct
  dsimp only
  split
  next hfresh => exact fun _ => rfl
  next htimed =>
    intro hfresh
    exact absurd (congrArg not hfresh) htimed

theorem construct_flag :
    (ModelState.construct leftover now stored timestamp
      restored).mStaleOnFlag = false := by
  unfold ModelState.construct
  dsimp only
  split <;> rfl

end Construction

theorem construct_tracks (world : MonitoredModel) (now : Int) :
    (world.construct leftover now).Tracks := by
  refine ⟨⟨rfl, construct_flag ..⟩, (construct_monitoring ..).trans ?_⟩
  simp only [appliedReports, construct]
  split
  next htimed => simp [htimed]
  next hfresh => simp [Bool.eq_false_iff.mpr hfresh]

theorem react_tracks (htracks : world.Tracks)
    (hreact : world.react leftover reader event = .ok world') :
    world'.Tracks := by
  have hcleared : Tracks { world with moments := [] } :=
    ⟨⟨htracks.recorded.stale, htracks.recorded.flag⟩, htracks.monitoring⟩
  have hstale := ModelState.react_keeps_stale leftover htracks.recorded.stale
    (react_state leftover hreact)
  cases event with
  | configurationLoaded aData isNoError roll session =>
      obtain ⟨state, hstate, hworld⟩ := (Outcome.bind_eq_ok _ _ _).mp hreact
      obtain rfl := Except.ok.inj hworld
      split
      next configuration roll' haccepted =>
        exact hcleared.recorded.configurationReceived leftover configuration
          roll' session
      next hrejected =>
        obtain rfl := ModelState.completionBlock_rejected leftover hrejected
          hstate
        exact hcleared
  | restart now =>
      obtain rfl := Except.ok.inj hreact
      exact construct_tracks leftover _ now
  | getActive =>
      obtain rfl := Except.ok.inj hreact
      exact hcleared.getActive
  | handleTestResults aResults =>
      obtain rfl := Except.ok.inj hreact
      have hread := hcleared.getActive
      exact ⟨⟨hstale, hread.recorded.flag⟩, hread.monitoring⟩
  | resumeUpdate =>
      obtain rfl := Except.ok.inj hreact
      exact hcleared.resumeUpdate leftover
  | setOperationMode aMode =>
      obtain rfl := Except.ok.inj hreact
      refine ⟨⟨hstale, ?_⟩, ?_⟩ <;> simp only [ModelState.setOperationMode]
      · split <;> exact htracks.recorded.flag
      · split <;> exact htracks.monitoring
  | stopUpdate | clock now =>
      obtain rfl := Except.ok.inj hreact
      exact ⟨⟨hstale, htracks.recorded.flag⟩, htracks.monitoring⟩

/-! ## Which events stay in step -/

theorem Tracks.reads_iff (htracks : world.Tracks) :
    world.state.getActive.2.MonitorsActive ↔ world.ReadsInStep := by
  rw [getActive_monitorsActive_iff world.state htracks.recorded.off,
    htracks.recorded.flag, htracks.monitoring]
  unfold ReadsInStep
  cases world.state.isStale <;>
    cases world.state.mActiveConfiguration.operationMode.reports <;>
      cases world.appliedReports <;> cases world.staleBefore <;>
        cases world.staleSince <;> decide

theorem Tracks.readOld_iff (htracks : world.Tracks) (hclear : world.Matches) :
    world.readOld.Matches ↔
      (world.state.isStale = false → world.ReadsInStep) := by
  have hoff := htracks.recorded.off
  have hfirst : world.lowered.state.getActive.2.MonitorsActive ↔
      (world.state.isStale = false → world.ReadsInStep) := by
    have hstale : world.lowered.state.isStale = world.state.isStale := rfl
    rw [getActive_monitorsActive_iff world.lowered.state hoff,
      ← htracks.reads_iff, getActive_monitorsActive_iff world.state hoff,
      hstale]
    cases world.state.isStale with
    | false => exact ⟨fun hreads _ => hreads, fun hreads => hreads rfl⟩
    | true =>
        exact iff_of_true (fun hflag => absurd hflag Bool.false_ne_true)
          (fun hfresh => absurd hfresh.symm Bool.false_ne_true)
  rw [← hfirst]
  constructor
  · intro hmatches
    exact ((getActive_matches_iff _).mp
      ((getActive_matches_iff _).mp hmatches).1).2
  · intro hmonitors
    have hsettled : world.lowered.getActive.2.Settled :=
      ⟨by simpa [lowered, MonitoredModel.getActive] using hoff,
        (getActive_matches_iff _).mpr ⟨hclear, hmonitors⟩, hmonitors⟩
    exact hsettled.getActive.recorded

theorem readOld_frame (world : MonitoredModel) :
    world.readOld.state = { world.state with
      mStaleOnFlag := world.readOld.state.mStaleOnFlag
      monitoring := world.readOld.state.monitoring } := by
  calc world.readOld.state = { world.lowered.state.getActive.2 with
          mStaleOnFlag := world.readOld.state.mStaleOnFlag
          monitoring := world.readOld.state.monitoring } :=
        ModelState.getActive_frame world.lowered.state.getActive.2
    _ = { world.state with
          mStaleOnFlag := world.readOld.state.mStaleOnFlag
          monitoring := world.readOld.state.monitoring } := by
        rw [ModelState.getActive_frame world.lowered.state]
        rfl

theorem applied_same {state state' : ModelState}
    {aConfiguration : Configuration}
    (hframe : state' = { state with
      mStaleOnFlag := state'.mStaleOnFlag
      monitoring := state'.monitoring }) :
    (state'.applyConfiguration leftover aConfiguration).MonitorsActive ↔
      (state.applyConfiguration leftover aConfiguration).MonitorsActive := by
  unfold ModelState.MonitorsActive
  rw [ModelState.getActive_fst, ModelState.getActive_fst, hframe]
  rfl

theorem Tracks.received_iff (htracks : world.Tracks) (hclear : world.Matches)
    (configuration : Configuration) (roll : Int) (session : QUICEndpoint) :
    (world.configurationReceived leftover configuration roll
        session).Matches ↔
      (world.state.isStale = false → world.ReadsInStep) ∧
        LoadsInStep leftover world.state
          (world.state.drawn configuration roll) := by
  have hoff := htracks.recorded.off
  rw [configurationReceived_matches_iff leftover world configuration roll
    session hoff, applyConfiguration_matches_iff]
  generalize world.state.drawn configuration roll = drawn
  have hbefore : (world.beforeApplying drawn).Matches ↔
      world.readOld.Matches := Iff.rfl
  have hframe : (world.beforeApplying drawn).state = { loaded world.state
      drawn with
        mStaleOnFlag := (world.beforeApplying drawn).state.mStaleOnFlag
        monitoring := (world.beforeApplying drawn).state.monitoring } := by
    conv_lhs => unfold beforeApplying loaded
    rw [readOld_frame]
    rfl
  rw [hbefore, htracks.readOld_iff hclear, applied_same leftover hframe,
    loaded_monitorsActive_iff leftover world.state hoff]

theorem Tracks.resumed_iff (htracks : world.Tracks) (hclear : world.Matches) :
    (world.resumeUpdate leftover).Matches ↔
      world.resumed.ReadsInStep ∧
        ResumesInStep leftover world.resumed.state := by
  have hresumed : world.resumed.Tracks :=
    ⟨⟨htracks.recorded.stale, htracks.recorded.flag⟩, htracks.monitoring⟩
  have hclear : world.resumed.Matches := hclear
  rw [resumeUpdate_matches_iff leftover world htracks.recorded.off,
    applyConfiguration_matches_iff, getActive_matches_iff,
    hresumed.reads_iff, and_iff_right hclear,
    ← resumed_monitorsActive_iff leftover _ hresumed.recorded.off]
  exact and_congr_right' (applied_same leftover
    (ModelState.getActive_frame world.resumed.state))

theorem construct_matches_iff (world : MonitoredModel) (now : Int) :
    (world.construct leftover now).Matches ↔
      LaunchesInStep world.state now := by
  have hoff := (construct_tracks leftover world now).recorded.off
  have hmonitoring := construct_monitoring leftover now
    world.state.storedConfiguration world.state.storedTimestamp
    world.state.mProtocolSelector.stored
  have hprotocol := construct_haveAvailadleProtocols leftover now
    world.state.storedConfiguration world.state.storedTimestamp
    world.state.mProtocolSelector.stored
  have hloaded := construct_loaded leftover now
    world.state.storedConfiguration world.state.storedTimestamp
    world.state.mProtocolSelector.stored
  have htimedOut := construct_isTimedOut leftover now
    world.state.storedConfiguration world.state.storedTimestamp
    world.state.mProtocolSelector.stored
  unfold MonitoredModel.construct at hoff ⊢
  unfold Matches LaunchesInStep ModelState.configuration
  dsimp only at *
  rw [hloaded] at hmonitoring hprotocol
  generalize ModelState.construct leftover now _ _ _ = state at *
  generalize world.state.storedConfiguration.getD .ofEmptyDictionary =
    configuration at *
  rw [← Int.not_lt, ← decide_eq_false_iff_not, ← htimedOut]
  cases htimed : state.isTimedOut with
  | true => simp
  | false =>
      have hstale : state.isStale = !(ProtocolSelector.protocolOfID
          configuration.initialTransportProtocol).isSome := by
        unfold ModelState.isStale
        rw [htimed, Bool.false_or, hprotocol htimed]
      simp only [Bool.false_eq_true, if_false, List.forall_mem_singleton,
        forall_const]
      rw [monitorsActive_iff _ hoff, hstale, hmonitoring, htimed, hloaded]
      cases configuration.operationMode.reports <;>
        cases (ProtocolSelector.protocolOfID
          configuration.initialTransportProtocol).isSome <;> simp

theorem react_matches_iff (htracks : world.launched = true → world.Tracks)
    (hadmitted : world.Admitted event)
    (hreact : world.react leftover reader event = .ok world') :
    world'.Matches ↔ world.InStep leftover reader event := by
  obtain hlaunched | ⟨now, rfl⟩ := hadmitted.2
  · have hworld := htracks hlaunched
    have hcleared : Tracks { world with moments := [] } :=
      ⟨⟨hworld.recorded.stale, hworld.recorded.flag⟩, hworld.monitoring⟩
    have hclear : Matches { world with moments := [] } :=
      fun moment hmoment => nomatch hmoment
    cases event with
    | configurationLoaded aData isNoError roll session =>
        obtain ⟨state, hstate, hnext⟩ := (Outcome.bind_eq_ok _ _ _).mp hreact
        obtain rfl := Except.ok.inj hnext
        simp only [InStep]
        split
        next configuration roll' haccepted =>
          rw [hcleared.received_iff leftover hclear, haccepted]
          constructor
          · rintro hboth _ _ ⟨⟩
            exact hboth
          · exact fun hevery => hevery configuration roll' rfl
        next hrejected =>
          simp only [hrejected, reduceCtorEq, false_implies, implies_true,
            iff_true]
          exact hclear
    | restart now =>
        obtain rfl := Except.ok.inj hreact
        exact construct_matches_iff leftover _ now
    | getActive | handleTestResults aResults =>
        obtain rfl := Except.ok.inj hreact
        exact (getActive_matches_iff _).trans
          ((and_iff_right hclear).trans hcleared.reads_iff)
    | resumeUpdate =>
        obtain rfl := Except.ok.inj hreact
        exact hcleared.resumed_iff leftover hclear
    | setOperationMode _ | stopUpdate | clock _ =>
        obtain rfl := Except.ok.inj hreact
        exact iff_of_true hclear trivial
  · obtain rfl := Except.ok.inj hreact
    exact construct_matches_iff leftover _ now

end Steps

section Following

variable (leftover : List String → Nat → String) {reader : ConfigurationReader}
  {trail : List (MonitoredModel × ModelEvent)} {world : MonitoredModel}

/--
Right after every `getActive` and `applyConfiguration` of a run the monitoring
is on exactly while the active mode reports, if and only if each event of the
run stays in step.
-/
theorem monitoring_follows_iff
    (path : (system leftover reader).Path Admitted trail world) :
    EventSystem.Throughout Matches trail world ↔
      EventSystem.Obeys (InStep leftover reader) trail := by
  refine path.throughout_iff_obeys (fun world =>
    (world.launched = true → world.Tracks) ∧ world.Matches) ?_ ?_ ?_ ?_
  · rintro world ⟨hidle, hmoments⟩
    refine ⟨fun hlaunched => ?_, fun moment hmoment => ?_⟩
    · exact absurd (hidle.symm.trans hlaunched) Bool.false_ne_true
    · rw [hmoments] at hmoment
      cases hmoment
  · intro world event world' hinv hadmitted hinStep hstep
    have hreact := (Outcome.toOption_eq_some _ _).mp hstep
    refine ⟨fun _ => ?_,
      (react_matches_iff leftover hinv.1 hadmitted hreact).mpr hinStep⟩
    obtain hlaunched | ⟨now, rfl⟩ := hadmitted.2
    · exact react_tracks leftover (hinv.1 hlaunched) hreact
    · obtain rfl := Except.ok.inj hreact
      exact construct_tracks leftover _ now
  · intro world event world' hinv hadmitted hoff hstep hmatches
    exact hoff ((react_matches_iff leftover hinv.1 hadmitted
      ((Outcome.toOption_eq_some _ _).mp hstep)).mp hmatches)
  · exact fun world hinv => hinv.2

end Following

section FirstInstallation

open ModelState (firstStart readerOf loadOf)
open RevSDK.Configuration (transporting)
open SelectorWorld (untouched)

def installed : MonitoredModel := ⟨firstStart, false, none, false, false, []⟩

def firstLaunch : MonitoredModel := installed.construct untouched 1000000000

def transportingPath : List (MonitoredModel × ModelEvent) → MonitoredModel →
    Prop :=
  (system untouched (readerOf (transporting 50))).Path Admitted

theorem firstLaunch_path :
    transportingPath [(installed, .restart 1000000000)] firstLaunch := by
  have hstart : transportingPath [] installed := .start ⟨rfl, rfl⟩
  exact hstart.next ⟨trivial, .inr ⟨_, rfl⟩⟩ rfl

def read (world : MonitoredModel) : MonitoredModel :=
  { world with moments := [] }.getActive.2

def wait (world : MonitoredModel) (now : Int) : MonitoredModel :=
  { world with
    state := { world.state with now := now }
    moments := [] }

def load (world : MonitoredModel) (roll : Int) : MonitoredModel :=
  { world with moments := [] }.configurationReceived untouched
    (transporting 50) roll ⟨"", 443, false⟩

theorem transporting_served :
    (transporting 50).Served (transporting 50).servingPlatform := by
  decide +kernel

section Steps

variable {trail : List (MonitoredModel × ModelEvent)} {world : MonitoredModel}

theorem read_path (path : transportingPath trail world)
    (hlaunched : world.launched = true) :
    transportingPath (trail ++ [(world, .getActive)]) world.read :=
  path.next (e := ModelEvent.getActive) ⟨trivial, .inl hlaunched⟩ rfl

theorem wait_path (path : transportingPath trail world)
    (hlaunched : world.launched = true) (now : Int) :
    transportingPath (trail ++ [(world, .clock now)]) (world.wait now) :=
  path.next (e := ModelEvent.clock now) ⟨trivial, .inl hlaunched⟩ rfl

theorem load_path (path : transportingPath trail world)
    (hlaunched : world.launched = true) {roll : Int}
    (hroll : 0 ≤ roll ∧ roll < 100) :
    transportingPath (trail ++ [(world, loadOf (transporting 50) roll)])
      (world.load roll) := by
  have hreact : world.react untouched (readerOf (transporting 50))
      (loadOf (transporting 50) roll) = .ok (world.load roll) :=
    react_accepted untouched world
      (ModelState.accepted_loadOf transporting_served roll)
  refine path.next ⟨hroll, .inl hlaunched⟩ ?_
  simp only [system, hreact]
  rfl

end Steps

theorem load_inStep {world : MonitoredModel} {roll : Int}
    (hreads : world.state.isStale = false → world.ReadsInStep)
    (hloads : LoadsInStep untouched world.state
      (world.state.drawn (transporting 50) roll)) :
    world.InStep untouched (readerOf (transporting 50))
      (loadOf (transporting 50) roll) := by
  have hserved := ModelState.accepted_loadOf transporting_served roll
  unfold loadOf at hserved
  intro configuration roll' haccepted
  obtain ⟨rfl, rfl⟩ := Prod.mk.inj
    (Option.some.inj (hserved.symm.trans haccepted))
  exact ⟨hreads, hloads⟩

def firstLoaded : MonitoredModel := firstLaunch.load 99

theorem firstLoaded_path :
    transportingPath [(installed, .restart 1000000000),
      (firstLaunch, loadOf (transporting 50) 99)] firstLoaded :=
  load_path firstLaunch_path rfl (by decide)

def staleAgain : MonitoredModel := (firstLoaded.wait 8200000000).read

/-- The monitoring goes on, as the load had used up the callback. -/
theorem staleAgain_monitors :
    (system untouched (readerOf (transporting 50))).Reachable Admitted
        staleAgain ∧
      staleAgain.state.getActive.1.operationMode.reports = false ∧
      staleAgain.state.monitoring = true ∧ ¬ staleAgain.Matches := by
  have hlater := wait_path firstLoaded_path rfl 8200000000
  refine ⟨(read_path hlater rfl).reachable, by decide, by decide, ?_⟩
  intro hmatches
  have hright : staleAgain.state.MonitorsActive :=
    hmatches staleAgain.state (List.mem_singleton.mpr rfl)
  revert hright
  decide

/-- The second load finds the first in force, so its callback is to come. -/
theorem monitoring_follows_iff_loadedTwice :
    ∃ trail world, transportingPath trail world ∧
      trail.map Prod.snd = [.restart 1000000000,
        loadOf (transporting 50) 99, .getActive,
        loadOf (transporting 50) 70, .clock 8200000000, .getActive] ∧
      EventSystem.Throughout Matches trail world ∧
      world.moments.map ModelState.monitoring = [false] := by
  have hroll : (0 : Int) ≤ 70 ∧ (70 : Int) < 100 := by decide
  have hloaded := load_path (read_path firstLoaded_path rfl) rfl hroll
  have path := read_path (wait_path hloaded rfl 8200000000) rfl
  refine ⟨_, _, path, rfl, (monitoring_follows_iff untouched path).mpr ?_,
    by decide⟩
  intro visit hvisit
  simp only [List.mem_append, List.mem_cons, List.not_mem_nil, or_false]
    at hvisit
  rcases hvisit with ((((rfl | rfl) | rfl) | rfl) | rfl) | rfl
  · exact fun htimely => absurd htimely (by decide)
  · refine load_inStep (fun hfresh => absurd hfresh (by decide))
      fun _ => ⟨by decide, ?_⟩
    exact (ProtocolSelector.onConfigurationApplied_offers_iff ..).mp (by decide)
  · exact ⟨by decide, fun hstale => absurd hstale (by decide)⟩
  · refine load_inStep (fun _ => ⟨by decide, fun hstale => ?_⟩)
      fun _ => ⟨by decide, ?_⟩
    · exact absurd hstale (by decide)
    · exact (ProtocolSelector.onConfigurationApplied_offers_iff ..).mp
        (by decide)
  · trivial
  · exact fun _ => rfl

end FirstInstallation

end MonitoredModel

end RevSDK
