import RevSDK.Connection.Data
import RevSDK.Connection.Error
import RevSDK.Foundation.Outcome
import RevSDK.Foundation.Runs
import RevSDK.Protocol.ProtocolSelector

/-!
# The configuration service and its model

`ConfigurationService` asks the selector whether its configuration is stale,
and the selector is given its list of allowed protocols by the service, so the
two are one state.  With them stand the parts of `Model` that a configuration
switches, the clock, and what is stored on disk.  Times count ticks of
`system_clock`; a timer is its interval.
-/

namespace RevSDK

open RevSDK.Foundation

structure ConfigurationReader where
  isValidConfiguration : Data → Error → Outcome (Bool × Error)
  processConfigurationData : Data → Outcome Configuration

/-- What `QUICSession::instance()` answers. -/
structure QUICEndpoint where
  host : String
  port : Int
  connected : Bool
  deriving DecidableEq

structure ModelState where
  mActiveConfiguration : Configuration
  mStaleConfiguration : Configuration
  mStaleOnFlag : Bool
  mLastUpdated : Int
  mConfigurationRefreshTimer : Option Int
  mProtocolSelector : ProtocolSelector
  mStatsReportingLevel : RSStatsReportingLevel
  monitoring : Bool
  mCurrentLoggingLevel : Nat
  mStatsReportingTimer : Option Int
  reconnects : Nat
  now : Int
  storedConfiguration : Option Configuration
  storedTimestamp : Int
  deriving DecidableEq

/-- `configurationFromNSDictionary` of an empty dictionary. -/
def Configuration.ofEmptyDictionary : Configuration where
  abTestingRatio := 0
  SDKDomain := ""
  quicUDPPort := 0
  failuresMonitoringInterval := 0
  failuresFailoverThreshold := 0

/-- `Timer::scheduleTimer` keeps the old timer if the interval is not positive. -/
def scheduleTimer (aTimer : Option Int) (aInterval : Int) : Option Int :=
  if aInterval > 0 then some aInterval else aTimer

namespace ModelState

/-- A second of `std::chrono::system_clock`, which counts microseconds. -/
def ticksPerSecond : Int := 1000000

def isTimedOut (state : ModelState) : Bool :=
  let span := (state.now - state.mLastUpdated).tdiv ticksPerSecond
  state.mActiveConfiguration.staleTimeout < span

def isStale (state : ModelState) : Bool :=
  let externalFlag := !state.mProtocolSelector.haveAvailadleProtocols
  state.isTimedOut || externalFlag

def getActive (state : ModelState) : Configuration × ModelState :=
  if state.isStale then
    if !state.mStaleOnFlag then
      (state.mStaleConfiguration,
        { state with mStaleOnFlag := true, monitoring := false })
    else (state.mStaleConfiguration, state)
  else (state.mActiveConfiguration, state)

def logLevels : List String := ["none", "error", "debug", "info"]

def scheduleStatsReporting (state : ModelState) : ModelState :=
  let (activeConf, state) := state.getActive
  if activeConf.operationMode.reports then
    if state.mStatsReportingTimer ≠ some activeConf.statsReportingInterval then
      { state with
        mStatsReportingTimer := scheduleTimer state.mStatsReportingTimer
          activeConf.statsReportingInterval }
    else state
  else { state with mStatsReportingTimer := none }

def setOperationMode (state : ModelState) (aMode : RSOperationModeInner) :
    ModelState :=
  if !state.isStale then
    { state with
      mActiveConfiguration :=
        { state.mActiveConfiguration with operationMode := aMode } }
  else state

def stopUpdate (state : ModelState) : ModelState :=
  { state with storedConfiguration := some state.mActiveConfiguration }

def configuration (state : ModelState) : Configuration :=
  state.storedConfiguration.getD .ofEmptyDictionary

/-- The draw of the A/B lottery, where `roll` is `rand() % 100`. -/
def drawLottery (configuration : Configuration) (oldABRatio : Int)
    (oldABMode : Bool) (roll : Int) : Configuration :=
  if oldABRatio ≠ configuration.abTestingRatio then
    if configuration.abTestingRatio ≥ 100 ∨
        configuration.abTestingRatio > roll then
      { configuration with
        abTesMode := true
        operationMode := .kRSOperationModeInnerReport }
    else { configuration with abTesMode := false }
  else
    { configuration with
      abTesMode := oldABMode
      abTestingRatio := oldABRatio }

def quicEndpointChanged (state : ModelState) (session : QUICEndpoint) :
    Bool × ModelState :=
  let (active, state) := state.getActive
  if session.host ≠ active.edgeHost then (true, state)
  else
    let (active, state) := state.getActive
    (session.port ≠ active.quicUDPPort, state)

section Applying

variable (leftover : List String → Nat → String)

def applyConfiguration (state : ModelState) (aConfiguration : Configuration) :
    ModelState :=
  { state with
    mStatsReportingLevel := aConfiguration.statsReportingLevel
    monitoring := aConfiguration.operationMode.reports
    mProtocolSelector := state.mProtocolSelector.onConfigurationApplied
      leftover aConfiguration
    mCurrentLoggingLevel :=
      match logLevels.findIdx? (· == aConfiguration.loggingLevel) with
      | some index => index
      | none => 0 }

/-- A new process builds `Model` and its service from the stored data. -/
def construct (now : Int) (storedConfiguration : Option Configuration)
    (storedTimestamp : Int) (restoredAvailableProtocols : List String) :
    ModelState :=
  let configuration := storedConfiguration.getD .ofEmptyDictionary
  let state : ModelState :=
    { mActiveConfiguration := configuration
      mStaleConfiguration := {}
      mStaleOnFlag := false
      mLastUpdated := storedTimestamp
      mConfigurationRefreshTimer := none
      mProtocolSelector := .construct restoredAvailableProtocols
      mStatsReportingLevel := .kRSStatsReportingLevelDebug
      monitoring := false
      mCurrentLoggingLevel := 0
      mStatsReportingTimer := none
      reconnects := 0
      now := now
      storedConfiguration := storedConfiguration
      storedTimestamp := storedTimestamp }
  let state := if !state.isTimedOut then
      state.applyConfiguration leftover configuration else state
  { state with
    mStaleConfiguration := { operationMode := .kRSOperationModeInnerOff }
    mConfigurationRefreshTimer := scheduleTimer none
      configuration.refreshInterval }

def resumeUpdate (state : ModelState) : ModelState :=
  let state := { state with mActiveConfiguration := state.configuration }
  let (active, state) := state.getActive
  (state.applyConfiguration leftover active).scheduleStatsReporting

/-- The completion block of `loadConfiguration` for data it accepts. -/
def configurationReceived (state : ModelState)
    (configuration : Configuration) (roll : Int) (session : QUICEndpoint) :
    ModelState :=
  let state := { state with mStaleOnFlag := false }
  let (active, state) := state.getActive
  let oldABRatio := active.abTestingRatio
  let (active, state) := state.getActive
  let oldABMode := active.abTesMode
  let configuration := drawLottery configuration oldABRatio oldABMode roll
  let state := { state with
    mLastUpdated := state.now
    storedTimestamp := state.now
    mActiveConfiguration := configuration }
  let state := state.applyConfiguration leftover configuration
  let state := state.scheduleStatsReporting
  let state := { state with storedConfiguration := some configuration }
  let (changed, state) := state.quicEndpointChanged session
  let state := if changed && session.connected then
      { state with reconnects := state.reconnects + 1 } else state
  { state with
    mConfigurationRefreshTimer := scheduleTimer
      state.mConfigurationRefreshTimer configuration.refreshInterval }

def completionBlock (reader : ConfigurationReader) (state : ModelState)
    (aData : Data) (isNoError : Bool) (roll : Int) (session : QUICEndpoint) :
    Outcome ModelState := do
  if isNoError then
    let (isValid, _) ← reader.isValidConfiguration aData {}
    if isValid then
      let configuration ← reader.processConfigurationData aData
      return state.configurationReceived leftover configuration roll session
    else return state
  else return state

/-- The selector's completion callback of a test. -/
def handleTestResults (state : ModelState)
    (aResults : List AvailabilityTestResult) : ModelState :=
  let (active, state) := state.getActive
  { state with
    mProtocolSelector := state.mProtocolSelector.handleTestResults leftover
      active.allowedProtocols aResults }

end Applying

end ModelState

end RevSDK
