import RevSDK.Protocol.SelectorChoice
import RevSDK.Utils.ServedDocument

/-!
# Recovery of the selector

A configuration is stale while the selector has no protocol, and the stale
configuration allows none.  So test results reach a selector without a
protocol with an empty list, and only a new configuration or a new process
brings a protocol back.
-/

namespace RevSDK

open RevSDK.Foundation

inductive ModelEvent where
  | configurationLoaded (aData : Data) (isNoError : Bool) (roll : Int)
      (session : QUICEndpoint)
  | handleTestResults (aResults : List AvailabilityTestResult)
  | getActive
  | setOperationMode (aMode : RSOperationModeInner)
  | stopUpdate
  | resumeUpdate
  | clock (now : Int)
  | restart (now : Int)
  deriving DecidableEq

namespace ModelState

section Runs

variable (leftover : List String → Nat → String) (reader : ConfigurationReader)

def react (state : ModelState) : ModelEvent → Outcome ModelState
  | .configurationLoaded aData isNoError roll session =>
      state.completionBlock leftover reader aData isNoError roll session
  | .handleTestResults aResults =>
      .ok (state.handleTestResults leftover aResults)
  | .getActive => .ok state.getActive.2
  | .setOperationMode aMode => .ok (state.setOperationMode aMode)
  | .stopUpdate => .ok state.stopUpdate
  | .resumeUpdate => .ok (state.resumeUpdate leftover)
  | .clock now => .ok { state with now := now }
  | .restart now => .ok (construct leftover now state.storedConfiguration
      state.storedTimestamp state.mProtocolSelector.stored)

def system : EventSystem ModelState ModelEvent where
  initial state := ∃ now configuration timestamp restored,
    state = construct leftover now configuration timestamp restored
  step state event := (state.react leftover reader event).toOption

/-- `rand() % 100` is below a hundred. -/
def Admitted (_ : ModelState) : ModelEvent → Prop
  | .configurationLoaded _ _ roll _ => 0 ≤ roll ∧ roll < 100
  | _ => True

instance (state : ModelState) (event : ModelEvent) :
    Decidable (state.Admitted event) := by
  cases event <;> unfold Admitted <;> infer_instance

/-- Some protocol that the loaded configuration allows was found available. -/
def SomeAllowedAvailable (state : ModelState)
    (aResults : List AvailabilityTestResult) : Prop :=
  ∃ protocol : Protocol,
    protocol.protocolName ∈ state.mActiveConfiguration.allowedProtocols ∧
      protocol.protocolName ∈ ProtocolSelector.availableIDs aResults

/-- After these results the loaded configuration is in force again. -/
def RecoversWith (state : ModelState)
    (aResults : List AvailabilityTestResult) : Prop :=
  state.SomeAllowedAvailable aResults →
    let state' := state.handleTestResults leftover aResults
    state'.mProtocolSelector.haveAvailadleProtocols = true ∧
      state'.isStale = false ∧
      state'.getActive.1 = state.mActiveConfiguration

/--
A protocol was in use, and the first name of the list that is available is
that of a protocol.
-/
def Recoverable (state : ModelState)
    (aResults : List AvailabilityTestResult) : Prop :=
  state.SomeAllowedAvailable aResults →
    state.mProtocolSelector.mBestProtocol ≠ none ∧
      ∃ protocol : Protocol,
        state.mActiveConfiguration.allowedProtocols.find? (fun item =>
          (ProtocolSelector.availableIDs aResults).contains item) =
            some protocol.protocolName

end Runs

section Lemmas

variable (leftover : List String → Nat → String) {reader : ConfigurationReader}
  {state : ModelState}

theorem getActive_stale (hstale : state.isStale = true) :
    state.getActive.1 = state.mStaleConfiguration := by
  unfold getActive
  rw [if_pos hstale]
  split <;> rfl

theorem getActive_fresh (hfresh : state.isStale = false) :
    state.getActive = (state.mActiveConfiguration, state) := by
  unfold getActive
  rw [if_neg (by simp [hfresh])]

theorem getActive_frame (state : ModelState) :
    state.getActive.2 = { state with
      mStaleOnFlag := state.getActive.2.mStaleOnFlag
      monitoring := state.getActive.2.monitoring } := by
  unfold getActive
  split
  · split <;> rfl
  · rfl

@[simp] theorem getActive_mStaleConfiguration (state : ModelState) :
    state.getActive.2.mStaleConfiguration = state.mStaleConfiguration := by
  rw [getActive_frame]

theorem scheduleStatsReporting_frame (state : ModelState) :
    state.scheduleStatsReporting = { state with
      mStaleOnFlag := state.scheduleStatsReporting.mStaleOnFlag
      monitoring := state.scheduleStatsReporting.monitoring
      mStatsReportingTimer :=
        state.scheduleStatsReporting.mStatsReportingTimer } := by
  unfold scheduleStatsReporting
  dsimp only
  split
  · split <;> rw [getActive_frame]
  · rw [getActive_frame]

theorem quicEndpointChanged_frame (state : ModelState)
    (session : QUICEndpoint) :
    (state.quicEndpointChanged session).2 = { state with
      mStaleOnFlag := (state.quicEndpointChanged session).2.mStaleOnFlag
      monitoring := (state.quicEndpointChanged session).2.monitoring } := by
  unfold quicEndpointChanged
  dsimp only
  split
  · exact getActive_frame state
  · rw [getActive_frame state.getActive.2, getActive_frame state]

@[simp] theorem scheduleStatsReporting_mStaleConfiguration
    (state : ModelState) :
    state.scheduleStatsReporting.mStaleConfiguration =
      state.mStaleConfiguration := by
  rw [scheduleStatsReporting_frame]

@[simp] theorem applyConfiguration_mStaleConfiguration (state : ModelState)
    (aConfiguration : Configuration) :
    (state.applyConfiguration leftover aConfiguration).mStaleConfiguration =
      state.mStaleConfiguration := rfl

@[simp] theorem quicEndpointChanged_mStaleConfiguration (state : ModelState)
    (session : QUICEndpoint) :
    (state.quicEndpointChanged session).2.mStaleConfiguration =
      state.mStaleConfiguration := by
  rw [quicEndpointChanged_frame]

@[simp] theorem configurationReceived_mStaleConfiguration (state : ModelState)
    (configuration : Configuration) (roll : Int) (session : QUICEndpoint) :
    (state.configurationReceived leftover configuration roll
      session).mStaleConfiguration = state.mStaleConfiguration := by
  unfold configurationReceived
  dsimp only
  split <;> simp

@[simp] theorem handleTestResults_mStaleConfiguration (state : ModelState)
    (aResults : List AvailabilityTestResult) :
    (state.handleTestResults leftover aResults).mStaleConfiguration =
      state.mStaleConfiguration := by
  simp [handleTestResults]

theorem construct_mStaleConfiguration (now : Int)
    (stored : Option Configuration) (timestamp : Int)
    (restored : List String) :
    (construct leftover now stored timestamp restored).mStaleConfiguration =
      { operationMode := .kRSOperationModeInnerOff } := rfl

theorem completionBlock_cases {aData : Data} {isNoError : Bool} {roll : Int}
    {session : QUICEndpoint} {state' : ModelState}
    (h : state.completionBlock leftover reader aData isNoError roll session =
      .ok state') :
    state' = state ∨ ∃ configuration,
      state' = state.configurationReceived leftover configuration roll
        session := by
  unfold completionBlock at h
  cases isNoError with
  | false => exact .inl (Except.ok.inj h).symm
  | true =>
      obtain ⟨⟨isValid, _⟩, -, hverdict⟩ := (Outcome.bind_eq_ok _ _ _).mp h
      cases isValid with
      | false => exact .inl (Except.ok.inj hverdict).symm
      | true =>
          obtain ⟨configuration, -, hreceived⟩ :=
            (Outcome.bind_eq_ok _ _ _).mp hverdict
          exact .inr ⟨configuration, (Except.ok.inj hreceived).symm⟩

theorem react_mStaleConfiguration {event : ModelEvent} {state' : ModelState}
    (hreact : state.react leftover reader event = .ok state')
    (hrestart : ∀ now, event ≠ .restart now) :
    state'.mStaleConfiguration = state.mStaleConfiguration := by
  cases event with
  | configurationLoaded aData isNoError roll session =>
      rcases completionBlock_cases leftover hreact with
        rfl | ⟨configuration, rfl⟩
      · rfl
      · simp
  | restart now => exact absurd rfl (hrestart now)
  | setOperationMode aMode =>
      obtain rfl := Except.ok.inj hreact
      unfold setOperationMode
      split <;> rfl
  | resumeUpdate =>
      obtain rfl := Except.ok.inj hreact
      simp [resumeUpdate]
  | _ =>
      obtain rfl := Except.ok.inj hreact
      simp [stopUpdate]

theorem react_keeps_stale {event : ModelEvent} {state' : ModelState}
    (hstale : state.mStaleConfiguration =
      { operationMode := .kRSOperationModeInnerOff })
    (hreact : state.react leftover reader event = .ok state') :
    state'.mStaleConfiguration =
      { operationMode := .kRSOperationModeInnerOff } := by
  cases event with
  | restart now =>
      obtain rfl := Except.ok.inj hreact
      exact construct_mStaleConfiguration ..
  | _ => rw [react_mStaleConfiguration leftover hreact (by simp), hstale]

theorem mStaleConfiguration_of_reachable
    (hreach : (system leftover reader).Reachable Admitted state) :
    state.mStaleConfiguration =
      { operationMode := .kRSOperationModeInnerOff } := by
  refine hreach.invariant (fun state => state.mStaleConfiguration =
    { operationMode := .kRSOperationModeInnerOff }) ?_ ?_
  · rintro _ ⟨now, configuration, timestamp, restored, rfl⟩
    exact construct_mStaleConfiguration ..
  · intro state event state' hstale _ hstep
    exact react_keeps_stale leftover hstale
      ((Outcome.toOption_eq_some _ _).mp hstep)

theorem handleTestResults_unavailable
    (hallowed : state.mStaleConfiguration.allowedProtocols = [])
    (hbest : state.mProtocolSelector.mBestProtocol = none)
    (aResults : List AvailabilityTestResult) :
    (state.handleTestResults leftover
      aResults).mProtocolSelector.mBestProtocol = none := by
  have hstale : state.isStale = true := by
    simp [isStale, ProtocolSelector.haveAvailadleProtocols, hbest]
  simp only [handleTestResults, getActive_stale hstale, hallowed]
  exact ProtocolSelector.sortProtocols_nil ..

theorem handleTestResults_fresh (hfresh : state.isStale = false)
    (aResults : List AvailabilityTestResult) :
    state.handleTestResults leftover aResults = { state with
      mProtocolSelector := state.mProtocolSelector.handleTestResults leftover
        state.mActiveConfiguration.allowedProtocols aResults } := by
  simp [handleTestResults, getActive_fresh hfresh]

theorem sorted_best (selector : ProtocolSelector) {order : List String}
    {aResults : List AvailabilityTestResult} {protocol : Protocol}
    (horder : protocol.protocolName ∈ order)
    (havailable :
      protocol.protocolName ∈ ProtocolSelector.availableIDs aResults) :
    ∃ first, order.find? (fun item =>
        (ProtocolSelector.availableIDs aResults).contains item) =
          some first ∧
      (selector.handleTestResults leftover order aResults).mBestProtocol =
        ProtocolSelector.protocolOfID first := by
  have hmem : protocol.protocolName ∈ order.filter fun item =>
      (ProtocolSelector.availableIDs aResults).contains item := by
    apply List.mem_filter.mpr
    exact ⟨horder, by simpa using havailable⟩
  obtain ⟨first, kept, hkept⟩ :=
    List.exists_cons_of_ne_nil (List.ne_nil_of_mem hmem)
  refine ⟨first, ?_, ?_⟩
  · rw [← List.head?_filter, hkept]
    rfl
  · exact ProtocolSelector.sortProtocols_kept leftover { selector with
      mAvailableProtocols := ProtocolSelector.availableIDs aResults } hkept

theorem protocolOfID_isSome_iff (aID : String) :
    (ProtocolSelector.protocolOfID aID).isSome = true ↔
      ∃ protocol : Protocol, aID = protocol.protocolName := by
  constructor
  · intro hsome
    obtain ⟨protocol, hprotocol⟩ := Option.isSome_iff_exists.mp hsome
    exact ⟨protocol, (ProtocolSelector.protocolOfID_eq_some hprotocol).symm⟩
  · rintro ⟨protocol, rfl⟩
    cases protocol <;> rfl

/--
In a reachable state whose configuration is not timed out, the selector
recovers with given results exactly when it had a protocol and the first
allowed name among them is that of a protocol.
-/
theorem recoversWith_iff_recoverable
    (hreach : (system leftover reader).Reachable Admitted state)
    (hfresh : state.isTimedOut = false)
    (aResults : List AvailabilityTestResult) :
    state.RecoversWith leftover aResults ↔ state.Recoverable aResults := by
  have hallowed : state.mStaleConfiguration.allowedProtocols = [] := by
    rw [mStaleConfiguration_of_reachable leftover hreach]
  unfold RecoversWith Recoverable
  refine imp_congr_right fun hsome => ?_
  cases hbest : state.mProtocolSelector.mBestProtocol with
  | none =>
      have hafter :=
        handleTestResults_unavailable leftover hallowed hbest aResults
      simp [ProtocolSelector.haveAvailadleProtocols, hafter]
  | some protocol =>
      have hnotStale : state.isStale = false := by
        simp [isStale, hfresh, ProtocolSelector.haveAvailadleProtocols, hbest]
      obtain ⟨shared, horder, havailable⟩ := hsome
      obtain ⟨first, hfind, hchosen⟩ :=
        sorted_best leftover state.mProtocolSelector horder havailable
      have hhave : (state.handleTestResults leftover
          aResults).mProtocolSelector.haveAvailadleProtocols = true ↔
            ∃ protocol : Protocol, first = protocol.protocolName := by
        rw [handleTestResults_fresh leftover hnotStale, ← protocolOfID_isSome_iff,
          ← hchosen]
        rfl
      simp only [hfind, Option.some.injEq, ne_eq, reduceCtorEq,
        not_false_eq_true, true_and]
      constructor
      · rintro ⟨havailadle, -, -⟩
        exact hhave.mp havailadle
      · intro hfirst
        have havailadle := hhave.mpr hfirst
        have hstillFresh :
            (state.handleTestResults leftover aResults).isStale = false := by
          rw [handleTestResults_fresh leftover hnotStale] at havailadle ⊢
          simp only [isStale, havailadle]
          simpa [isTimedOut] using hfresh
        refine ⟨havailadle, hstillFresh, ?_⟩
        rw [getActive_fresh hstillFresh, handleTestResults_fresh leftover hnotStale]

def BringsNone : ModelEvent → Prop
  | .configurationLoaded _ _ _ _ => False
  | .resumeUpdate => False
  | .restart _ => False
  | _ => True

theorem react_unavailable {event : ModelEvent} {state' : ModelState}
    (hevent : BringsNone event)
    (hreact : state.react leftover reader event = .ok state')
    (hallowed : state.mStaleConfiguration.allowedProtocols = [])
    (hbest : state.mProtocolSelector.mBestProtocol = none) :
    state'.mProtocolSelector.mBestProtocol = none := by
  cases event with
  | configurationLoaded aData isNoError roll session => contradiction
  | resumeUpdate => contradiction
  | restart now => contradiction
  | handleTestResults aResults =>
      obtain rfl := Except.ok.inj hreact
      exact handleTestResults_unavailable leftover hallowed hbest aResults
  | getActive =>
      obtain rfl := Except.ok.inj hreact
      rw [getActive_frame]
      exact hbest
  | setOperationMode aMode =>
      obtain rfl := Except.ok.inj hreact
      unfold setOperationMode
      split <;> exact hbest
  | _ =>
      obtain rfl := Except.ok.inj hreact
      exact hbest

theorem unavailable_absorbing {events : List ModelEvent}
    {state' : ModelState} (hevents : ∀ event ∈ events, BringsNone event)
    (hreplay : (system leftover reader).replay Admitted state events =
      some state')
    (hallowed : state.mStaleConfiguration.allowedProtocols = [])
    (hbest : state.mProtocolSelector.mBestProtocol = none) :
    state'.mProtocolSelector.mBestProtocol = none := by
  induction events generalizing state with
  | nil =>
      obtain rfl := Option.some.inj hreplay
      exact hbest
  | cons event events ih =>
      obtain ⟨-, next, hstep, hrest⟩ :=
        EventSystem.replay_cons_eq_some.mp hreplay
      have hreact := (Outcome.toOption_eq_some _ _).mp hstep
      have hevent := hevents event List.mem_cons_self
      apply ih (fun later hlater => hevents later (List.mem_cons_of_mem _ hlater))
        hrest
      · rw [react_mStaleConfiguration leftover hreact, hallowed]
        rintro now rfl
        exact hevent
      · exact react_unavailable leftover hevent hreact hallowed hbest

end Lemmas

section Loading

variable (leftover : List String → Nat → String) {configuration : Configuration}

def readerOf (configuration : Configuration) : ConfigurationReader :=
  configuration.servingPlatform.reader

def loadOf (configuration : Configuration) (roll : Int) : ModelEvent :=
  .configurationLoaded configuration.servedData true roll ⟨"", 443, false⟩

theorem react_loadOf
    (hserved : configuration.Served configuration.servingPlatform)
    (state : ModelState) (roll : Int) :
    state.react leftover (readerOf configuration) (loadOf configuration roll) =
      .ok (state.configurationReceived leftover configuration roll
        ⟨"", 443, false⟩) := by
  obtain ⟨hvalid, hdecoded⟩ := hserved.serves {}
  change state.completionBlock leftover (readerOf configuration)
    configuration.servedData true roll _ = _
  unfold completionBlock readerOf
  rw [if_pos rfl, hvalid, Outcome.ok_bind]
  dsimp only
  rw [if_pos rfl, hdecoded]
  rfl

theorem step_loadOf
    (hserved : configuration.Served configuration.servingPlatform)
    (state : ModelState) (roll : Int) :
    (system leftover (readerOf configuration)).step state
        (loadOf configuration roll) =
      some (state.configurationReceived leftover configuration roll
        ⟨"", 443, false⟩) :=
  (Outcome.toOption_eq_some _ _).mpr (react_loadOf leftover hserved state roll)

end Loading

section UnknownInitialProtocol

open SelectorWorld (untouched)
open RevSDK.Configuration (transporting)

def firstStart : ModelState := construct untouched 1000000000 none 0 []

def firstLoad (configuration : Configuration) : ModelState :=
  firstStart.configurationReceived untouched configuration 0 ⟨"", 443, false⟩

theorem firstLoad_reachable {configuration : Configuration}
    (hserved : configuration.Served configuration.servingPlatform) :
    (system untouched (readerOf configuration)).Reachable Admitted
      (firstLoad configuration) := by
  have hstart : (system untouched (readerOf configuration)).Reachable Admitted
      firstStart := .start ⟨_, _, _, _, rfl⟩
  exact hstart.next (e := loadOf configuration 0)
    ⟨Int.le_refl 0, by decide⟩ (step_loadOf untouched hserved _ _)

def revInitial : Configuration :=
  { transporting 0 with initialTransportProtocol := "rev" }

def revLoaded : ModelState := firstLoad revInitial

theorem revLoaded_never_recovers :
    (system untouched (readerOf revInitial)).Reachable Admitted revLoaded ∧
      revLoaded.isTimedOut = false ∧
      ¬ revLoaded.RecoversWith untouched
        [⟨"standard", true⟩, ⟨"quic", true⟩] := by
  refine ⟨firstLoad_reachable (by decide +kernel), by decide, ?_⟩
  intro hrecovers
  have hallowed : revLoaded.SomeAllowedAvailable
      [⟨"standard", true⟩, ⟨"quic", true⟩] := ⟨.QUICProtocol, by decide⟩
  have hbest := (hrecovers hallowed).1
  revert hbest
  decide

/-- The standard protocol was in use, and QUIC is available again. -/
theorem recoversWith_iff_recoverable_transporting :
    (firstLoad (transporting 0)).SomeAllowedAvailable [⟨"quic", true⟩] ∧
      (firstLoad (transporting 0)).RecoversWith untouched
        [⟨"quic", true⟩] := by
  refine ⟨⟨.QUICProtocol, by decide⟩, ?_⟩
  exact (recoversWith_iff_recoverable untouched
    (firstLoad_reachable (by decide +kernel)) (by decide) _).mpr
      fun _ => ⟨by decide, .QUICProtocol, by decide⟩

end UnknownInitialProtocol

end ModelState

end RevSDK
