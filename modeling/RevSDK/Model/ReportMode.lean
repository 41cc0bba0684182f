import RevSDK.Model.ReportPass

/-!
# The mode in which reports are sent

The reporting timer is armed and disarmed when a configuration is loaded.  So
it ticks only while the loaded configuration is one for reporting, but neither
the tick nor an iteration asks whether that configuration is still in force.
-/

namespace RevSDK

open RevSDK.Foundation

namespace ModelState

structure Armed (state : ModelState) : Prop where
  stale : state.mStaleConfiguration =
    { operationMode := .kRSOperationModeInnerOff }
  reports : state.mStatsReportingTimer ≠ none →
    state.mActiveConfiguration.operationMode.reports = true

section Arming

variable (leftover : List String → Nat → String) {reader : ConfigurationReader}
  {state state' : ModelState} {event : ModelEvent}

@[simp] theorem getActive_mStatsReportingTimer (state : ModelState) :
    state.getActive.2.mStatsReportingTimer = state.mStatsReportingTimer := by
  rw [getActive_frame]

@[simp] theorem quicEndpointChanged_mStatsReportingTimer (state : ModelState)
    (session : QUICEndpoint) :
    (state.quicEndpointChanged session).2.mStatsReportingTimer =
      state.mStatsReportingTimer := by
  rw [quicEndpointChanged_frame]

theorem scheduleStatsReporting_armed
    (hstale : state.mStaleConfiguration =
      { operationMode := .kRSOperationModeInnerOff }) :
    state.scheduleStatsReporting.Armed := by
  refine ⟨by simp [hstale], ?_⟩
  rw [scheduleStatsReporting_mActiveConfiguration]
  unfold scheduleStatsReporting
  dsimp only
  split
  · next hreports =>
      intro _
      rw [getActive_fst] at hreports
      split at hreports
      · rw [hstale] at hreports
        contradiction
      · exact hreports
  · intro harmed
    exact absurd rfl harmed

structure Leaves (state state' : ModelState) : Prop where
  stale : state'.mStaleConfiguration = state.mStaleConfiguration
  timer : state'.mStatsReportingTimer = state.mStatsReportingTimer
  active : state'.mActiveConfiguration = state.mActiveConfiguration

theorem Leaves.refl (state : ModelState) : state.Leaves state := ⟨rfl, rfl, rfl⟩

theorem leaves_getActive (state : ModelState) :
    state.Leaves state.getActive.2 := ⟨by simp, by simp, by simp⟩

theorem Leaves.trans {state'' : ModelState} (hfirst : state.Leaves state')
    (hsecond : state'.Leaves state'') : state.Leaves state'' where
  stale := hsecond.stale.trans hfirst.stale
  timer := hsecond.timer.trans hfirst.timer
  active := hsecond.active.trans hfirst.active

theorem Armed.leave (harmed : state.Armed) (hleaves : state.Leaves state') :
    state'.Armed := by
  refine ⟨hleaves.stale.trans harmed.stale, ?_⟩
  rw [hleaves.timer, hleaves.active]
  exact harmed.reports

theorem configurationReceived_armed (harmed : state.Armed)
    (configuration : Configuration) (roll : Int) (session : QUICEndpoint) :
    (state.configurationReceived leftover configuration roll
      session).Armed := by
  unfold configurationReceived
  dsimp only
  generalize hconfiguration : drawLottery configuration _ _ roll = drawn
  generalize happlied : applyConfiguration leftover _ drawn = applied
  have hstale : applied.mStaleConfiguration =
      { operationMode := .kRSOperationModeInnerOff } := by
    rw [← happlied]
    simpa using harmed.stale
  have hscheduled := scheduleStatsReporting_armed hstale
  split <;> exact hscheduled.leave ⟨by simp, by simp, by simp⟩

theorem react_armed (harmed : state.Armed) (hunforced : state.Unforced event)
    (hprocess : ∀ now, event ≠ .restart now)
    (hreact : state.react leftover reader event = .ok state') :
    state'.Armed := by
  cases event with
  | configurationLoaded aData isNoError roll session =>
      rcases completionBlock_cases leftover hreact with
        rfl | ⟨configuration, rfl⟩
      · exact harmed
      · exact configurationReceived_armed leftover harmed ..
  | setOperationMode aMode => exact absurd rfl (hunforced.2 aMode)
  | restart now => exact absurd rfl (hprocess now)
  | resumeUpdate =>
      obtain rfl := Except.ok.inj hreact
      unfold resumeUpdate
      dsimp only
      apply scheduleStatsReporting_armed
      simpa using harmed.stale
  | handleTestResults aResults =>
      obtain rfl := Except.ok.inj hreact
      exact harmed.leave ⟨by simp, by simp [handleTestResults],
        by simp [handleTestResults]⟩
  | getActive =>
      obtain rfl := Except.ok.inj hreact
      exact harmed.leave (leaves_getActive state)
  | _ =>
      obtain rfl := Except.ok.inj hreact
      exact harmed.leave ⟨rfl, rfl, rfl⟩

def Loads (reader : ConfigurationReader) (event : ModelEvent) : Bool :=
  (event.accepted reader).isSome || event == .resumeUpdate

theorem react_unloaded (hloads : Loads reader event = false)
    (hunforced : state.Unforced event) (hprocess : ∀ now, event ≠ .restart now)
    (hreact : state.react leftover reader event = .ok state') :
    state'.mActiveConfiguration = state.mActiveConfiguration := by
  simp only [Loads, Bool.or_eq_false_iff, Option.isSome_eq_false_iff,
    Option.isNone_iff_eq_none, beq_eq_false_iff_ne] at hloads
  cases event with
  | configurationLoaded aData isNoError roll session =>
      rw [completionBlock_rejected leftover hloads.1 hreact]
  | setOperationMode aMode => exact absurd rfl (hunforced.2 aMode)
  | restart now => exact absurd rfl (hprocess now)
  | resumeUpdate => exact absurd rfl hloads.2
  | _ =>
      obtain rfl := Except.ok.inj hreact
      simp [handleTestResults, stopUpdate]

end Arming

end ModelState

namespace ReportingModel

variable (platform : StatsPlatform) (leftover : List String → Nat → String)
  {reader : ConfigurationReader} {reporting reporting' : ReportingModel}
  {event : ReportingEvent}

theorem react_leaves (hevent : ∀ event', event ≠ .model event')
    (hreact : reporting.react platform leftover reader event =
      .ok reporting') :
    reporting.model.Leaves reporting'.model := by
  cases event with
  | model event' => exact absurd rfl (hevent event')
  | addRequestData aRequestData =>
      obtain ⟨world, -, hnext⟩ := (Outcome.bind_eq_ok _ _ _).mp hreact
      obtain rfl := Except.ok.inj hnext
      exact .refl _
  | addEvent aEvent aLoggingLevel =>
      unfold react at hreact
      dsimp only at hreact
      split at hreact
      · obtain ⟨world, -, hnext⟩ := (Outcome.bind_eq_ok _ _ _).mp hreact
        obtain rfl := Except.ok.inj hnext
        exact .refl _
      · obtain rfl := Except.ok.inj hreact
        exact .refl _
  | completion index isNoError =>
      obtain ⟨world, -, hnext⟩ := (Outcome.bind_eq_ok _ _ _).mp hreact
      obtain rfl := Except.ok.inj hnext
      cases isNoError with
      | true => exact .refl _
      | false => exact ModelState.leaves_getActive _
  | tick =>
      obtain rfl := Except.ok.inj hreact
      exact .refl _
  | pack surroundings =>
      obtain ⟨world, -, hnext⟩ := (Outcome.bind_eq_ok _ _ _).mp hreact
      obtain rfl := Except.ok.inj hnext
      exact ((ModelState.leaves_getActive _).trans
        (ModelState.leaves_getActive _)).trans (ModelState.leaves_getActive _)
  | send =>
      unfold react at hreact
      dsimp only at hreact
      split at hreact
      · obtain ⟨_, -, hnext⟩ := (Outcome.bind_eq_ok _ _ _).mp hreact
        obtain rfl := Except.ok.inj hnext
        exact ModelState.leaves_getActive _
      · obtain rfl := Except.ok.inj hreact
        exact .refl _

theorem react_idle (hadmitted : reporting.Admitted event)
    (hidle : reporting.phase = .idle) (htick : event ≠ .tick)
    (hreact : reporting.react platform leftover reader event =
      .ok reporting') : reporting'.phase = .idle := by
  cases event with
  | tick => exact absurd rfl htick
  | pack surroundings => exact absurd (hidle.symm.trans hadmitted) (by decide)
  | send =>
      obtain ⟨index, hasDataToSend, hphase⟩ := hadmitted
      rw [hphase] at hidle
      contradiction
  | addEvent aEvent aLoggingLevel =>
      unfold react at hreact
      dsimp only at hreact
      split at hreact
      · obtain ⟨world, -, hnext⟩ := (Outcome.bind_eq_ok _ _ _).mp hreact
        obtain rfl := Except.ok.inj hnext
        exact hidle
      · obtain rfl := Except.ok.inj hreact
        exact hidle
  | _ =>
      obtain ⟨world, -, hnext⟩ := (Outcome.bind_eq_ok _ _ _).mp hreact
      obtain rfl := Except.ok.inj hnext
      exact hidle

end ReportingModel

/--
A model with the modes in which it called `sendStats`; `overtaken` says that the
last configuration loaded since the tick does not report.
-/
structure WatchedModel where
  reporting : ReportingModel
  overtaken : Bool
  modes : List RSOperationModeInner

namespace WatchedModel

section Runs

variable (platform : StatsPlatform) (leftover : List String → Nat → String)
  (reader : ConfigurationReader)

def sentMode (watched : WatchedModel) :
    ReportingEvent → List RSOperationModeInner
  | .send => [watched.reporting.model.getActive.1.operationMode]
  | _ => []

def react (watched : WatchedModel) (event : ReportingEvent) :
    Outcome WatchedModel := do
  let reporting ← watched.reporting.react platform leftover reader event
  return {
    reporting := reporting
    overtaken :=
      match event with
      | .tick => false
      | .model event =>
          if ModelState.Loads reader event then
            !reporting.model.mActiveConfiguration.operationMode.reports
          else watched.overtaken
      | _ => watched.overtaken
    modes := watched.modes ++ watched.sentMode event }

def system : EventSystem WatchedModel ReportingEvent where
  initial watched :=
    (ReportingModel.system platform leftover reader).initial
      watched.reporting ∧ watched.overtaken = false ∧ watched.modes = []
  step watched event :=
    (watched.react platform leftover reader event).toOption

def Admitted (watched : WatchedModel) (event : ReportingEvent) : Prop :=
  watched.reporting.Admitted event

/-- Every report was sent in a mode for reporting. -/
def SendsInMode (watched : WatchedModel) : Prop :=
  ∀ mode ∈ watched.modes, mode = .kRSOperationModeInnerReport ∨
    mode = .kRSOperationModeInnerTransportAndReport

/-- At each `sendStats` the configuration in force is the one of the tick. -/
def InForce (watched : WatchedModel) (event : ReportingEvent) : Prop :=
  event = .send → watched.reporting.model.isStale = false ∧
    watched.overtaken = false

end Runs

section Watching

variable (platform : StatsPlatform) (leftover : List String → Nat → String)
  {reader : ConfigurationReader} {watched watched' : WatchedModel}
  {event : ReportingEvent} {trail : List (WatchedModel × ReportingEvent)}

structure Watches (watched : WatchedModel) : Prop where
  armed : watched.reporting.model.Armed
  overtaken : watched.reporting.phase ≠ .idle →
    watched.overtaken =
      !watched.reporting.model.mActiveConfiguration.operationMode.reports

theorem reports_eq_true_iff (mode : RSOperationModeInner) :
    mode.reports = true ↔ mode = .kRSOperationModeInnerReport ∨
      mode = .kRSOperationModeInnerTransportAndReport := by
  cases mode <;> simp [RSOperationModeInner.reports]

theorem construct_armed (now : Int) (stored : Option Configuration)
    (timestamp : Int) (restored : List String) :
    (ModelState.construct leftover now stored timestamp restored).Armed := by
  refine ⟨ModelState.construct_mStaleConfiguration .., ?_⟩
  intro harmed
  refine absurd ?_ harmed
  unfold ModelState.construct
  dsimp only
  split <;> rfl

theorem Watches.next (hwatches : watched.Watches)
    (hadmitted : watched.Admitted event)
    (hreact : watched.react platform leftover reader event = .ok watched') :
    watched'.Watches := by
  obtain ⟨reporting, hreporting, hwatched⟩ :=
    (Outcome.bind_eq_ok _ _ _).mp hreact
  obtain rfl := Except.ok.inj hwatched
  cases event with
  | model event =>
      obtain ⟨model, hmodel, hnext⟩ := (Outcome.bind_eq_ok _ _ _).mp hreporting
      obtain rfl := Except.ok.inj hnext
      refine ⟨ModelState.react_armed leftover hwatches.armed hadmitted.1
        hadmitted.2 hmodel, fun hphase => ?_⟩
      dsimp only
      cases hloads : ModelState.Loads reader event with
      | true => rw [if_pos rfl]
      | false =>
          rw [if_neg (by decide), ModelState.react_unloaded leftover hloads
            hadmitted.1 hadmitted.2 hmodel]
          exact hwatches.overtaken hphase
  | tick =>
      obtain rfl := Except.ok.inj hreporting
      refine ⟨hwatches.armed, fun _ => ?_⟩
      simp [hwatches.armed.reports hadmitted.2]
  | _ =>
      have hleaves := ReportingModel.react_leaves platform leftover (by simp)
        hreporting
      refine ⟨hwatches.armed.leave hleaves, fun hphase => ?_⟩
      dsimp only at hphase ⊢
      rw [hleaves.active]
      apply hwatches.overtaken
      intro hidle
      exact hphase (ReportingModel.react_idle platform leftover hadmitted hidle
        (by simp) hreporting)

theorem Watches.getActive_reports_iff (hwatches : watched.Watches)
    (hphase : watched.reporting.phase ≠ .idle) :
    watched.reporting.model.getActive.1.operationMode.reports = true ↔
      watched.reporting.model.isStale = false ∧ watched.overtaken = false := by
  rw [hwatches.overtaken hphase]
  cases hstale : watched.reporting.model.isStale with
  | true =>
      rw [ModelState.getActive_stale hstale, hwatches.armed.stale]
      simp [RSOperationModeInner.reports]
  | false =>
      rw [ModelState.getActive_fresh hstale]
      simp

theorem react_modes
    (hreact : watched.react platform leftover reader event = .ok watched') :
    watched'.modes = watched.modes ++ watched.sentMode event := by
  obtain ⟨reporting, -, hwatched⟩ := (Outcome.bind_eq_ok _ _ _).mp hreact
  obtain rfl := Except.ok.inj hwatched
  rfl

/--
Reports are sent in a reporting mode only in exactly the runs in which, at each
`sendStats`, the configuration is not stale and no configuration that does not
report has been loaded last since the tick.
-/
theorem sendsInMode_iff_inForce
    (path : (system platform leftover reader).Path Admitted trail watched) :
    EventSystem.Throughout SendsInMode trail watched ↔
      EventSystem.Obeys InForce trail := by
  refine path.throughout_iff_obeys (fun watched =>
    watched.Watches ∧ watched.SendsInMode) ?_ ?_ ?_ fun watched h => h.2
  · rintro watched ⟨⟨⟨now, stored, timestamp, restored, hmodel⟩, -, hidle⟩,
      -, hmodes⟩
    refine ⟨⟨?_, fun hphase => absurd hidle hphase⟩, ?_⟩
    · rw [hmodel]
      exact construct_armed ..
    · simp [SendsInMode, hmodes]
  · rintro watched event watched' ⟨hwatches, hsends⟩ hadmitted hinForce hstep
    have hreact := (Outcome.toOption_eq_some _ _).mp hstep
    refine ⟨hwatches.next platform leftover hadmitted hreact, ?_⟩
    intro mode hmode
    rw [react_modes platform leftover hreact] at hmode
    rcases List.mem_append.mp hmode with hold | hnew
    · exact hsends mode hold
    · cases event with
      | send =>
          obtain ⟨index, hasDataToSend, hphase⟩ := hadmitted
          rw [List.mem_singleton.mp hnew, ← reports_eq_true_iff]
          exact (hwatches.getActive_reports_iff (by simp [hphase])).mpr
            (hinForce rfl)
      | _ => contradiction
  · rintro watched event watched' ⟨hwatches, -⟩ hadmitted hinForce hstep hsends
    apply hinForce
    rintro rfl
    obtain ⟨index, hasDataToSend, hphase⟩ := hadmitted
    rw [← hwatches.getActive_reports_iff (by simp [hphase]),
      reports_eq_true_iff]
    apply hsends
    rw [react_modes platform leftover ((Outcome.toOption_eq_some _ _).mp hstep)]
    exact List.mem_append_right _ (List.mem_singleton_self _)

end Watching

section SentWhileStale

open SelectorWorld (untouched)
open ModelState (readerOf loadOf firstStart firstLoad)

def everyMinute : Configuration := Configuration.transporting 0

theorem everyMinute_served :
    everyMinute.Served everyMinute.servingPlatform := by
  decide +kernel

def unwatchedStart : WatchedModel :=
  ⟨⟨firstStart, .start none none 0, .idle⟩, false, []⟩

def watchedMinutely : WatchedModel :=
  ⟨⟨firstLoad everyMinute, .start none none 0, .idle⟩, false, []⟩

theorem watchedMinutely_path :
    (system silentPlatform untouched (readerOf everyMinute)).Path Admitted
      [(unwatchedStart, .model (loadOf everyMinute 0))] watchedMinutely := by
  have hstart : (system silentPlatform untouched (readerOf everyMinute)).Path
      Admitted [] unwatchedStart :=
    .start ⟨⟨⟨_, _, _, _, rfl⟩, ⟨_, _, _, rfl⟩, rfl⟩, rfl, rfl⟩
  have hreact := ReportingModel.react_loadOf silentPlatform untouched
    everyMinute_served unwatchedStart.reporting 0
  have hloads : ModelState.Loads (readerOf everyMinute)
      (loadOf everyMinute 0) = true := by
    unfold ModelState.Loads
    rw [ModelState.accepted_loadOf everyMinute_served]
    rfl
  refine hstart.next (e := ReportingEvent.model (loadOf everyMinute 0))
    (ReportingModel.admitted_loadOf _) ?_
  simp only [system, react, hreact, hloads, Outcome.ok_bind]
  rfl

def stalePass : WatchedModel :=
  ⟨⟨{ firstLoad everyMinute with now := 8200000000 }, .start none none 0,
    .packing⟩, false, []⟩

theorem stalePass_reachable :
    (system silentPlatform untouched
      (readerOf everyMinute)).Reachable Admitted stalePass := by
  have hlater := watchedMinutely_path.reachable.next
    (e := ReportingEvent.model (.clock 8200000000))
    ⟨⟨trivial, by simp⟩, by simp⟩ rfl
  exact hlater.next (e := ReportingEvent.tick) ⟨rfl, by decide⟩ rfl

def packedWhileStale : ReportWorld :=
  let body := (NativeStatsHandler.allData silentPlatform nowhere none ⟨[]⟩
    ((ReportWorld.start none none 0).mStatsHandler.stringMap nowhere "")).1
  { ReportWorld.start none none 0 with
    reports := [⟨⟨none, none, ⟨[1]⟩⟩, body, .inFlight⟩] }

def sentWhileStale : WatchedModel :=
  ⟨⟨{ firstLoad everyMinute with now := 8200000000 }, packedWhileStale,
    .idle⟩, false, [.kRSOperationModeInnerOff]⟩

theorem sentWhileStale_not_inMode :
    (system silentPlatform untouched
        (readerOf everyMinute)).Reachable Admitted sentWhileStale ∧
      ¬ sentWhileStale.SendsInMode := by
  constructor
  · have hpacked := stalePass_reachable.next
      (e := ReportingEvent.pack nowhere) rfl rfl
    exact hpacked.next (e := ReportingEvent.send) ⟨_, _, rfl⟩ rfl
  · intro hsends
    have hmode := hsends .kRSOperationModeInnerOff (List.mem_singleton_self _)
    revert hmode
    decide

/-- A record is added and sent at the next tick. -/
theorem sendsInMode_iff_inForce_minutely :
    ∃ trail watched,
      (system silentPlatform untouched (readerOf everyMinute)).Path Admitted
        trail watched ∧
      trail.map Prod.snd = [.model (loadOf everyMinute 0),
        .addRequestData ⟨[1]⟩, .tick, .pack nowhere, .send] ∧
      EventSystem.Throughout SendsInMode trail watched ∧
      watched.modes = [.kRSOperationModeInnerTransportAndReport] := by
  have hadded := watchedMinutely_path.next
    (e := ReportingEvent.addRequestData ⟨[1]⟩) trivial rfl
  have hticked := hadded.next (e := ReportingEvent.tick) ⟨rfl, by decide⟩ rfl
  have hpacked := hticked.next (e := ReportingEvent.pack nowhere) rfl rfl
  have path := hpacked.next (e := ReportingEvent.send) ⟨_, _, rfl⟩ rfl
  refine ⟨_, _, path, rfl,
    (sendsInMode_iff_inForce silentPlatform untouched path).mpr ?_, by decide⟩
  intro visit hvisit hevent
  simp only [List.mem_append, List.mem_cons, List.not_mem_nil, or_false]
    at hvisit
  rcases hvisit with (((rfl | rfl) | rfl) | rfl) | rfl
  · cases hevent
  · cases hevent
  · cases hevent
  · cases hevent
  · exact ⟨by decide, rfl⟩

end SentWhileStale

end WatchedModel

end RevSDK
