import RevSDK.Model.ConfigurationPersistence

/-!
# The A/B lottery

A load draws if the ratio of the new document differs from the ratio in force,
and carries the flag over otherwise.  Both are read from the active
configuration, which is the stale one while the loaded one is out of date.  The
draw switches the control group to reporting; carrying the flag over leaves the
mode of the document.
-/

namespace RevSDK

open RevSDK.Foundation

def ModelEvent.accepted (reader : ConfigurationReader) :
    ModelEvent → Option (Configuration × Int)
  | .configurationLoaded aData true roll _ =>
      match reader.isValidConfiguration aData {} with
      | .ok (true, _) =>
          (reader.processConfigurationData aData).toOption.map
            fun configuration => (configuration, roll)
      | _ => none
  | _ => none

namespace ModelState

theorem accepted_loadOf {configuration : Configuration}
    (hserved : configuration.Served configuration.servingPlatform)
    (roll : Int) :
    (loadOf configuration roll).accepted (readerOf configuration) =
      some (configuration, roll) := by
  obtain ⟨hvalid, hdecoded⟩ := hserved.serves {}
  simp only [loadOf, readerOf, ModelEvent.accepted, hvalid, hdecoded]
  rfl

def drawn (state : ModelState) (configuration : Configuration) (roll : Int) :
    Configuration :=
  drawLottery configuration state.getActive.1.abTestingRatio
    state.getActive.1.abTesMode roll

def drawsControl (ratio roll : Int) : Bool := ratio ≥ 100 ∨ ratio > roll

section Loading

variable (leftover : List String → Nat → String) {reader : ConfigurationReader}
  {state state' : ModelState} {event : ModelEvent}

theorem getActive_fst (state : ModelState) :
    state.getActive.1 = if state.isStale then state.mStaleConfiguration
      else state.mActiveConfiguration := by
  unfold getActive
  split
  · split <;> rfl
  · rfl

theorem getActive_getActive (state : ModelState) :
    state.getActive.2.getActive.1 = state.getActive.1 := by
  rw [getActive_fst state.getActive.2, getActive_frame, getActive_fst state]
  rfl

@[simp] theorem getActive_storedConfiguration (state : ModelState) :
    state.getActive.2.storedConfiguration = state.storedConfiguration := by
  rw [getActive_frame]

@[simp] theorem applyConfiguration_storedConfiguration (state : ModelState)
    (aConfiguration : Configuration) :
    (state.applyConfiguration leftover aConfiguration).storedConfiguration =
      state.storedConfiguration := rfl

@[simp] theorem scheduleStatsReporting_storedConfiguration
    (state : ModelState) :
    state.scheduleStatsReporting.storedConfiguration =
      state.storedConfiguration := by
  rw [scheduleStatsReporting_frame]

@[simp] theorem quicEndpointChanged_mActiveConfiguration (state : ModelState)
    (session : QUICEndpoint) :
    (state.quicEndpointChanged session).2.mActiveConfiguration =
      state.mActiveConfiguration := by
  rw [quicEndpointChanged_frame]

@[simp] theorem quicEndpointChanged_storedConfiguration (state : ModelState)
    (session : QUICEndpoint) :
    (state.quicEndpointChanged session).2.storedConfiguration =
      state.storedConfiguration := by
  rw [quicEndpointChanged_frame]

theorem drawn_mStaleOnFlag (state : ModelState) (configuration : Configuration)
    (roll : Int) :
    { state with mStaleOnFlag := false }.drawn configuration roll =
      state.drawn configuration roll := by
  unfold drawn
  rw [getActive_fst, getActive_fst]
  rfl

theorem configurationReceived_drawn (state : ModelState)
    (configuration : Configuration) (roll : Int) (session : QUICEndpoint) :
    let state' := state.configurationReceived leftover configuration roll
      session
    state'.mActiveConfiguration = state.drawn configuration roll ∧
      state'.storedConfiguration = some (state.drawn configuration roll) := by
  rw [← drawn_mStaleOnFlag]
  unfold configurationReceived drawn
  dsimp only
  rw [getActive_getActive]
  split <;> simp

theorem accepted_eq_some {configuration : Configuration} {roll : Int}
    (h : event.accepted reader = some (configuration, roll)) :
    ∃ aData session aError,
      event = .configurationLoaded aData true roll session ∧
        reader.isValidConfiguration aData {} = .ok (true, aError) ∧
        reader.processConfigurationData aData = .ok configuration := by
  unfold ModelEvent.accepted at h
  split at h
  · next aData roll' session =>
      split at h
      · next aError hvalid =>
          obtain ⟨document, hdocument, hpair⟩ := Option.map_eq_some_iff.mp h
          obtain ⟨rfl, rfl⟩ := Prod.mk.inj hpair
          exact ⟨aData, session, aError, rfl, hvalid,
            (Outcome.toOption_eq_some _ _).mp hdocument⟩
      · contradiction
  · contradiction

theorem completionBlock_accepted {aData : Data} {isNoError : Bool}
    {roll roll' : Int} {session : QUICEndpoint} {configuration : Configuration}
    (haccepted : (ModelEvent.configurationLoaded aData isNoError roll
      session).accepted reader = some (configuration, roll')) :
    state.completionBlock leftover reader aData isNoError roll session =
      .ok (state.configurationReceived leftover configuration roll'
        session) := by
  obtain ⟨_, _, aError, hevent, hvalid, hdocument⟩ :=
    accepted_eq_some haccepted
  cases hevent
  unfold completionBlock
  rw [if_pos rfl, hvalid, Outcome.ok_bind]
  dsimp only
  rw [if_pos rfl, hdocument]
  rfl

theorem react_accepted {configuration : Configuration} {roll : Int}
    (haccepted : event.accepted reader = some (configuration, roll))
    (hreact : state.react leftover reader event = .ok state') :
    ∃ session, state' = state.configurationReceived leftover configuration roll
      session := by
  obtain ⟨aData, session, -, rfl, -, -⟩ := accepted_eq_some haccepted
  refine ⟨session, ?_⟩
  change state.completionBlock leftover reader aData true roll session = _
    at hreact
  rw [completionBlock_accepted leftover haccepted] at hreact
  exact (Except.ok.inj hreact).symm

theorem completionBlock_rejected {aData : Data} {isNoError : Bool} {roll : Int}
    {session : QUICEndpoint}
    (hrejected : (ModelEvent.configurationLoaded aData isNoError roll
      session).accepted reader = none)
    (hreact : state.completionBlock leftover reader aData isNoError roll
      session = .ok state') : state' = state := by
  unfold completionBlock at hreact
  cases isNoError with
  | false => exact (Except.ok.inj hreact).symm
  | true =>
      obtain ⟨⟨isValid, _⟩, hvalid, hverdict⟩ :=
        (Outcome.bind_eq_ok _ _ _).mp hreact
      cases isValid with
      | false => exact (Except.ok.inj hverdict).symm
      | true =>
          obtain ⟨configuration, hdocument, -⟩ :=
            (Outcome.bind_eq_ok _ _ _).mp hverdict
          simp [ModelEvent.accepted, hvalid, hdocument, Except.toOption]
            at hrejected

theorem react_rejected (hrejected : event.accepted reader = none)
    (hmode : ∀ aMode, event ≠ .setOperationMode aMode)
    (hreact : state.react leftover reader event = .ok state') :
    (state'.mActiveConfiguration = state.mActiveConfiguration ∨
      state'.mActiveConfiguration = state.configuration) ∧
    (state'.configuration = state.configuration ∨
      state'.configuration = state.mActiveConfiguration) := by
  cases event with
  | configurationLoaded aData isNoError roll session =>
      obtain rfl := completionBlock_rejected leftover hrejected hreact
      exact ⟨.inl rfl, .inl rfl⟩
  | setOperationMode aMode => exact absurd rfl (hmode aMode)
  | stopUpdate =>
      obtain rfl := Except.ok.inj hreact
      exact ⟨.inl rfl, .inr rfl⟩
  | resumeUpdate =>
      obtain rfl := Except.ok.inj hreact
      refine ⟨.inr (resumeUpdate_mActiveConfiguration leftover state), .inl ?_⟩
      simp [resumeUpdate, configuration]
  | restart now =>
      obtain rfl := Except.ok.inj hreact
      refine ⟨.inr ?_, .inl ?_⟩ <;>
        · unfold construct
          dsimp only
          split <;> rfl
  | _ =>
      obtain rfl := Except.ok.inj hreact
      refine ⟨.inl ?_, .inl ?_⟩ <;> simp [handleTestResults, configuration]

end Loading

end ModelState

end RevSDK
