import RevSDK.Foundation.Runs
import RevSDK.Protocol.ProtocolSelector

/-!
# What the selector settles on

Runs of the selector, with the list last given to `sortProtocols` and the
results of the last test kept beside it.  Results arrive only once a test was
started.  A choice is sound if the chosen protocol is in that list and among
those results; `Decides` says when a call of `sortProtocols` leaves a sound
choice.
-/

namespace RevSDK

open RevSDK.Foundation

structure SelectorWorld where
  selector : ProtocolSelector
  testStarted : Bool
  lastOrder : Option (List String)
  lastResults : Option (List AvailabilityTestResult)
  deriving DecidableEq

inductive SelectorEvent where
  | onConfigurationApplied (aConf : Configuration)
  | refreshTestInfo
  | handleTestResults (confProtos : List String)
      (aResults : List AvailabilityTestResult)
  deriving DecidableEq

namespace ProtocolSelector

/-- The protocol in use is listed and available, and without one there is none. -/
def SoundFor (selector : ProtocolSelector) (order available : List String) :
    Prop :=
  (∀ protocol, selector.mBestProtocol = some protocol →
    protocol.protocolName ∈ order ∧ protocol.protocolName ∈ available) ∧
  ((∀ name ∈ order, name ∉ available) →
    selector.haveAvailadleProtocols = false)

/-- The list is empty, or it settles the choice that it leaves open. -/
def Decides (leftover : List String → Nat → String)
    (selector : ProtocolSelector) (order : List String) : Prop :=
  order = [] ∨
  (∃ name ∈ order, name ∈ selector.mAvailableProtocols) ∨
  (selector.mAvailableProtocols ≠ [] ∧
    protocolOfID (leftover order 0) = none) ∨
  (selector.mAvailableProtocols = [] ∧ selector.mBestProtocol = none)

instance (leftover : List String → Nat → String) (selector : ProtocolSelector)
    (order : List String) : Decidable (selector.Decides leftover order) := by
  unfold Decides
  infer_instance

def Finds (leftover : List String → Nat → String) (selector : ProtocolSelector)
    (order : List String) : Prop :=
  match order.find? selector.mAvailableProtocols.contains with
  | some name => (protocolOfID name).isSome = true
  | none =>
      order ≠ [] ∧
        if selector.mAvailableProtocols = [] then
          selector.mBestProtocol.isSome = true
        else (protocolOfID (leftover order 0)).isSome = true

def Offers (leftover : List String → Nat → String)
    (selector : ProtocolSelector) (aConf : Configuration) : Prop :=
  if selector.firstInit then
    (protocolOfID aConf.initialTransportProtocol).isSome = true
  else selector.Finds leftover aConf.allowedProtocols

theorem protocolOfID_eq_some {aID : String} {protocol : Protocol}
    (h : protocolOfID aID = some protocol) : protocol.protocolName = aID := by
  unfold protocolOfID at h
  split at h
  · obtain rfl := Option.some.inj h
    assumption
  · split at h
    · obtain rfl := Option.some.inj h
      assumption
    · contradiction

section Sorting

variable (leftover : List String → Nat → String) (selector : ProtocolSelector)

theorem sortProtocols_available (order : List String) :
    (sortProtocols leftover selector order).mAvailableProtocols =
      selector.mAvailableProtocols := by
  unfold sortProtocols
  split
  · dsimp only
    split <;> rfl
  · split <;> rfl

theorem sortProtocols_firstInit (order : List String) :
    (sortProtocols leftover selector order).firstInit =
      selector.firstInit := by
  unfold sortProtocols
  split
  · dsimp only
    split <;> rfl
  · split <;> rfl

theorem sortProtocols_kept {order kept : List String} {first : String}
    (hkept : (order.filter fun item =>
      selector.mAvailableProtocols.contains item) = first :: kept) :
    (sortProtocols leftover selector order).mBestProtocol =
      protocolOfID first := by
  have hfirst : first ∈ order.filter fun item =>
      selector.mAvailableProtocols.contains item := by
    rw [hkept]
    exact List.mem_cons_self
  obtain ⟨horder, havailable⟩ := List.mem_filter.mp hfirst
  have horderNe : order.isEmpty = false := by
    cases order with
    | nil => contradiction
    | cons => rfl
  have havailableNe : selector.mAvailableProtocols.isEmpty = false := by
    cases hlist : selector.mAvailableProtocols with
    | nil => simp [hlist] at havailable
    | cons => rfl
  have hhead := head?_removeIf_kept leftover
    (fun item => !selector.mAvailableProtocols.contains item)
    (by simpa using hkept)
  rw [sortProtocols, if_pos (by simp [horderNe, havailableNe])]
  simp only [hhead]
  rfl

theorem sortProtocols_disjoint {order : List String} (horder : order ≠ [])
    (havailable : selector.mAvailableProtocols ≠ [])
    (hdisjoint : ∀ name ∈ order, name ∉ selector.mAvailableProtocols) :
    (sortProtocols leftover selector order).mBestProtocol =
      protocolOfID (leftover order 0) := by
  have hhead := head?_removeIf_none leftover
    (fun item => !selector.mAvailableProtocols.contains item) horder
    (by simpa [List.filter_eq_nil_iff] using hdisjoint)
  rw [sortProtocols, if_pos (by simp [horder, havailable])]
  simp only [hhead]
  rfl

theorem sortProtocols_unavailable {order : List String} (horder : order ≠ [])
    (havailable : selector.mAvailableProtocols = []) :
    sortProtocols leftover selector order = selector := by
  simp [sortProtocols, horder, havailable]

theorem sortProtocols_nil :
    (sortProtocols leftover selector []).mBestProtocol = none := by
  simp [sortProtocols]

theorem sortProtocols_finds_iff (order : List String) :
    (sortProtocols leftover selector order).mBestProtocol.isSome = true ↔
      selector.Finds leftover order := by
  unfold Finds
  cases hfind : order.find? selector.mAvailableProtocols.contains with
  | some name =>
      rw [← List.head?_filter] at hfind
      obtain ⟨kept, hkept⟩ := List.head?_eq_some_iff.mp hfind
      rw [sortProtocols_kept leftover selector hkept]
  | none =>
      have hdisjoint : ∀ name ∈ order,
          name ∉ selector.mAvailableProtocols := by
        simpa using hfind
      by_cases horder : order = []
      · simp [horder, sortProtocols_nil]
      · dsimp only
        rw [and_iff_right horder]
        split
        next hempty =>
          rw [sortProtocols_unavailable leftover selector horder hempty]
        next havailable =>
          rw [sortProtocols_disjoint leftover selector horder havailable
            hdisjoint]

theorem onConfigurationApplied_offers_iff (aConf : Configuration) :
    (selector.onConfigurationApplied leftover
        aConf).haveAvailadleProtocols = true ↔
      selector.Offers leftover aConf := by
  unfold onConfigurationApplied Offers
  cases hfirst : selector.firstInit with
  | true => rfl
  | false =>
      dsimp only
      rw [if_neg Bool.false_ne_true, if_neg Bool.false_ne_true]
      exact sortProtocols_finds_iff leftover _ aConf.allowedProtocols

theorem sortProtocols_soundFor_iff (order : List String) :
    (sortProtocols leftover selector order).SoundFor order
        selector.mAvailableProtocols ↔
      selector.Decides leftover order := by
  by_cases horder : order = []
  · subst horder
    simp [SoundFor, Decides, haveAvailadleProtocols, sortProtocols_nil]
  by_cases hshared : ∃ name ∈ order, name ∈ selector.mAvailableProtocols
  · refine iff_of_true ⟨?_, ?_⟩ (.inr (.inl hshared))
    · obtain ⟨name, hname, havailable⟩ := hshared
      have hne : (order.filter fun item =>
          selector.mAvailableProtocols.contains item) ≠ [] := by
        apply List.ne_nil_of_mem
        exact List.mem_filter.mpr ⟨hname, by simpa using havailable⟩
      obtain ⟨first, kept, hkept⟩ := List.exists_cons_of_ne_nil hne
      have hfirst := List.mem_filter.mp (hkept ▸ List.mem_cons_self)
      intro protocol hbest
      rw [sortProtocols_kept leftover selector hkept] at hbest
      rw [protocolOfID_eq_some hbest]
      exact ⟨hfirst.1, by simpa using hfirst.2⟩
    · intro hnone
      obtain ⟨name, hname, havailable⟩ := hshared
      exact absurd havailable (hnone name hname)
  · have hdisjoint : ∀ name ∈ order,
        name ∉ selector.mAvailableProtocols := by
      intro name hname havailable
      exact hshared ⟨name, hname, havailable⟩
    have hsound : (sortProtocols leftover selector order).SoundFor order
        selector.mAvailableProtocols ↔
          (sortProtocols leftover selector order).mBestProtocol = none := by
      constructor
      · intro h
        simpa [haveAvailadleProtocols] using h.2 hdisjoint
      · intro hnone
        simp [SoundFor, haveAvailadleProtocols, hnone]
    rw [hsound]
    by_cases havailable : selector.mAvailableProtocols = []
    · rw [sortProtocols_unavailable leftover selector horder havailable]
      simp [Decides, horder, havailable]
    · rw [sortProtocols_disjoint leftover selector horder havailable hdisjoint]
      simp [Decides, horder, hshared, havailable]

end Sorting

end ProtocolSelector

namespace SelectorWorld

open ProtocolSelector

def start (restored : List String) : SelectorWorld where
  selector := .construct restored
  testStarted := false
  lastOrder := none
  lastResults := none

section Runs

variable (leftover : List String → Nat → String)

def react (world : SelectorWorld) : SelectorEvent → SelectorWorld
  | .onConfigurationApplied aConf =>
      let selector := world.selector.onConfigurationApplied leftover aConf
      if world.selector.firstInit then
        { world with
          selector := selector
          testStarted := world.testStarted || selector.runsTests }
      else
        { world with
          selector := selector
          lastOrder := some aConf.allowedProtocols }
  | .refreshTestInfo =>
      { world with
        testStarted := world.testStarted || world.selector.runsTests }
  | .handleTestResults confProtos aResults =>
      { world with
        selector :=
          world.selector.handleTestResults leftover confProtos aResults
        lastOrder := some confProtos
        lastResults := some aResults }

def system : EventSystem SelectorWorld SelectorEvent where
  initial world := ∃ restored, world = start restored
  step world event := some (world.react leftover event)

/-- Configurations allow something, and results are those of a test. -/
def Admitted (world : SelectorWorld) : SelectorEvent → Prop
  | .onConfigurationApplied aConf => aConf.allowedProtocols ≠ []
  | .refreshTestInfo => True
  | .handleTestResults _ _ => world.testStarted = true

instance (world : SelectorWorld) (event : SelectorEvent) :
    Decidable (world.Admitted event) := by
  cases event <;> unfold Admitted <;> infer_instance

/-- The property of a state that results have reached. -/
def SettledSoundly (world : SelectorWorld) : Prop :=
  ∀ aResults, world.lastResults = some aResults →
    ∃ order, world.lastOrder = some order ∧
      world.selector.SoundFor order (availableIDs aResults)

/-- From the first results on, every sorting decides. -/
def SortsDecisively (world : SelectorWorld) : SelectorEvent → Prop
  | .onConfigurationApplied aConf => world.lastResults ≠ none →
      world.selector.Decides leftover aConf.allowedProtocols
  | .refreshTestInfo => True
  | .handleTestResults confProtos aResults =>
      Decides leftover
        { world.selector with mAvailableProtocols := availableIDs aResults }
        confProtos

instance (world : SelectorWorld) (event : SelectorEvent) :
    Decidable (world.SortsDecisively leftover event) := by
  cases event <;> unfold SortsDecisively <;> infer_instance

structure WellFormed (world : SelectorWorld) : Prop where
  untested : world.selector.firstInit = true →
    world.testStarted = false ∧ world.lastResults = none ∧
      world.selector.runsTests = false
  available : ∀ aResults, world.lastResults = some aResults →
    world.selector.mAvailableProtocols = availableIDs aResults

variable {leftover} {world : SelectorWorld}

theorem start_wellFormed (restored : List String) :
    (start restored).WellFormed where
  untested _ := ⟨rfl, rfl, rfl⟩
  available := by simp [start]

theorem react_wellFormed (h : world.WellFormed) {event : SelectorEvent}
    (hadmitted : world.Admitted event) :
    (world.react leftover event).WellFormed := by
  cases event with
  | onConfigurationApplied aConf =>
      cases hfirst : world.selector.firstInit with
      | true =>
          obtain ⟨-, hresults, -⟩ := h.untested hfirst
          constructor
          · intro hstill
            simp [react, hfirst, onConfigurationApplied, saveAvailable,
              convertIDToPropocol] at hstill
          · intro aResults hsome
            simp [react, hfirst, hresults] at hsome
      | false =>
          have hselector : (world.react leftover
              (.onConfigurationApplied aConf)).selector =
                sortProtocols leftover { world.selector with
                  mMonitoringURL := aConf.transportMonitoringURL }
                  aConf.allowedProtocols := by
            simp [react, onConfigurationApplied, hfirst]
          constructor
          · intro hstill
            rw [hselector, sortProtocols_firstInit] at hstill
            simp [hfirst] at hstill
          · intro aResults hsome
            rw [hselector, sortProtocols_available]
            exact h.available aResults (by simpa [react, hfirst] using hsome)
  | refreshTestInfo =>
      constructor
      · intro hfirst
        obtain ⟨hstarted, hresults, hruns⟩ := h.untested hfirst
        exact ⟨by simp [react, hstarted, hruns], hresults, hruns⟩
      · intro aResults hsome
        exact h.available aResults hsome
  | handleTestResults confProtos aResults =>
      have hfirst : world.selector.firstInit = false := by
        by_contra hne
        have := (h.untested (by simpa using hne)).1
        simp [Admitted, this] at hadmitted
      constructor
      · intro hstill
        simp only [react, handleTestResults] at hstill
        rw [sortProtocols_firstInit] at hstill
        simp [hfirst] at hstill
      · intro results hsome
        obtain rfl : aResults = results := by simpa [react] using hsome
        simp only [react, handleTestResults]
        rw [sortProtocols_available]

theorem react_settledSoundly_iff (h : world.WellFormed)
    (hsound : world.SettledSoundly) (event : SelectorEvent) :
    (world.react leftover event).SettledSoundly ↔
      world.SortsDecisively leftover event := by
  cases event with
  | onConfigurationApplied aConf =>
      cases hresults : world.lastResults with
      | none =>
          refine iff_of_true ?_ fun hne => absurd hresults hne
          intro aResults hsome
          simp only [react] at hsome
          split at hsome <;> simp [hresults] at hsome
      | some aResults =>
          have hfirst : world.selector.firstInit = false := by
            by_contra hne
            have := (h.untested (by simpa using hne)).2.1
            simp [hresults] at this
          have havailable := h.available aResults hresults
          have hiff := sortProtocols_soundFor_iff leftover
            { world.selector with
              mMonitoringURL := aConf.transportMonitoringURL }
            aConf.allowedProtocols
          simp only [havailable] at hiff
          simp only [SettledSoundly, SortsDecisively, react,
            onConfigurationApplied, hfirst, hresults]
          simpa [Decides, havailable, hfirst] using hiff
  | refreshTestInfo => exact iff_of_true hsound trivial
  | handleTestResults confProtos aResults =>
      have hiff := sortProtocols_soundFor_iff leftover
        { world.selector with mAvailableProtocols := availableIDs aResults }
        confProtos
      simpa [SettledSoundly, SortsDecisively, react, handleTestResults]
        using hiff

/--
The choice is sound in every state of a run that results have reached exactly
when every sorting from the first results on decides.
-/
theorem settledSoundly_iff_sortsDecisively
    {trail : List (SelectorWorld × SelectorEvent)}
    (path : (system leftover).Path Admitted trail world) :
    EventSystem.Throughout SettledSoundly trail world ↔
      EventSystem.Obeys (SortsDecisively leftover) trail := by
  refine path.throughout_iff_obeys
    (fun world => world.WellFormed ∧ world.SettledSoundly) ?_ ?_ ?_ ?_
  · rintro _ ⟨restored, rfl⟩
    exact ⟨start_wellFormed restored, by simp [SettledSoundly, start]⟩
  · rintro world event world' ⟨hwf, hsound⟩ hadmitted hdecides hstep
    obtain rfl := Option.some.inj hstep
    exact ⟨react_wellFormed hwf hadmitted,
      (react_settledSoundly_iff hwf hsound event).mpr hdecides⟩
  · rintro world event world' ⟨hwf, hsound⟩ - hdecides hstep hafter
    obtain rfl := Option.some.inj hstep
    exact hdecides ((react_settledSoundly_iff hwf hsound event).mp hafter)
  · rintro world ⟨-, hsound⟩
    exact hsound

end Runs

/-- An implementation that leaves the removed names where they were. -/
def untouched (items : List String) (position : Nat) : String :=
  items.getD position ""

def bothAllowed : Configuration where
  allowedProtocols := ["quic", "standard"]
  initialTransportProtocol := "quic"
  transportMonitoringURL := "http://monitor"

def nothingAvailable : List SelectorEvent :=
  [.onConfigurationApplied bothAllowed,
    .handleTestResults ["quic", "standard"]
      [⟨"standard", false⟩, ⟨"quic", false⟩]]

theorem nothingAvailable_keeps_quic :
    ∃ world, (system untouched).Reachable Admitted world ∧
      (system untouched).replay Admitted (start []) nothingAvailable =
        some world ∧
      ¬ world.SettledSoundly := by
  refine ⟨⟨⟨some .QUICProtocol, [], "http://monitor", false, ["quic"]⟩, true,
    some ["quic", "standard"],
    some [⟨"standard", false⟩, ⟨"quic", false⟩]⟩, ?_, by decide, ?_⟩
  · exact EventSystem.Reachable.replay nothingAvailable
      (.start ⟨[], rfl⟩) (by decide)
  · intro hsound
    obtain ⟨order, horder, hchoice, -⟩ := hsound _ rfl
    have havailable := (hchoice .QUICProtocol rfl).2
    simp [availableIDs] at havailable

def standardReturns : List SelectorEvent :=
  [.onConfigurationApplied bothAllowed, .handleTestResults []
      [⟨"standard", false⟩, ⟨"quic", true⟩], .refreshTestInfo,
    .handleTestResults ["quic", "standard"]
      [⟨"standard", true⟩, ⟨"quic", false⟩]]

theorem settledSoundly_iff_sortsDecisively_first :
    ∃ trail world, (system untouched).Path Admitted trail world ∧
      trail.map Prod.snd = standardReturns ∧
      EventSystem.Throughout SettledSoundly trail world ∧
      world.selector.mBestProtocol = some .StandardProtocol := by
  obtain ⟨trail, world, path, hdecides, hevents, hlast⟩ :=
    EventSystem.exists_run (system untouched) Admitted
      (SortsDecisively untouched) (s := start []) standardReturns
      (fun world => world.selector.mBestProtocol = some .StandardProtocol)
      ⟨[], rfl⟩ (by decide)
  exact ⟨trail, world, path, hevents,
    (settledSoundly_iff_sortsDecisively path).mpr hdecides,
    of_decide_eq_true hlast⟩

end SelectorWorld

end RevSDK
