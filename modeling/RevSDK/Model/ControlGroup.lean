import RevSDK.Model.Lottery

/-!
# The control group and its members

The control group only reports, and its members are drawn once.  A load that
carries the flag over keeps the mode of its document, and a load that finds the
configuration stale draws again; the two results say what that costs.
-/

namespace RevSDK

open RevSDK.Foundation

def Configuration.ReportsOnly (configuration : Configuration) : Prop :=
  configuration.abTesMode = true →
    configuration.operationMode = .kRSOperationModeInnerReport

instance (configuration : Configuration) : Decidable configuration.ReportsOnly :=
  inferInstanceAs (Decidable (_ → _))

namespace ModelState

section Runs

variable (leftover : List String → Nat → String) (reader : ConfigurationReader)

/-- The runs from the first start on, before anything is stored. -/
def firstStarts : EventSystem ModelState ModelEvent where
  initial state := ∃ now timestamp restored,
    state = construct leftover now none timestamp restored
  step := (system leftover reader).step

/-- Nobody calls `setOperationMode`. -/
def Unforced (state : ModelState) (event : ModelEvent) : Prop :=
  state.Admitted event ∧ ∀ aMode, event ≠ .setOperationMode aMode

/-- A document that the flag is carried over to is one for reporting. -/
def CarriesReport (state : ModelState) (event : ModelEvent) : Prop :=
  ∀ configuration roll, event.accepted reader = some (configuration, roll) →
    state.getActive.1.abTestingRatio = configuration.abTestingRatio →
      state.getActive.1.abTesMode = true →
        configuration.operationMode = .kRSOperationModeInnerReport

end Runs

section Drawing

variable {state : ModelState}

@[simp] theorem drawn_abTestingRatio (state : ModelState)
    (configuration : Configuration) (roll : Int) :
    (state.drawn configuration roll).abTestingRatio =
      configuration.abTestingRatio := by
  unfold drawn drawLottery
  split
  · split <;> rfl
  · next hequal => exact not_not.mp hequal

theorem drawn_carried {configuration : Configuration}
    (hequal : state.getActive.1.abTestingRatio = configuration.abTestingRatio)
    (roll : Int) :
    state.drawn configuration roll = { configuration with
      abTesMode := state.getActive.1.abTesMode } := by
  unfold drawn drawLottery
  rw [if_neg (not_not.mpr hequal), hequal]

theorem drawn_anew {configuration : Configuration}
    (hother : state.getActive.1.abTestingRatio ≠ configuration.abTestingRatio)
    (roll : Int) :
    (state.drawn configuration roll).abTesMode =
      drawsControl configuration.abTestingRatio roll ∧
      (state.drawn configuration roll).ReportsOnly := by
  unfold drawn drawLottery drawsControl
  rw [if_pos hother]
  split
  · next hwins => exact ⟨by simp [hwins], fun _ => rfl⟩
  · next hloses => exact ⟨by simp [hloses], fun hflag => by simp at hflag⟩

theorem drawn_reportsOnly_iff (configuration : Configuration) (roll : Int) :
    (state.drawn configuration roll).ReportsOnly ↔
      (state.getActive.1.abTestingRatio = configuration.abTestingRatio →
        state.getActive.1.abTesMode = true →
          configuration.operationMode = .kRSOperationModeInnerReport) := by
  by_cases hequal : state.getActive.1.abTestingRatio =
      configuration.abTestingRatio
  · rw [drawn_carried hequal]
    unfold Configuration.ReportsOnly
    simp [hequal]
  · have hreports := (drawn_anew hequal roll).2
    simp [hequal, hreports]

theorem drawn_stale
    (hstale : state.mStaleConfiguration =
      { operationMode := .kRSOperationModeInnerOff })
    (hread : state.isStale = true) (configuration : Configuration) {roll : Int}
    (hroll : 0 ≤ roll) :
    (state.drawn configuration roll).abTesMode =
      drawsControl configuration.abTestingRatio roll := by
  have hactive : state.getActive.1 =
      { operationMode := .kRSOperationModeInnerOff } := by
    rw [getActive_stale hread, hstale]
  by_cases hequal : state.getActive.1.abTestingRatio =
      configuration.abTestingRatio
  · have hratio : configuration.abTestingRatio = -1 := by
      rw [← hequal, hactive]
    have hloses : drawsControl configuration.abTestingRatio roll = false := by
      rw [hratio]
      simp [drawsControl]
      omega
    rw [drawn_carried hequal, hactive, hloses]
  · exact (drawn_anew hequal roll).1

end Drawing

/-! ## Reporting only -/

section Reporting

variable (leftover : List String → Nat → String) {reader : ConfigurationReader}
  {state state' : ModelState} {event : ModelEvent}
  {trail : List (ModelState × ModelEvent)}

theorem construct_configurations (now : Int) (stored : Option Configuration)
    (timestamp : Int) (restored : List String) :
    let state := construct leftover now stored timestamp restored
    state.mActiveConfiguration = stored.getD .ofEmptyDictionary ∧
      state.configuration = stored.getD .ofEmptyDictionary := by
  unfold construct configuration
  dsimp only
  split <;> exact ⟨rfl, rfl⟩

def BothReportOnly (state : ModelState) : Prop :=
  state.mActiveConfiguration.ReportsOnly ∧ state.configuration.ReportsOnly

theorem react_bothReportOnly (hboth : state.BothReportOnly)
    (hunforced : state.Unforced event)
    (hcarries : state.CarriesReport reader event)
    (hreact : state.react leftover reader event = .ok state') :
    state'.BothReportOnly := by
  cases haccepted : event.accepted reader with
  | none =>
      obtain ⟨hactive, hstored⟩ :=
        react_rejected leftover haccepted hunforced.2 hreact
      constructor
      · rcases hactive with hsame | hsame <;> rw [hsame]
        · exact hboth.1
        · exact hboth.2
      · rcases hstored with hsame | hsame <;> rw [hsame]
        · exact hboth.2
        · exact hboth.1
  | some document =>
      obtain ⟨document, roll⟩ := document
      obtain ⟨session, rfl⟩ := react_accepted leftover haccepted hreact
      obtain ⟨hactive, hstored⟩ :=
        configurationReceived_drawn leftover state document roll session
      have hreports : (state.drawn document roll).ReportsOnly :=
        (drawn_reportsOnly_iff document roll).mpr
          (hcarries document roll haccepted)
      unfold BothReportOnly configuration
      rw [hactive, hstored]
      exact ⟨hreports, hreports⟩

/--
The control group only reports in exactly the runs in which every document the
flag is carried over to is itself one for reporting.
-/
theorem controlGroup_reports_iff
    (path : (firstStarts leftover reader).Path Unforced trail state) :
    EventSystem.Throughout (fun state =>
        state.mActiveConfiguration.ReportsOnly) trail state ↔
      EventSystem.Obeys (CarriesReport reader) trail := by
  refine path.throughout_iff_obeys BothReportOnly ?_ ?_ ?_ fun state h => h.1
  · rintro _ ⟨now, timestamp, restored, rfl⟩
    obtain ⟨hactive, hstored⟩ :=
      construct_configurations leftover now none timestamp restored
    unfold BothReportOnly
    rw [hactive, hstored]
    decide
  · intro state event state' hboth hunforced hcarries hstep
    exact react_bothReportOnly leftover hboth hunforced hcarries
      ((Outcome.toOption_eq_some _ _).mp hstep)
  · intro state event state' _ _ hcarries hstep hreports
    apply hcarries
    intro document roll haccepted
    obtain ⟨session, rfl⟩ := react_accepted leftover haccepted
      ((Outcome.toOption_eq_some _ _).mp hstep)
    obtain ⟨hactive, -⟩ :=
      configurationReceived_drawn leftover state document roll session
    rw [hactive] at hreports
    exact (drawn_reportsOnly_iff document roll).mp hreports

end Reporting

section TransportingMember

open SelectorWorld (untouched)
open RevSDK.Configuration (transporting)

variable {configuration : Configuration} {trail : List (ModelState × ModelEvent)}
  {state : ModelState}

def load (state : ModelState) (configuration : Configuration) (roll : Int) :
    ModelState :=
  state.configurationReceived untouched configuration roll ⟨"", 443, false⟩

theorem unforced_loadOf (state : ModelState) {roll : Int} (hlow : 0 ≤ roll)
    (hhigh : roll < 100) : state.Unforced (loadOf configuration roll) :=
  ⟨⟨hlow, hhigh⟩, by simp [loadOf]⟩

theorem firstStarts_path :
    (firstStarts untouched (readerOf configuration)).Path Unforced []
      firstStart :=
  .start ⟨_, _, _, rfl⟩

theorem load_path
    (hserved : configuration.Served configuration.servingPlatform)
    (path : (firstStarts untouched (readerOf configuration)).Path Unforced
      trail state) :
    (firstStarts untouched (readerOf configuration)).Path Unforced
      (trail ++ [(state, loadOf configuration 0)])
      (state.load configuration 0) :=
  path.next (unforced_loadOf state (Int.le_refl 0) (by decide))
    (step_loadOf untouched hserved state 0)

def loadedTwice (configuration : Configuration) : ModelState :=
  (firstStart.load configuration 0).load configuration 0

theorem loadedTwice_transports :
    (firstStarts untouched (readerOf (transporting 100))).Reachable Unforced
        (loadedTwice (transporting 100)) ∧
      ¬ (loadedTwice (transporting 100)).mActiveConfiguration.ReportsOnly :=
  ⟨(load_path (by decide +kernel)
    (load_path (by decide +kernel) firstStarts_path)).reachable, by decide⟩

def reporting : Configuration :=
  { transporting 100 with operationMode := .kRSOperationModeInnerReport }

/-- The second load carries the flag over to a document for reporting. -/
theorem controlGroup_reports_iff_loadedTwice :
    ∃ trail state,
      (firstStarts untouched (readerOf reporting)).Path Unforced trail state ∧
      trail.map Prod.snd = [loadOf reporting 0, loadOf reporting 0] ∧
      EventSystem.Throughout (fun state : ModelState =>
        state.mActiveConfiguration.ReportsOnly) trail state ∧
      state.mActiveConfiguration.abTesMode = true := by
  have hserved : reporting.Served reporting.servingPlatform := by
    decide +kernel
  have hreports (state : ModelState) :
      state.CarriesReport (readerOf reporting) (loadOf reporting 0) := by
    intro document roll haccepted _ _
    rw [accepted_loadOf hserved, Option.some.injEq] at haccepted
    obtain ⟨rfl, rfl⟩ := Prod.mk.inj haccepted
    rfl
  have path := load_path hserved (load_path hserved firstStarts_path)
  refine ⟨_, _, path, rfl, (controlGroup_reports_iff untouched path).mpr ?_,
    by decide⟩
  exact (EventSystem.obeys_snoc ..).mpr ⟨(EventSystem.obeys_snoc ..).mpr
    ⟨EventSystem.obeys_nil _, hreports _⟩, hreports _⟩

end TransportingMember

/-! ## The assignment -/

end ModelState

/-- A model, with the flag that its first load decided. -/
structure AssignedModel where
  state : ModelState
  assigned : Option Bool
  deriving DecidableEq

namespace AssignedModel

open ModelState

section Runs

variable (leftover : List String → Nat → String) (reader : ConfigurationReader)

def react (world : AssignedModel) (event : ModelEvent) :
    Outcome AssignedModel := do
  let state ← world.state.react leftover reader event
  return {
    state := state
    assigned :=
      if (event.accepted reader).isSome then
        some (world.assigned.getD state.mActiveConfiguration.abTesMode)
      else world.assigned }

def system : EventSystem AssignedModel ModelEvent where
  initial world := (firstStarts leftover reader).initial world.state ∧
    world.assigned = none
  step world event := (world.react leftover reader event).toOption

def SameRatio (ratio : Int) (world : AssignedModel) (event : ModelEvent) :
    Prop :=
  world.state.Unforced event ∧ ∀ configuration roll,
    event.accepted reader = some (configuration, roll) →
      configuration.abTestingRatio = ratio

/-- The flag of the loaded configuration is the one first decided. -/
def Sticky (world : AssignedModel) : Prop :=
  ∀ flag, world.assigned = some flag →
    world.state.mActiveConfiguration.abTesMode = flag

/-- A load that finds the configuration stale draws the same flag again. -/
def RedrawsSame (world : AssignedModel) (event : ModelEvent) : Prop :=
  ∀ configuration roll flag,
    event.accepted reader = some (configuration, roll) →
      world.assigned = some flag → world.state.isStale = true →
        drawsControl configuration.abTestingRatio roll = flag

end Runs

section Sticking

variable (leftover : List String → Nat → String) {reader : ConfigurationReader}
  {world world' : AssignedModel} {event : ModelEvent} {ratio : Int}
  {trail : List (AssignedModel × ModelEvent)}

structure Assigned (ratio : Int) (world : AssignedModel) : Prop where
  stale : world.state.mStaleConfiguration =
    { operationMode := .kRSOperationModeInnerOff }
  decided : ∀ flag, world.assigned = some flag →
    world.state.mActiveConfiguration.abTesMode = flag ∧
      world.state.mActiveConfiguration.abTestingRatio = ratio ∧
      world.state.configuration = world.state.mActiveConfiguration

theorem Assigned.start (hinitial : (system leftover reader).initial world) :
    Assigned ratio world := by
  obtain ⟨⟨now, timestamp, restored, hstate⟩, hnone⟩ := hinitial
  constructor
  · rw [hstate, construct_mStaleConfiguration]
  · simp [hnone]

theorem Assigned.drawn_eq (hassigned : Assigned ratio world) {flag : Bool}
    (hflag : world.assigned = some flag) {configuration : Configuration}
    (hratio : configuration.abTestingRatio = ratio) {roll : Int}
    (hroll : 0 ≤ roll) :
    (world.state.drawn configuration roll).abTesMode =
      if world.state.isStale then drawsControl configuration.abTestingRatio roll
      else flag := by
  cases hread : world.state.isStale with
  | true =>
      rw [if_pos rfl]
      exact drawn_stale hassigned.stale hread configuration hroll
  | false =>
      obtain ⟨hmode, hsame, -⟩ := hassigned.decided flag hflag
      have hactive : world.state.getActive.1 =
          world.state.mActiveConfiguration := by
        rw [getActive_fresh hread]
      have hequal : world.state.getActive.1.abTestingRatio =
          configuration.abTestingRatio := by
        rw [hactive, hsame, hratio]
      rw [drawn_carried hequal, hactive]
      simpa using hmode

theorem react_cases (hreact : world.react leftover reader event = .ok world') :
    ∃ state', world.state.react leftover reader event = .ok state' ∧
      world' = ⟨state', if (event.accepted reader).isSome then
          some (world.assigned.getD state'.mActiveConfiguration.abTesMode)
        else world.assigned⟩ := by
  obtain ⟨state', hstate, hworld⟩ := (Outcome.bind_eq_ok _ _ _).mp hreact
  exact ⟨state', hstate, (Except.ok.inj hworld).symm⟩

theorem Assigned.next (hassigned : Assigned ratio world)
    (hsame : SameRatio reader ratio world event)
    (hredraws : RedrawsSame reader world event)
    (hreact : world.react leftover reader event = .ok world') :
    Assigned ratio world' := by
  obtain ⟨state', hstate, rfl⟩ := react_cases leftover hreact
  refine ⟨react_keeps_stale leftover hassigned.stale hstate, ?_⟩
  intro flag hflag
  cases haccepted : event.accepted reader with
  | none =>
      rw [haccepted] at hflag
      obtain ⟨hmode, hratio, hstored⟩ := hassigned.decided flag hflag
      obtain ⟨hactive, hconfiguration⟩ :=
        react_rejected leftover haccepted hsame.1.2 hstate
      rw [hstored, or_self] at hactive hconfiguration
      exact ⟨hactive ▸ hmode, hactive ▸ hratio, hconfiguration.trans hactive.symm⟩
  | some document =>
      obtain ⟨document, roll⟩ := document
      obtain ⟨aData, session, aError, rfl, -⟩ := accepted_eq_some haccepted
      obtain ⟨session, rfl⟩ := react_accepted leftover haccepted hstate
      obtain ⟨hactive, hstored⟩ := configurationReceived_drawn leftover
        world.state document roll session
      have hdocument := hsame.2 document roll haccepted
      have hfinal : (world.state.drawn document roll).abTesMode = flag := by
        rw [haccepted, Option.isSome_some, if_pos rfl, hactive] at hflag
        cases hbefore : world.assigned with
        | none => simpa [hbefore] using hflag
        | some decided =>
            obtain rfl : decided = flag := by simpa [hbefore] using hflag
            rw [hassigned.drawn_eq hbefore hdocument hsame.1.1.1]
            cases hread : world.state.isStale with
            | false => rfl
            | true => exact hredraws document roll decided haccepted hbefore hread
      unfold configuration
      rw [hactive, hstored]
      exact ⟨hfinal, by rw [drawn_abTestingRatio, hdocument], rfl⟩

/--
With one ratio in all documents, the first draw decides the flag for good in
exactly the runs in which every load that finds the configuration stale draws
the same flag again.
-/
theorem assignment_sticky_iff
    (path : (system leftover reader).Path (SameRatio reader ratio) trail
      world) :
    EventSystem.Throughout Sticky trail world ↔
      EventSystem.Obeys (RedrawsSame reader) trail := by
  refine path.throughout_iff_obeys (Assigned ratio) ?_ ?_ ?_ ?_
  · exact fun world hinitial => .start leftover hinitial
  · intro world event world' hassigned hsame hredraws hstep
    exact hassigned.next leftover hsame hredraws
      ((Outcome.toOption_eq_some _ _).mp hstep)
  · intro world event world' hassigned hsame hredraws hstep hsticky
    apply hredraws
    intro document roll flag haccepted hflag hread
    obtain ⟨state', hstate, rfl⟩ :=
      react_cases leftover ((Outcome.toOption_eq_some _ _).mp hstep)
    obtain ⟨aData, session, aError, rfl, -⟩ := accepted_eq_some haccepted
    obtain ⟨session, rfl⟩ := react_accepted leftover haccepted hstate
    obtain ⟨hactive, -⟩ := configurationReceived_drawn leftover
      world.state document roll session
    have hkept := hsticky flag (by simp [haccepted, hflag])
    rw [hactive, hassigned.drawn_eq hflag (hsame.2 document roll haccepted)
      hsame.1.1.1, hread, if_pos rfl] at hkept
    exact hkept
  · exact fun world hassigned flag hflag => (hassigned.decided flag hflag).1

end Sticking

section DrawnAgain

open SelectorWorld (untouched)
open RevSDK.Configuration (transporting)

abbrev fiftyPath := (system untouched (readerOf (transporting 50))).Path
  (SameRatio (readerOf (transporting 50)) 50)

variable {trail : List (AssignedModel × ModelEvent)} {world : AssignedModel}

def unassigned : AssignedModel := ⟨firstStart, none⟩

def load (world : AssignedModel) (roll : Int) : AssignedModel :=
  let state := world.state.load (transporting 50) roll
  ⟨state, some (world.assigned.getD state.mActiveConfiguration.abTesMode)⟩

def wait (world : AssignedModel) (now : Int) : AssignedModel :=
  { world with state := { world.state with now := now } }

theorem fifty_served :
    (transporting 50).Served (transporting 50).servingPlatform := by
  decide +kernel

theorem unassigned_path : fiftyPath [] unassigned :=
  .start ⟨⟨_, _, _, rfl⟩, rfl⟩

theorem load_path (path : fiftyPath trail world) {roll : Int} (hlow : 0 ≤ roll)
    (hhigh : roll < 100) :
    fiftyPath (trail ++ [(world, loadOf (transporting 50) roll)])
      (world.load roll) := by
  have haccepted := accepted_loadOf fifty_served roll
  refine path.next ⟨unforced_loadOf _ hlow hhigh, ?_⟩ ?_
  · intro document drawn hdocument
    rw [haccepted, Option.some.injEq] at hdocument
    obtain ⟨rfl, rfl⟩ := Prod.mk.inj hdocument
    rfl
  · have hreact := react_loadOf untouched fifty_served world.state roll
    simp only [system, react, hreact, haccepted, Outcome.ok_bind]
    rfl

theorem wait_path (path : fiftyPath trail world) (now : Int) :
    fiftyPath (trail ++ [(world, .clock now)]) (world.wait now) :=
  path.next ⟨⟨trivial, by simp⟩, by simp [ModelEvent.accepted]⟩ rfl

def drawnAgain (roll : Int) : AssignedModel :=
  ((unassigned.load 99).wait 8200000000).load roll

theorem drawnAgain_path {roll : Int} (hlow : 0 ≤ roll) (hhigh : roll < 100) :
    fiftyPath [(unassigned, loadOf (transporting 50) 99),
      (unassigned.load 99, .clock 8200000000),
      ((unassigned.load 99).wait 8200000000, loadOf (transporting 50) roll)]
      (drawnAgain roll) :=
  load_path (wait_path (load_path unassigned_path (by decide) (by decide)) _)
    hlow hhigh

theorem drawnAgain_not_sticky :
    (system untouched (readerOf (transporting 50))).Reachable
        (SameRatio (readerOf (transporting 50)) 50) (drawnAgain 0) ∧
      ¬ (drawnAgain 0).Sticky := by
  refine ⟨(drawnAgain_path (Int.le_refl 0) (by decide)).reachable, ?_⟩
  intro hsticky
  have hflag := hsticky false (by decide)
  revert hflag
  decide

theorem redrawsSame_loadOf {roll : Int}
    (hsame : ∀ flag, world.assigned = some flag → world.state.isStale = true →
      drawsControl 50 roll = flag) :
    world.RedrawsSame (readerOf (transporting 50))
      (loadOf (transporting 50) roll) := by
  intro document drawn flag hdocument hassigned hstale
  rw [accepted_loadOf fifty_served, Option.some.injEq] at hdocument
  obtain ⟨rfl, rfl⟩ := Prod.mk.inj hdocument
  exact hsame flag hassigned hstale

/-- A stale draw gives the first flag again; fresh loads and restarts keep it. -/
theorem assignment_sticky_iff_drawnAgain :
    ∃ trail world, fiftyPath trail world ∧
      trail.map Prod.snd = [loadOf (transporting 50) 99, .clock 8200000000,
        loadOf (transporting 50) 70, loadOf (transporting 50) 0,
        .restart 8300000000] ∧
      EventSystem.Throughout Sticky trail world ∧
      world.assigned = some false := by
  have hredrawn := drawnAgain_path (show (0 : Int) ≤ 70 by decide) (by decide)
  have hloaded := load_path hredrawn (Int.le_refl 0) (by decide)
  have path := hloaded.next (e := ModelEvent.restart 8300000000)
    ⟨⟨trivial, by simp⟩, by simp [ModelEvent.accepted]⟩ rfl
  refine ⟨_, _, path, rfl, (assignment_sticky_iff untouched path).mpr ?_, rfl⟩
  intro visit hvisit
  simp only [List.mem_append, List.mem_cons, List.not_mem_nil, or_false]
    at hvisit
  rcases hvisit with ((rfl | rfl | rfl) | rfl) | rfl
  · refine redrawsSame_loadOf fun flag hflag => ?_
    cases hflag
  · simp [RedrawsSame, ModelEvent.accepted]
  · refine redrawsSame_loadOf fun flag hflag _ => ?_
    obtain rfl := Option.some.inj hflag
    decide
  · refine redrawsSame_loadOf fun flag _ hstale => absurd hstale ?_
    decide
  · simp [RedrawsSame, ModelEvent.accepted]

end DrawnAgain

end AssignedModel

end RevSDK
