import RevSDK.Model.ControlGroup
import RevSDK.Utils.RSUtils

/-!
# The domain filter

`shouldTransportDomainName` reads the active configuration twice, once for the
mode and once for the lists, and gives up its lock in between.  The world of a
call is the model and, while the call runs, the configurations that have been
active since it began.
-/

namespace RevSDK

open RevSDK.Foundation

section Domains

variable (urlWithString : String → Option NSURL)

def hasPrefix (text beginning : String) : Bool :=
  beginning.toList.isPrefixOf text.toList

def withScheme (aDomainName : String) : String :=
  if !hasPrefix aDomainName "http://" && !hasPrefix aDomainName "https://" then
    "http://" ++ aDomainName
  else aDomainName

/-- A message to `nil` answers `NO`, and no host is equal to `nil`. -/
def areDomainNamesEqual (aDomainName1 aDomainName2 : String) : Bool :=
  let URL1 := urlWithString (withScheme (cString aDomainName1))
  let URL2 := urlWithString (withScheme (cString aDomainName2))
  match URL1.bind NSURL.host, URL2.bind NSURL.host with
  | some host1, some host2 => host1 == host2
  | _, _ => false

def domainsContainDomainName (aDomains : List String) (aDomainName : String) :
    Bool :=
  aDomains.any fun domain => areDomainNamesEqual urlWithString domain aDomainName

def Configuration.passesLists (conf : Configuration) (aDomainName : String) :
    Bool :=
  if domainsContainDomainName urlWithString conf.domainsBlackList aDomainName
  then false
  else if domainsContainDomainName urlWithString conf.domainsInternalBlackList
    aDomainName then false
  else if domainsContainDomainName urlWithString conf.domainsProvisionedList
    aDomainName then true
  else if domainsContainDomainName urlWithString conf.domainsWhiteList
    aDomainName then true
  else conf.domainsWhiteList.isEmpty

/-- The configuration transports requests, and this domain's too. -/
structure Configuration.Permits (conf : Configuration) (aDomainName : String) :
    Prop where
  transports : conf.operationMode = .kRSOperationModeInnerTransport ∨
    conf.operationMode = .kRSOperationModeInnerTransportAndReport
  notBlack : domainsContainDomainName urlWithString conf.domainsBlackList
    aDomainName = false
  notInternalBlack : domainsContainDomainName urlWithString
    conf.domainsInternalBlackList aDomainName = false
  listed : domainsContainDomainName urlWithString conf.domainsProvisionedList
      aDomainName = true ∨
    domainsContainDomainName urlWithString conf.domainsWhiteList
      aDomainName = true ∨
    conf.domainsWhiteList = []

theorem transports_eq_true_iff (mode : RSOperationModeInner) :
    mode.transports = true ↔ mode = .kRSOperationModeInnerTransport ∨
      mode = .kRSOperationModeInnerTransportAndReport := by
  cases mode <;> simp [RSOperationModeInner.transports]

theorem Configuration.permits_iff (conf : Configuration)
    (aDomainName : String) :
    conf.Permits urlWithString aDomainName ↔
      conf.operationMode.transports = true ∧
        conf.passesLists urlWithString aDomainName = true := by
  constructor
  · rintro ⟨htransports, hblack, hinternal, hlisted⟩
    refine ⟨(transports_eq_true_iff _).mpr htransports, ?_⟩
    unfold Configuration.passesLists
    rw [hblack, hinternal]
    rcases hlisted with hprovisioned | hwhite | hempty
    · simp [hprovisioned]
    · simp [hwhite]
    · simp [hempty]
  · rintro ⟨htransports, hpasses⟩
    unfold Configuration.passesLists at hpasses
    split at hpasses
    · contradiction
    · next hblack =>
        split at hpasses
        · contradiction
        · next hinternal =>
            refine ⟨(transports_eq_true_iff _).mp htransports,
              eq_false_of_ne_true hblack, eq_false_of_ne_true hinternal, ?_⟩
            split at hpasses
            · next hprovisioned => exact .inl hprovisioned
            · split at hpasses
              · next hwhite => exact .inr (.inl hwhite)
              · exact .inr (.inr (List.isEmpty_iff.mp hpasses))

end Domains

namespace ModelState

def canTransport (state : ModelState) : Bool × ModelState :=
  let (conf, state) := state.getActive
  (conf.operationMode.transports, state)

/-- The rest of `shouldTransportDomainName`, which takes the lock again. -/
def filterDomainName (urlWithString : String → Option NSURL)
    (state : ModelState) (aDomainName : String) : Bool × ModelState :=
  let (conf, state) := state.getActive
  (conf.passesLists urlWithString aDomainName, state)

end ModelState

inductive FilterPhase where
  | between
  | returned (result : Bool)
  deriving DecidableEq

structure FilterCall where
  aDomainName : String
  seen : List Configuration
  phase : FilterPhase
  deriving DecidableEq

def FilterCall.observe (call : FilterCall) (conf : Configuration) : FilterCall :=
  match call.phase with
  | .between => { call with seen := call.seen ++ [conf] }
  | .returned _ => call

structure FilteringModel where
  state : ModelState
  call : Option FilterCall
  deriving DecidableEq

inductive FilterEvent where
  | model (event : ModelEvent)
  | canTransport (aDomainName : String)
  | filterDomainName
  deriving DecidableEq

namespace FilteringModel

section Runs

variable (urlWithString : String → Option NSURL)
  (leftover : List String → Nat → String) (reader : ConfigurationReader)

/-- A new process knows nothing of a call. -/
def react (world : FilteringModel) : FilterEvent → Outcome FilteringModel
  | .model event => do
      let state ← world.state.react leftover reader event
      return {
        state := state
        call :=
          match event with
          | .restart _ => none
          | _ => world.call.map fun call =>
              call.observe state.getActive.1 }
  | .canTransport aDomainName =>
      let (flag, state) := world.state.canTransport
      .ok {
        state := state
        call := some {
          aDomainName := aDomainName
          seen := [world.state.getActive.1]
          phase := if flag then .between else .returned false } }
  | .filterDomainName =>
      match world.call with
      | some ⟨aDomainName, seen, .between⟩ =>
          let (result, state) :=
            world.state.filterDomainName urlWithString aDomainName
          .ok ⟨state, some ⟨aDomainName, seen, .returned result⟩⟩
      | _ => .ok world

def system : EventSystem FilteringModel FilterEvent where
  initial world := (ModelState.system leftover reader).initial world.state ∧
    world.call = none
  step world event := (world.react urlWithString leftover reader event).toOption

/-- One call at a time, whose second half follows its first. -/
def Admitted (world : FilteringModel) : FilterEvent → Prop
  | .model event => world.state.Admitted event
  | .canTransport _ => ∀ call, world.call = some call → call.phase ≠ .between
  | .filterDomainName => ∃ call, world.call = some call ∧ call.phase = .between

/-- A call that returned `true` did so on one configuration. -/
def DecidedOnOne (world : FilteringModel) : Prop :=
  ∀ call, world.call = some call → call.phase = .returned true →
    ∃ conf ∈ call.seen, conf.Permits urlWithString call.aDomainName

/--
The second reading finds a configuration that transports, or whose lists refuse
the domain, or it comes after one that permits the domain.
-/
def ReadsOne (world : FilteringModel) (event : FilterEvent) : Prop :=
  event = .filterDomainName → ∀ call, world.call = some call →
    call.phase = .between →
      world.state.getActive.1.operationMode.transports = true ∨
      world.state.getActive.1.passesLists urlWithString call.aDomainName =
        false ∨
      ∃ conf ∈ call.seen, conf.Permits urlWithString call.aDomainName

end Runs

section Deciding

variable (urlWithString : String → Option NSURL)
  (leftover : List String → Nat → String) {reader : ConfigurationReader}
  {world world' : FilteringModel} {event : FilterEvent}
  {trail : List (FilteringModel × FilterEvent)}

def Attentive (world : FilteringModel) : Prop :=
  ∀ call, world.call = some call → call.phase = .between →
    world.state.getActive.1 ∈ call.seen

theorem react_model_call {event : ModelEvent}
    (hreact : world.react urlWithString leftover reader (.model event) =
      .ok world') :
    world'.call = none ∨ world'.call = world.call.map fun call =>
      call.observe world'.state.getActive.1 := by
  obtain ⟨state, -, hworld⟩ := (Outcome.bind_eq_ok _ _ _).mp hreact
  obtain rfl := Except.ok.inj hworld
  cases event with
  | restart now => exact .inl rfl
  | _ => exact .inr rfl

theorem react_canTransport {aDomainName : String}
    (hreact : world.react urlWithString leftover reader
      (.canTransport aDomainName) = .ok world') :
    world'.state = world.state.getActive.2 ∧
      world'.call = some ⟨aDomainName, [world.state.getActive.1],
        if world.state.getActive.1.operationMode.transports then .between
        else .returned false⟩ := by
  obtain rfl := Except.ok.inj hreact
  exact ⟨rfl, rfl⟩

theorem react_filterDomainName {call : FilterCall}
    (hcall : world.call = some call) (hphase : call.phase = .between)
    (hreact : world.react urlWithString leftover reader .filterDomainName =
      .ok world') :
    world'.call = some { call with
      phase := .returned (world.state.getActive.1.passesLists urlWithString
        call.aDomainName) } := by
  obtain ⟨aDomainName, seen, phase⟩ := call
  obtain rfl : phase = .between := hphase
  unfold react at hreact
  dsimp only at hreact
  rw [hcall] at hreact
  obtain rfl := Except.ok.inj hreact
  rfl

theorem observe_between {call : FilterCall} {conf : Configuration}
    (hphase : (call.observe conf).phase = .between) :
    call.observe conf = { call with seen := call.seen ++ [conf] } := by
  unfold FilterCall.observe at hphase ⊢
  cases hbefore : call.phase with
  | between => rfl
  | returned result => simp [hbefore] at hphase

theorem observe_returned {call : FilterCall} {conf : Configuration}
    {result : Bool} (hphase : (call.observe conf).phase = .returned result) :
    call.observe conf = call := by
  unfold FilterCall.observe at hphase ⊢
  cases hbefore : call.phase with
  | between => simp [hbefore] at hphase
  | returned result => rfl

theorem Attentive.next (hattentive : world.Attentive)
    (hreact : world.react urlWithString leftover reader event = .ok world') :
    world'.Attentive := by
  intro call hcall hphase
  cases event with
  | model event =>
      rcases react_model_call urlWithString leftover hreact with hnone | hseen
      · simp [hnone] at hcall
      · rw [hcall] at hseen
        obtain ⟨before, -, rfl⟩ := Option.map_eq_some_iff.mp hseen.symm
        rw [observe_between hphase]
        exact List.mem_append_right _ (List.mem_singleton_self _)
  | canTransport aDomainName =>
      obtain ⟨hstate, hnew⟩ := react_canTransport urlWithString leftover hreact
      obtain rfl := Option.some.inj (hcall.symm.trans hnew)
      rw [hstate, ModelState.getActive_getActive]
      exact List.mem_singleton_self _
  | filterDomainName =>
      unfold react at hreact
      dsimp only at hreact
      split at hreact
      · obtain rfl := Except.ok.inj hreact
        obtain rfl := Option.some.inj hcall
        contradiction
      · obtain rfl := Except.ok.inj hreact
        exact hattentive call hcall hphase

theorem DecidedOnOne.next (hdecided : world.DecidedOnOne urlWithString)
    (hattentive : world.Attentive) (hadmitted : world.Admitted event)
    (hreads : world.ReadsOne urlWithString event)
    (hreact : world.react urlWithString leftover reader event = .ok world') :
    world'.DecidedOnOne urlWithString := by
  intro call hcall hphase
  cases event with
  | model event =>
      rcases react_model_call urlWithString leftover hreact with hnone | hseen
      · simp [hnone] at hcall
      · rw [hcall] at hseen
        obtain ⟨before, hbefore, rfl⟩ := Option.map_eq_some_iff.mp hseen.symm
        have hsame := observe_returned hphase
        rw [hsame] at hphase ⊢
        exact hdecided before hbefore hphase
  | canTransport aDomainName =>
      obtain ⟨-, hnew⟩ := react_canTransport urlWithString leftover hreact
      obtain rfl := Option.some.inj (hcall.symm.trans hnew)
      dsimp only at hphase
      split at hphase <;> contradiction
  | filterDomainName =>
      obtain ⟨before, hbefore, hbetween⟩ := hadmitted
      have hnew := react_filterDomainName urlWithString leftover hbefore
        hbetween hreact
      obtain rfl := Option.some.inj (hcall.symm.trans hnew)
      have hpasses := FilterPhase.returned.inj hphase
      rcases hreads rfl before hbefore hbetween with
        htransports | hrefused | hearlier
      · exact ⟨_, hattentive before hbefore hbetween,
          (Configuration.permits_iff ..).mpr ⟨htransports, hpasses⟩⟩
      · simp [hrefused] at hpasses
      · exact hearlier

/--
A call decides on one configuration in exactly the runs in which the second
reading finds a configuration that transports, or whose lists refuse the
domain, or comes after a configuration that permits the domain.
-/
theorem decidedOnOne_iff_readsOne
    (path : (system urlWithString leftover reader).Path Admitted trail world) :
    EventSystem.Throughout (DecidedOnOne urlWithString) trail world ↔
      EventSystem.Obeys (ReadsOne urlWithString) trail := by
  refine path.throughout_iff_obeys (fun world =>
    world.Attentive ∧ world.DecidedOnOne urlWithString) ?_ ?_ ?_
      fun world h => h.2
  · rintro world ⟨-, hnone⟩
    constructor <;>
      · intro call hcall
        simp [hnone] at hcall
  · rintro world event world' ⟨hattentive, hdecided⟩ hadmitted hreads hstep
    have hreact := (Outcome.toOption_eq_some _ _).mp hstep
    exact ⟨hattentive.next urlWithString leftover hreact,
      hdecided.next urlWithString leftover hattentive hadmitted hreads hreact⟩
  · rintro world event world' - - hreads hstep hdecided
    apply hreads
    rintro rfl call hcall hphase
    have hnew := react_filterDomainName urlWithString leftover hcall hphase
      ((Outcome.toOption_eq_some _ _).mp hstep)
    cases hpasses : world.state.getActive.1.passesLists urlWithString
        call.aDomainName with
    | false => exact .inr (.inl rfl)
    | true =>
        rw [hpasses] at hnew
        exact .inr (.inr (hdecided { call with phase := .returned true } hnew rfl))

end Deciding

section TornReading

open SelectorWorld (untouched)
open ModelState (readerOf loadOf firstStart firstLoad)

def textAsHost (text : String) : Option NSURL := some ⟨some "http", some text⟩

def excepting : Configuration :=
  { Configuration.transporting 0 with domainsBlackList := ["shop.example"] }

def excepted : FilteringModel := ⟨firstLoad excepting, none⟩

def asked (aDomainName : String) : FilteringModel where
  state := firstLoad excepting
  call := some ⟨aDomainName, [excepting], .between⟩

theorem asked_path (aDomainName : String) :
    (system textAsHost untouched (readerOf excepting)).Path Admitted
      [(⟨firstStart, none⟩, .model (loadOf excepting 0)),
        (excepted, .canTransport aDomainName)] (asked aDomainName) := by
  have hstart : (system textAsHost untouched (readerOf excepting)).Path
      Admitted [] ⟨firstStart, none⟩ := .start ⟨⟨_, _, _, _, rfl⟩, rfl⟩
  have hserved : excepting.Served excepting.servingPlatform := by
    decide +kernel
  have hreact := ModelState.react_loadOf untouched hserved firstStart 0
  have hroll : (0 : Int) ≤ 0 ∧ (0 : Int) < 100 := by decide
  have hloaded := hstart.next (e := FilterEvent.model (loadOf excepting 0))
    (t := excepted) hroll (by
      simp only [system, react, hreact, Outcome.ok_bind]
      rfl)
  exact hloaded.next (e := FilterEvent.canTransport aDomainName)
    (by rintro call ⟨⟩) rfl

def tornCall : FilteringModel where
  state := { firstLoad excepting with now := 8200000000 }
  call := some {
    aDomainName := "shop.example"
    seen := [excepting, { operationMode := .kRSOperationModeInnerOff }]
    phase := .returned true }

theorem tornCall_not_decidedOnOne :
    (system textAsHost untouched (readerOf excepting)).Reachable Admitted
        tornCall ∧
      ¬ tornCall.DecidedOnOne textAsHost := by
  constructor
  · have hlater := (asked_path "shop.example").reachable.next
      (e := FilterEvent.model (.clock 8200000000)) trivial rfl
    exact hlater.next (e := FilterEvent.filterDomainName) ⟨_, rfl, rfl⟩ rfl
  · intro hdecided
    obtain ⟨conf, hseen, hpermits⟩ := hdecided _ rfl rfl
    rw [Configuration.permits_iff] at hpermits
    revert hpermits
    rcases List.mem_pair.mp hseen with rfl | rfl <;> decide

/-- Test results come in during the call, and the domain may pass. -/
theorem decidedOnOne_iff_readsOne_passed :
    ∃ trail world,
      (system textAsHost untouched (readerOf excepting)).Path Admitted trail
        world ∧
      trail.map Prod.snd = [.model (loadOf excepting 0),
        .canTransport "open.example",
        .model (.handleTestResults [⟨"quic", true⟩]), .filterDomainName] ∧
      EventSystem.Throughout (DecidedOnOne textAsHost) trail world ∧
      world.call.map FilterCall.phase = some (.returned true) := by
  have htested := (asked_path "open.example").next
    (e := FilterEvent.model (.handleTestResults [⟨"quic", true⟩])) trivial rfl
  have path := htested.next (e := FilterEvent.filterDomainName)
    ⟨_, rfl, rfl⟩ rfl
  refine ⟨_, _, path, rfl,
    (decidedOnOne_iff_readsOne textAsHost untouched path).mpr ?_, by decide⟩
  intro visit hvisit hevent
  simp only [List.mem_append, List.mem_cons, List.not_mem_nil, or_false]
    at hvisit
  rcases hvisit with ((rfl | rfl) | rfl) | rfl
  · cases hevent
  · cases hevent
  · cases hevent
  · exact fun _ _ _ => .inl (by decide)

end TornReading

end FilteringModel

end RevSDK
