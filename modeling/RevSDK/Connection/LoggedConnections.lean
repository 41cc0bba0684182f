import RevSDK.Connection.ConnectionEnds
import RevSDK.Connection.ConnectionProxy
import RevSDK.Connection.RedirectTerminal
import RevSDK.Protocol.FailureHistory

/-!
# Failures and logged connections

The monitor counts the failures of a transport against its logged connections.
A connection is logged after `startWithRequest` has returned, and by then it
may already have failed.
-/

namespace RevSDK

open RevSDK.Foundation
open RevSDK.Foundation.EventSystem

section Counting

variable {α : Type}

theorem countP_both_add (p q : α → Bool) (xs : List α) :
    xs.countP (fun x => p x && q x) + xs.countP (fun x => p x && !q x) =
      xs.countP p := by
  induction xs with
  | nil => rfl
  | cons x xs ih =>
      simp only [List.countP_cons, ← ih]
      cases p x <;> cases q x <;> simp <;> omega

theorem countP_set_add (p : α → Bool) {xs : List α} {index : Nat} {x : α}
    (y : α) (hx : xs[index]? = some x) :
    (xs.set index y).countP p + (p x).toNat = xs.countP p + (p y).toNat := by
  obtain ⟨hlt, rfl⟩ := List.getElem?_eq_some_iff.mp hx
  rw [List.countP_set hlt]
  cases hp : p xs[index] with
  | false => cases p y <;> simp
  | true =>
      have hpos : 0 < xs.countP p :=
        List.countP_pos_iff.mpr ⟨_, List.getElem_mem hlt, hp⟩
      cases p y <;> simp <;> omega

end Counting

/-! ## Counting the proxies -/

namespace ConnectionProxy

def failedOf (aProtocolID : String) (proxy : ConnectionProxy) : Bool :=
  proxy.edgeTransport == aProtocolID && proxy.failed

def loggedOf (aProtocolID : String) (proxy : ConnectionProxy) : Bool :=
  proxy.edgeTransport == aProtocolID && proxy.logged

end ConnectionProxy

namespace ProxyWorld

def early (world : ProxyWorld) (aProtocolID : String) : Nat :=
  world.proxies.countP fun proxy =>
    proxy.failedOf aProtocolID && !proxy.logged

def unfailed (world : ProxyWorld) (aProtocolID : String) : Nat :=
  world.proxies.countP fun proxy =>
    proxy.loggedOf aProtocolID && !proxy.failed

def failing (platform : URLPlatform) (world : ProxyWorld) :
    ProxyEvent → Option String
  | .startWithRequest aCurrentProtocolName _ aRequest _ _ =>
      if EdgeConnection.refuses platform aCurrentProtocolName aRequest then
        some aCurrentProtocolName
      else none
  | .logConnection _ _ => none
  | .edge index event _ _ =>
      world.proxies[index]?.bind fun proxy =>
        if proxy.mConnection.failsOn event then some proxy.edgeTransport
        else none

/-- No failure is counted against fewer connections. -/
def FailuresCovered (world : ProxyWorld) : Prop :=
  ∀ validation ∈ world.validations,
    validation.failures ≤ validation.connections

/--
Each failure finds more logged connections that have not failed than failed
ones that are not logged.
-/
def Covers (platform : URLPlatform) (world : ProxyWorld)
    (event : ProxyEvent) : Prop :=
  ∀ aProtocolID, world.failing platform event = some aProtocolID →
    world.early aProtocolID < world.unfailed aProtocolID

theorem failures_add_unfailed (world : ProxyWorld) (aProtocolID : String) :
    world.proxies.countP (ConnectionProxy.failedOf aProtocolID) +
        world.unfailed aProtocolID =
      world.proxies.countP (ConnectionProxy.loggedOf aProtocolID) +
        world.early aProtocolID := by
  have hfailed := countP_both_add (ConnectionProxy.failedOf aProtocolID)
    ConnectionProxy.logged world.proxies
  have hlogged := countP_both_add (ConnectionProxy.loggedOf aProtocolID)
    ConnectionProxy.failed world.proxies
  have hboth : ∀ proxy : ConnectionProxy,
      (proxy.failedOf aProtocolID && proxy.logged) =
        (proxy.loggedOf aProtocolID && proxy.failed) := fun proxy => by
    simp only [ConnectionProxy.failedOf, ConnectionProxy.loggedOf,
      Bool.and_assoc, Bool.and_comm proxy.failed]
  simp only [hboth] at hfailed
  unfold early unfailed
  omega

structure Tallied (world : ProxyWorld) : Prop where
  failures : ∀ aProtocolID, (world.monitor.mReportMap aProtocolID).length =
    world.proxies.countP (ConnectionProxy.failedOf aProtocolID)
  connections : ∀ aProtocolID,
    (world.monitor.mLoggedConnections aProtocolID).length =
      world.proxies.countP (ConnectionProxy.loggedOf aProtocolID)
  ended : ∀ proxy ∈ world.proxies, proxy.failed = true → proxy.ended = true

theorem Tallied.unfailed_of_running {world : ProxyWorld}
    {proxy : ConnectionProxy} (tallied : Tallied world)
    (hmem : proxy ∈ world.proxies) (hrunning : proxy.ended = false) :
    proxy.failed = false := by
  by_contra hfailed
  have hended := tallied.ended proxy hmem (by simpa using hfailed)
  rw [hrunning] at hended
  contradiction

section Steps

variable {platform : URLPlatform} {rule : FailoverRule}
  {world world' : ProxyWorld} {event : ProxyEvent}

structure Received (world after : ProxyWorld) (aProtocolID : String)
    (fails : Bool) : Prop where
  proxies : after.proxies = world.proxies
  connections : after.monitor.mLoggedConnections =
    world.monitor.mLoggedConnections
  failures : ∀ id, (after.monitor.mReportMap id).length =
    (world.monitor.mReportMap id).length +
      (aProtocolID == id && fails).toNat
  validations : after.validations = world.validations ++
    if fails then
      [⟨aProtocolID, (world.monitor.mReportMap aProtocolID).length + 1,
        (world.monitor.mLoggedConnections aProtocolID).length⟩]
    else []

theorem foldl_receive_of_others {clock : Nat → Int} {edgeTransport : String}
    {now : Int} {calls : List ConnectionCall}
    (hothers : ∀ call ∈ calls, call.isTerminal = false) :
    calls.foldl (receive rule clock edgeTransport now) world = world := by
  induction calls with
  | nil => rfl
  | cons call calls ih =>
      obtain ⟨hcall, hcalls⟩ := List.forall_mem_cons.mp hothers
      have hsame : receive rule clock edgeTransport now world call = world := by
        cases call with
        | connectionDidFailWithError aError => contradiction
        | _ => rfl
      rw [List.foldl_cons, hsame]
      exact ih hcalls

theorem foldl_receive {clock : Nat → Int} {edgeTransport : String}
    {now : Int} {fails : Bool} {ending : Option Ending}
    {calls : List ConnectionCall}
    (hcalls : EdgeConnection.Calls ending calls)
    (hfails : (ending == some .failure) = fails) :
    Received world
      (calls.foldl (receive rule clock edgeTransport now) world)
      edgeTransport fails := by
  subst hfails
  cases hcalls with
  | running hothers =>
      rw [foldl_receive_of_others hothers]
      constructor <;> simp
  | success => constructor <;> simp [receive]
  | failure aError =>
      constructor
      · rfl
      · rfl
      · intro id
        simp only [List.foldl_cons, List.foldl_nil, receive, logFailure,
          ProtocolFailureMonitor.logFailure, ProtocolFailureMonitor.validate,
          ProtocolFailureMonitor.report, Function.update_apply]
        by_cases hid : id = edgeTransport
        · simp [hid]
        · simp [hid, Ne.symm hid]
      · simp [receive, logFailure, ProtocolFailureMonitor.logFailure,
          ProtocolFailureMonitor.validate, ProtocolFailureMonitor.report]

def validationOf (world : ProxyWorld) (aProtocolID : String) : Validation :=
  ⟨aProtocolID,
    world.proxies.countP (ConnectionProxy.failedOf aProtocolID) + 1,
    world.proxies.countP (ConnectionProxy.loggedOf aProtocolID)⟩

theorem Tallied.of_received {after : ProxyWorld} {aProtocolID : String}
    {fails : Bool} {proxies : List ConnectionProxy} (tallied : Tallied world)
    (received : Received { world with proxies := proxies } after aProtocolID
      fails)
    (hfailed : ∀ id, proxies.countP (ConnectionProxy.failedOf id) =
      world.proxies.countP (ConnectionProxy.failedOf id) +
        (aProtocolID == id && fails).toNat)
    (hlogged : ∀ id, proxies.countP (ConnectionProxy.loggedOf id) =
      world.proxies.countP (ConnectionProxy.loggedOf id))
    (hended : ∀ proxy ∈ proxies, proxy.failed = true → proxy.ended = true) :
    Tallied after ∧ after.validations = world.validations ++
      if fails then [world.validationOf aProtocolID] else [] := by
  refine ⟨⟨fun id => ?_, fun id => ?_, ?_⟩, ?_⟩
  · rw [received.failures, received.proxies, hfailed, tallied.failures]
  · rw [received.connections, received.proxies, hlogged, tallied.connections]
  · rwa [received.proxies]
  · rw [received.validations, tallied.failures, tallied.connections]
    rfl

theorem react_startWithRequest {aCurrentProtocolName : String}
    {mShouldSimulateErrors : Bool} {aRequest : Request} {clock : Nat → Int}
    {now : Int} (tallied : Tallied world)
    (hreact : world.react platform rule (.startWithRequest
      aCurrentProtocolName mShouldSimulateErrors aRequest clock now) =
        some world') :
    Tallied world' ∧ world'.validations = world.validations ++
      if EdgeConnection.refuses platform aCurrentProtocolName aRequest then
        [world.validationOf aCurrentProtocolName] else [] := by
  obtain ⟨⟨connection, calls⟩, hstart, hnext⟩ :=
    Option.bind_eq_some_iff.mp hreact
  obtain rfl := Option.some.inj hnext
  obtain ⟨htransport, hcalls⟩ := EdgeConnection.startWithRequest_calls
    ((Outcome.toOption_eq_some _ _).mp hstart)
  have hany := hcalls.any_isFailure
  have hrefuses := EdgeConnection.endingOfStart_beq platform
    aCurrentProtocolName aRequest
  rw [hrefuses] at hany
  rw [htransport]
  refine tallied.of_received (foldl_receive hcalls hrefuses) ?_ ?_ ?_
  · intro id
    rw [List.countP_append, List.countP_singleton]
    simp only [ConnectionProxy.failedOf, ConnectionProxy.edgeTransport,
      ConnectionProxy.after, htransport, hany, Bool.false_or]
    cases aCurrentProtocolName == id &&
      EdgeConnection.refuses platform aCurrentProtocolName aRequest <;> rfl
  · intro id
    simp [ConnectionProxy.loggedOf, ConnectionProxy.after]
  · intro proxy hproxy hfailed
    rcases List.mem_append.mp hproxy with hproxy | hproxy
    · exact tallied.ended proxy hproxy hfailed
    · obtain rfl := List.mem_singleton.mp hproxy
      cases calls with
      | nil => contradiction
      | cons call calls => rfl

theorem react_logConnection {index : Nat} {now : Int}
    (tallied : Tallied world)
    (hallowed : world.Admitted (.logConnection index now))
    (hreact : world.react platform rule (.logConnection index now) =
      some world') :
    Tallied world' ∧ world'.validations = world.validations := by
  obtain ⟨proxy, hproxy, hnext⟩ := Option.bind_eq_some_iff.mp hreact
  obtain rfl := Option.some.inj hnext
  have hlogged := hallowed.2 proxy hproxy
  refine ⟨⟨fun id => ?_, fun id => ?_, ?_⟩, rfl⟩
  · have hset := countP_set_add (ConnectionProxy.failedOf id)
      { proxy with logged := true } hproxy
    have hsame : ConnectionProxy.failedOf id { proxy with logged := true } =
      proxy.failedOf id := rfl
    rw [hsame] at hset
    dsimp only
    rw [Nat.add_right_cancel hset]
    exact tallied.failures id
  · have hset := countP_set_add (ConnectionProxy.loggedOf id)
      { proxy with logged := true } hproxy
    have hbefore : proxy.loggedOf id = false := by
      simp [ConnectionProxy.loggedOf, hlogged]
    have hafter : ConnectionProxy.loggedOf id { proxy with logged := true } =
        (proxy.edgeTransport == id) := by
      simp [ConnectionProxy.loggedOf, ConnectionProxy.edgeTransport]
    rw [hbefore, hafter] at hset
    dsimp only [ProtocolFailureMonitor.logConnection]
    rw [Function.update_apply]
    by_cases hid : id = proxy.edgeTransport
    · subst hid
      simpa [tallied.connections] using hset.symm
    · have hother : (proxy.edgeTransport == id) = false := by
        simpa using Ne.symm hid
      rw [if_neg hid, tallied.connections]
      simpa [hother] using hset.symm
  · intro other hother hfailed
    rcases List.mem_or_eq_of_mem_set hother with hother | rfl
    · exact tallied.ended other hother hfailed
    · exact tallied.ended proxy (List.mem_of_getElem? hproxy) hfailed

theorem react_edge {index : Nat} {edgeEvent : EdgeEvent} {clock : Nat → Int}
    {now : Int} {proxy : ConnectionProxy} (tallied : Tallied world)
    (hproxy : world.proxies[index]? = some proxy)
    (hallowed : world.Admitted (.edge index edgeEvent clock now))
    (hreact : world.react platform rule (.edge index edgeEvent clock now) =
      some world') :
    Tallied world' ∧ world'.validations = world.validations ++
      if proxy.mConnection.failsOn edgeEvent then
        [world.validationOf proxy.edgeTransport] else [] := by
  simp only [react, hproxy, Option.bind_eq_bind, Option.bind_some] at hreact
  obtain ⟨⟨connection, calls⟩, hhandle, hnext⟩ :=
    Option.bind_eq_some_iff.mp hreact
  obtain rfl := Option.some.inj hnext
  obtain ⟨htransport, hcalls⟩ := EdgeConnection.handle_calls hhandle
  have hany : calls.any ConnectionCall.isFailure =
    proxy.mConnection.failsOn edgeEvent := hcalls.any_isFailure
  have hunfailed : proxy.failed = false :=
    tallied.unfailed_of_running (List.mem_of_getElem? hproxy)
      (hallowed.2 proxy hproxy)
  rw [htransport]
  refine tallied.of_received (foldl_receive hcalls rfl) (fun id => ?_)
    (fun id => ?_) ?_
  · have hset := countP_set_add (ConnectionProxy.failedOf id)
      (proxy.after connection edgeEvent.isTerminal calls) hproxy
    simpa [ConnectionProxy.failedOf, ConnectionProxy.edgeTransport,
      ConnectionProxy.after, htransport, hunfailed, hany] using hset
  · have hset := countP_set_add (ConnectionProxy.loggedOf id)
      (proxy.after connection edgeEvent.isTerminal calls) hproxy
    have hsame : (proxy.after connection edgeEvent.isTerminal calls).loggedOf
        id = proxy.loggedOf id := by
      simp [ConnectionProxy.loggedOf, ConnectionProxy.edgeTransport,
        ConnectionProxy.after, htransport]
    rw [hsame] at hset
    exact Nat.add_right_cancel hset
  · intro other hother hfailed
    rcases List.mem_or_eq_of_mem_set hother with hother | rfl
    · exact tallied.ended other hother hfailed
    · simp only [ConnectionProxy.after, hunfailed, Bool.false_or, hany]
        at hfailed
      simp [ConnectionProxy.after, EdgeConnection.isTerminal_of_failsOn hfailed]

theorem react_tallied (tallied : Tallied world)
    (hallowed : world.Admitted event)
    (hreact : world.react platform rule event = some world') :
    Tallied world' ∧ world'.validations = world.validations ++
      (world.failing platform event).toList.map world.validationOf := by
  cases event with
  | startWithRequest aCurrentProtocolName mShouldSimulateErrors aRequest clock
      now =>
      obtain ⟨htally, hvalidations⟩ := react_startWithRequest tallied hreact
      refine ⟨htally, hvalidations.trans ?_⟩
      simp only [failing]
      split <;> simp
  | logConnection index now =>
      obtain ⟨htally, hvalidations⟩ :=
        react_logConnection tallied hallowed hreact
      exact ⟨htally, by simpa [failing] using hvalidations⟩
  | edge index edgeEvent clock now =>
      obtain ⟨proxy, hproxy, -⟩ := Option.bind_eq_some_iff.mp hreact
      obtain ⟨htally, hvalidations⟩ :=
        react_edge tallied hproxy hallowed hreact
      refine ⟨htally, hvalidations.trans ?_⟩
      simp only [failing, hproxy, Option.bind_some]
      split <;> simp

theorem covered_iff (world : ProxyWorld) (aProtocolID : String) :
    (world.validationOf aProtocolID).failures ≤
        (world.validationOf aProtocolID).connections ↔
      world.early aProtocolID < world.unfailed aProtocolID := by
  have hbalance := world.failures_add_unfailed aProtocolID
  simp only [validationOf]
  omega

theorem react_covered_iff (tallied : Tallied world)
    (hallowed : world.Admitted event) (hcovered : world.FailuresCovered)
    (hreact : world.react platform rule event = some world') :
    world'.FailuresCovered ↔ world.Covers platform event := by
  have hvalidations := (react_tallied tallied hallowed hreact).2
  unfold FailuresCovered Covers
  rw [hvalidations]
  simp only [List.forall_mem_append, List.forall_mem_map, covered_iff,
    Option.mem_toList]
  exact and_iff_right hcovered

def FailedLogged (world : ProxyWorld) : Prop :=
  ∀ proxy ∈ world.proxies, proxy.failed = true → proxy.logged = true

/-- No connection fails before `start` has logged it. -/
def FailsLogged (platform : URLPlatform) (world : ProxyWorld) :
    ProxyEvent → Prop
  | .startWithRequest aCurrentProtocolName _ aRequest _ _ =>
      EdgeConnection.refuses platform aCurrentProtocolName aRequest = false
  | .logConnection _ _ => True
  | .edge index event _ _ => ∀ proxy, world.proxies[index]? = some proxy →
      proxy.mConnection.failsOn event = true → proxy.logged = true

theorem failedLogged_of_react (hlogged : world.FailedLogged)
    (hfails : world.FailsLogged platform event)
    (hreact : world.react platform rule event = some world') :
    world'.FailedLogged := by
  intro other hother hfailed
  cases event with
  | startWithRequest aCurrentProtocolName mShouldSimulateErrors aRequest clock
      now =>
      obtain ⟨⟨connection, calls⟩, hstart, hnext⟩ :=
        Option.bind_eq_some_iff.mp hreact
      obtain rfl := Option.some.inj hnext
      have hcalls := (EdgeConnection.startWithRequest_calls
        ((Outcome.toOption_eq_some _ _).mp hstart)).2
      rw [(foldl_receive hcalls rfl).proxies] at hother
      rcases List.mem_append.mp hother with hother | hother
      · exact hlogged other hother hfailed
      · obtain rfl := List.mem_singleton.mp hother
        have hnow : EdgeConnection.refuses platform aCurrentProtocolName
            aRequest = true := by
          simpa [ConnectionProxy.after, hcalls.any_isFailure,
            EdgeConnection.endingOfStart_beq] using hfailed
        exact absurd hnow (Bool.eq_false_iff.mp hfails)
  | logConnection index now =>
      obtain ⟨proxy, -, hnext⟩ := Option.bind_eq_some_iff.mp hreact
      obtain rfl := Option.some.inj hnext
      rcases List.mem_or_eq_of_mem_set hother with hother | rfl
      · exact hlogged other hother hfailed
      · rfl
  | edge index edgeEvent clock now =>
      obtain ⟨proxy, hproxy, hnext⟩ := Option.bind_eq_some_iff.mp hreact
      obtain ⟨⟨connection, calls⟩, hhandle, hnext⟩ :=
        Option.bind_eq_some_iff.mp hnext
      obtain rfl := Option.some.inj hnext
      have hcalls := (EdgeConnection.handle_calls hhandle).2
      rw [(foldl_receive hcalls rfl).proxies] at hother
      rcases List.mem_or_eq_of_mem_set hother with hother | rfl
      · exact hlogged other hother hfailed
      · simp only [ConnectionProxy.after, Bool.or_eq_true,
          hcalls.any_isFailure] at hfailed
        rcases hfailed with hbefore | hnow
        · exact hlogged proxy (List.mem_of_getElem? hproxy) hbefore
        · exact hfails proxy hproxy hnow

theorem covers_of_failsLogged (tallied : Tallied world)
    (hlogged : world.FailedLogged) (hallowed : world.Admitted event)
    (hfails : world.FailsLogged platform event) :
    world.Covers platform event := by
  intro aProtocolID hfailing
  have hearly : world.early aProtocolID = 0 := by
    refine List.countP_eq_zero.mpr fun proxy hproxy => ?_
    simp only [ConnectionProxy.failedOf, Bool.and_eq_true, Bool.not_eq_true',
      not_and, Bool.not_eq_false]
    exact fun hfailed => hlogged proxy hproxy hfailed.2
  rw [hearly]
  cases event with
  | startWithRequest aCurrentProtocolName mShouldSimulateErrors aRequest clock
      now =>
      have hnever : EdgeConnection.refuses platform aCurrentProtocolName
        aRequest = false := hfails
      simp [failing, hnever] at hfailing
  | logConnection index now => contradiction
  | edge index edgeEvent clock now =>
      obtain ⟨proxy, hproxy, hfailing⟩ := Option.bind_eq_some_iff.mp hfailing
      split at hfailing
      next hfailsOn =>
        obtain rfl := Option.some.inj hfailing
        have hmem := List.mem_of_getElem? hproxy
        have hunfailed : proxy.failed = false :=
          tallied.unfailed_of_running hmem (hallowed.2 proxy hproxy)
        refine List.countP_pos_iff.mpr ⟨proxy, hmem, ?_⟩
        simp [ConnectionProxy.loggedOf, hunfailed,
          hfails proxy hproxy hfailsOn]
      next => contradiction

end Steps

section Runs

variable {platform : URLPlatform} {rule : FailoverRule} {world : ProxyWorld}
  {trail : List (ProxyWorld × ProxyEvent)}

theorem tallied_of_initial (hstart : (system platform rule).initial world) :
    Tallied world ∧ world.FailuresCovered := by
  obtain rfl : world = {} := hstart
  refine ⟨⟨fun _ => rfl, fun _ => rfl, ?_⟩, ?_⟩
  · simp
  · simp [FailuresCovered]

theorem obeys_covers_of_failsLogged
    (path : (system platform rule).Path Admitted trail world)
    (hobeys : Obeys (FailsLogged platform) trail) :
    Obeys (Covers platform) trail := by
  have hinv : Throughout (fun world => Tallied world ∧ world.FailedLogged)
      trail world := by
    refine Path.invariant (C := FailsLogged platform) ?_ ?_ path hobeys
    · intro start hstart
      refine ⟨(tallied_of_initial hstart).1, ?_⟩
      obtain rfl : start = {} := hstart
      simp [FailedLogged]
    · intro before event after hbefore hallowed hfails hreact
      exact ⟨(react_tallied hbefore.1 hallowed hreact).1,
        failedLogged_of_react hbefore.2 hfails hreact⟩
  induction path with
  | start hstart => simp
  | next path hallowed hreact ih =>
      obtain ⟨hbefore, -⟩ := (throughout_snoc _ _ _ _ _).mp hinv
      obtain ⟨htrail, hfails⟩ := (obeys_snoc _ _ _ _).mp hobeys
      exact (obeys_snoc _ _ _ _).mpr ⟨ih htrail hbefore,
        covers_of_failsLogged hbefore.2.1 hbefore.2.2 hallowed hfails⟩

/--
Every failure of a run is counted against at least as many connections exactly
if each finds more logged connections that have not failed than failed ones
that are not logged.  That is so when every connection is logged before it
fails.
-/
theorem failuresCovered_iff_covers
    (path : (system platform rule).Path Admitted trail world) :
    (Throughout FailuresCovered trail world ↔
      Obeys (Covers platform) trail) ∧
    (Obeys (FailsLogged platform) trail →
      Throughout FailuresCovered trail world) := by
  have hexact : Throughout FailuresCovered trail world ↔
      Obeys (Covers platform) trail := by
    refine Path.throughout_iff_obeys
      (fun world => Tallied world ∧ world.FailuresCovered) ?_ ?_ ?_ ?_ path
    · exact fun _ hstart => tallied_of_initial hstart
    · intro before event after hbefore hallowed hcovers hreact
      exact ⟨(react_tallied hbefore.1 hallowed hreact).1,
        (react_covered_iff hbefore.1 hallowed hbefore.2 hreact).mpr hcovers⟩
    · intro before event after hbefore hallowed huncovered hreact hafter
      exact huncovered
        ((react_covered_iff hbefore.1 hallowed hbefore.2 hreact).mp hafter)
    · exact fun _ hinv => hinv.2
  exact ⟨hexact, fun hlogged =>
    hexact.mpr (obeys_covers_of_failsLogged path hlogged)⟩

end Runs

section RefusedStart

def emptyRequest : Request where
  mMethod := ""
  mOriginalURL := ""
  mURL := ""
  mHeaders := []
  mBody := ⟨[]⟩

def startsWith (aCurrentProtocolName : String) : ProxyEvent :=
  .startWithRequest aCurrentProtocolName false emptyRequest (fun _ => 0) 0

theorem empty_path :
    (system EdgeWorld.unaskedPlatform
      ProtocolFailureMonitor.sixtyPercent).Path Admitted [] {} :=
  .start rfl

/-- The first connection fails inside `startWithRequest`. -/
theorem refusedStart_not_covered :
    ∃ trail world,
      (system EdgeWorld.unaskedPlatform
        ProtocolFailureMonitor.sixtyPercent).Path Admitted trail world ∧
      world.validations = [⟨"standard", 1, 0⟩] ∧ ¬ world.FailuresCovered := by
  have hrefused := empty_path.next (e := startsWith "standard") rfl rfl
  refine ⟨_, _, hrefused, rfl, ?_⟩
  intro hcovered
  have hfirst := hcovered ⟨"standard", 1, 0⟩ (.head _)
  contradiction

theorem failuresCovered_iff_covers_loggedStream :
    ∃ trail world,
      (system EdgeWorld.unaskedPlatform
        ProtocolFailureMonitor.sixtyPercent).Path Admitted trail world ∧
      world.validations = [⟨"quic", 1, 1⟩] ∧
      Throughout FailuresCovered trail world := by
  have hstarted := empty_path.next (e := startsWith "quic") rfl rfl
  have hlogged := hstarted.next (e := ProxyEvent.logConnection 0 0)
    ⟨rfl, by rintro proxy ⟨⟩; rfl⟩ rfl
  have hfailed := hlogged.next
    (e := ProxyEvent.edge 0 (.quic (.quicSessionDidFail EdgeWorld.timeout))
      (fun _ => 0) 0) ⟨rfl, by rintro proxy ⟨⟩; rfl⟩ rfl
  refine ⟨_, _, hfailed, rfl,
    (failuresCovered_iff_covers hfailed).2 ?_⟩
  simp only [obeys_snoc, obeys_nil, true_and]
  refine ⟨⟨rfl, trivial⟩, ?_⟩
  rintro proxy ⟨⟩ -
  rfl

end RefusedStart

end ProxyWorld

end RevSDK
