import RevSDK.Protocol.TesterRuns

/-!
# Attribution of test results

A run of the tester asks its protocols one after another.  As long as no
connection fails after its response, at most one block is in the main queue
and the connection it came from is the one started last, so the protocol on
top of the stack is the protocol of that connection.
-/

namespace RevSDK

open RevSDK.Foundation

namespace TesterWorld

open ProtocolAvailabilityTester

/--
Every run that is over called its callback once, every other run is the one in
progress, and no admitted event meets an empty stack.
-/
structure Correct (world : TesterWorld) : Prop where
  completedOnce : world.accepted.length =
    world.completions.length + if world.tester.mRunning then 1 else 0
  attributed : ∀ run block completion, world.accepted[run]? = some block →
    world.completions[run]? = some completion →
      world.Attributed run block completion
  defined : ∀ event, world.Admitted event →
    ∃ world', world.react event = .ok world'

structure StartsRun (block : Block) (cbOnComplete : Nat) (aURL : String) :
    Prop where
  asks : block.protocols ≠ []
  nodup : block.protocols.Nodup
  callback : block.callback = some cbOnComplete
  begins : ∀ tester : ProtocolAvailabilityTester,
    tester.runBlock block = begin { tester with
      mCurrentResults := []
      mProtocolsToTest := block.protocols } aURL cbOnComplete

theorem startsRun_runTests (aURL : String) (callback : Nat) :
    StartsRun (.runTests aURL callback) callback aURL where
  asks := by simp [Block.protocols]
  nodup := by simp [Block.protocols]
  callback := rfl
  begins _ := rfl

theorem startsRun_runTestsIgnoring (aURL aIgnoreProtocol : String)
    (callback : Nat) :
    StartsRun (.runTestsIgnoring aURL aIgnoreProtocol callback) callback
      aURL where
  asks := protocolsWithout_ne_nil aIgnoreProtocol
  nodup := protocolsWithout_nodup aIgnoreProtocol
  callback := rfl
  begins _ := rfl

structure Asking (world : TesterWorld) (block : Block)
    (earlier asked : List TestConnection) (connection : TestConnection)
    (rest : List Protocol) : Prop where
  running : world.tester.mRunning = true
  started : world.connections = earlier ++ (asked ++ [connection])
  settled : ∀ old ∈ earlier,
    old.run < world.completions.length ∧ old.firstOutcome ≠ none
  current : ∀ new ∈ asked ++ [connection],
    new.run = world.completions.length
  protocols : block.protocols =
    (asked ++ [connection]).map TestConnection.protocol ++ rest
  stack : world.tester.mProtocolsToTest = connection.protocol :: rest
  callback : world.tester.mCompletitionCallback = block.callback
  results : asked.map answer = world.tester.mCurrentResults.map some
  queue : world.mainQueue =
    (connection.firstOutcome.map Block.onTestResult).toList

def AllSettled (world : TesterWorld) : Prop :=
  ∀ connection ∈ world.connections,
    connection.run < world.completions.length ∧
      connection.firstOutcome ≠ none

inductive Stage (world : TesterWorld) : Prop
  | idle : world.tester.mRunning = false → world.mainQueue = [] →
      world.accepted.length = world.completions.length → world.AllSettled →
        Stage world
  | posted (before : List Block) (block : Block) :
      world.tester.mRunning = true → world.mainQueue = [block] →
        world.accepted = before ++ [block] →
          before.length = world.completions.length → world.AllSettled →
            Stage world
  | asking (before : List Block) (block : Block)
      (earlier asked : List TestConnection) (connection : TestConnection)
      (rest : List Protocol) :
      world.accepted = before ++ [block] →
        before.length = world.completions.length →
          world.Asking block earlier asked connection rest → Stage world

structure InProgress (world : TesterWorld) : Prop where
  starts : ∀ block ∈ world.accepted, ∃ callback aURL,
    StartsRun block callback aURL
  attributed : ∀ run block completion, world.accepted[run]? = some block →
    world.completions[run]? = some completion →
      world.Attributed run block completion
  stage : world.Stage

section Steps

variable {world : TesterWorld}

theorem start_inProgress : InProgress start where
  starts := by simp [start]
  attributed := by simp [start]
  stage := .idle rfl rfl rfl (by simp [AllSettled, start])

theorem Attributed.congr {world' : TesterWorld} {run : Nat} {block : Block}
    {completion : Completion}
    (h : world.Attributed run block completion)
    (hstarted : world'.startedFor run = world.startedFor run) :
    world'.Attributed run block completion where
  callback := h.callback
  nodup := h.nodup
  protocols := by rw [hstarted, h.protocols]
  results := by rw [hstarted, h.results]

theorem startedFor_append {run : Nat} {earlier later : List TestConnection}
    (hconnections : world.connections = earlier ++ later)
    (hlater : ∀ connection ∈ later, connection.run ≠ run) :
    world.startedFor run =
      earlier.filter fun connection => connection.run == run := by
  have hnone : later.filter (fun connection => connection.run == run) = [] := by
    simpa using hlater
  rw [startedFor, hconnections, List.filter_append, hnone, List.append_nil]

theorem attributed_of_earlier {world' : TesterWorld}
    {earlier later later' : List TestConnection}
    (hbooks : ∀ run block completion, world.accepted[run]? = some block →
      world.completions[run]? = some completion →
        world.Attributed run block completion)
    (hconnections : world.connections = earlier ++ later)
    (hconnections' : world'.connections = earlier ++ later')
    (hlater : ∀ connection ∈ later,
      connection.run = world.completions.length)
    (hlater' : ∀ connection ∈ later',
      connection.run = world.completions.length)
    {run : Nat} {block : Block} {completion : Completion}
    (haccepted : world.accepted[run]? = some block)
    (hcompleted : world.completions[run]? = some completion) :
    world'.Attributed run block completion := by
  have hrun : run < world.completions.length := by
    obtain ⟨hlt, -⟩ := List.getElem?_eq_some_iff.mp hcompleted
    exact hlt
  refine (hbooks run block completion haccepted hcompleted).congr ?_
  rw [startedFor_append hconnections, startedFor_append hconnections']
  · intro connection hmem
    have := hlater' connection hmem
    omega
  · intro connection hmem
    have := hlater connection hmem
    omega

theorem performReques_eq (aProtocol : Protocol) (aURL : String) :
    ∃ connectionClass, world.performReques aProtocol aURL =
      .ok { world with
        connections := world.connections ++
          [⟨connectionClass, aURL, world.completions.length, aProtocol,
            none⟩] } := by
  cases aProtocol with
  | StandardProtocol => exact ⟨.StandardConnection, rfl⟩
  | QUICProtocol => exact ⟨.QUICConnection, rfl⟩

theorem call_inProgress (h : world.InProgress) {block : Block}
    {callback : Nat} {aURL : String} (hstarts : StartsRun block callback aURL) :
    (world.call block).InProgress := by
  cases hrunning : world.tester.mRunning with
  | true =>
      have hsame : world.call block = world := by
        simp [call, exchangeRunning, hrunning]
      rw [hsame]
      exact h
  | false =>
      have hnext : world.call block = { world with
          tester := { world.tester with mRunning := true }
          mainQueue := world.mainQueue ++ [block]
          accepted := world.accepted ++ [block] } := by
        simp [call, exchangeRunning, hrunning]
      rw [hnext]
      cases h.stage with
      | posted _ _ hrun => simp [hrunning] at hrun
      | asking _ _ _ _ _ _ _ _ hasking =>
          exact absurd hasking.running (by simp [hrunning])
      | idle _ hqueue hlength hsettled =>
          refine ⟨?_, ?_, ?_⟩
          · intro other hother
            rcases List.mem_append.mp hother with hold | hnew
            · exact h.starts other hold
            · obtain rfl := List.mem_singleton.mp hnew
              exact ⟨callback, aURL, hstarts⟩
          · intro run other completion haccepted hcompleted
            have hrun : run < world.completions.length :=
              (List.getElem?_eq_some_iff.mp hcompleted).1
            rw [List.getElem?_append_left (by omega)] at haccepted
            exact (h.attributed run other completion haccepted
              hcompleted).congr rfl
          · refine .posted world.accepted block rfl ?_ rfl hlength hsettled
            simp [hqueue]

theorem setEnded_inProgress (h : world.InProgress) (ended : List Nat) :
    InProgress { world with ended := ended } where
  starts := h.starts
  attributed run block completion haccepted hcompleted :=
    (h.attributed run block completion haccepted hcompleted).congr rfl
  stage := by
    cases h.stage with
    | idle hrunning hqueue hlength hsettled =>
        exact .idle hrunning hqueue hlength hsettled
    | posted before block hrunning hqueue haccepted hlength hsettled =>
        exact .posted before block hrunning hqueue haccepted hlength hsettled
    | asking before block earlier asked connection rest haccepted hlength
        hasking =>
        exact .asking before block earlier asked connection rest haccepted
          hlength { hasking with }

theorem Asking.answered {block : Block}
    {earlier asked : List TestConnection} {connection : TestConnection}
    {rest : List Protocol}
    (hasking : world.Asking block earlier asked connection rest)
    {old : TestConnection} (hold : old ∈ asked) : old.firstOutcome ≠ none := by
  have hanswer : answer old ∈ world.tester.mCurrentResults.map some := by
    rw [← hasking.results]
    exact List.mem_map_of_mem hold
  obtain ⟨result, -, hresult⟩ := List.mem_map.mp hanswer
  intro hnone
  simp [answer, hnone] at hresult

theorem modify_last {α : Type} (front : List α) (last : α) (change : α → α) :
    (front ++ [last]).modify front.length change = front ++ [change last] := by
  rw [List.modify_eq_take_cons_drop (by simp)]
  simp

theorem cbOnResponse_inProgress (h : world.InProgress) {index : Nat}
    (hindex : index < world.connections.length)
    (hnone : world.outcomeOf index = none) (aSuccess : Bool) :
    (world.cbOnResponse index aSuccess).InProgress := by
  have hget : world.connections[index].firstOutcome = none := by
    simpa [outcomeOf, hindex] using hnone
  have hmem := List.getElem_mem hindex
  cases h.stage with
  | idle _ _ _ hsettled => exact absurd hget (hsettled _ hmem).2
  | posted _ _ _ _ _ _ hsettled => exact absurd hget (hsettled _ hmem).2
  | asking before block earlier asked connection rest haccepted hlength
      hasking =>
      rw [hasking.started] at hindex
      simp only [List.length_append, List.length_singleton] at hindex
      simp only [hasking.started] at hget
      have hlast : index = earlier.length + asked.length := by
        by_contra hne
        have hbefore : index < (earlier ++ asked).length := by
          simp only [List.length_append]
          omega
        have hold : (earlier ++ asked)[index].firstOutcome = none := by
          rw [← hget]
          congr 1
          simp only [← List.append_assoc]
          exact (List.getElem_append_left hbefore).symm
        rcases List.mem_append.mp (List.getElem_mem hbefore) with hmem | hmem
        · exact (hasking.settled _ hmem).2 hold
        · exact hasking.answered hmem hold
      have hlastOutcome : connection.firstOutcome = none := by
        simpa [hlast] using hget
      have hmodified : (world.cbOnResponse index aSuccess).connections =
          earlier ++ (asked ++
            [{ connection with firstOutcome := some aSuccess }]) := by
        have hmodify := modify_last (earlier ++ asked) connection
          fun connection => { connection with
            firstOutcome := connection.firstOutcome.or (some aSuccess) }
        simpa [cbOnResponse, hasking.started, hlast, hlastOutcome] using hmodify
      have hnew : ∀ new ∈ asked ++
          [{ connection with firstOutcome := some aSuccess }],
          new.run = world.completions.length := by
        intro new hnew
        rcases List.mem_append.mp hnew with hold | hmodifiedLast
        · exact hasking.current new (by simp [hold])
        · obtain rfl := List.mem_singleton.mp hmodifiedLast
          exact hasking.current connection (by simp)
      refine ⟨h.starts, fun run other completion haccepted hcompleted => ?_, ?_⟩
      · exact attributed_of_earlier h.attributed hasking.started hmodified
          hasking.current hnew haccepted hcompleted
      · refine .asking before block earlier asked _ rest haccepted hlength
          { running := hasking.running
            started := hmodified
            settled := hasking.settled
            current := hnew
            protocols := ?_
            stack := hasking.stack
            callback := hasking.callback
            results := hasking.results
            queue := ?_ }
        · rw [hasking.protocols]
          simp
        · simp [cbOnResponse, hasking.queue, hlastOutcome]

theorem react_onTestResult_last {aSuccess : Bool} {protocol : Protocol}
    {callback : Nat} (hqueue : world.mainQueue = [.onTestResult aSuccess])
    (hstack : world.tester.mProtocolsToTest = [protocol])
    (hcallback : world.tester.mCompletitionCallback = some callback) :
    world.react .runBlock = .ok { world with
      tester := { world.tester with
        mProtocolsToTest := []
        mCurrentResults := []
        mRunning := false }
      mainQueue := []
      completions := world.completions ++
        [⟨callback, world.tester.mCurrentResults ++
          [⟨protocol.protocolName, aSuccess⟩]⟩] } := by
  simp [react, hqueue, runBlock, top, pop, hstack, hcallback, pure, Except.pure]

theorem react_onTestResult_more {aSuccess : Bool} {protocol next : Protocol}
    {rest : List Protocol}
    (hqueue : world.mainQueue = [.onTestResult aSuccess])
    (hstack : world.tester.mProtocolsToTest = protocol :: next :: rest) :
    world.react .runBlock = performReques { world with
      tester := { world.tester with
        mProtocolsToTest := next :: rest
        mCurrentResults := world.tester.mCurrentResults ++
          [⟨protocol.protocolName, aSuccess⟩] }
      mainQueue := [] } next world.tester.mCachedURL := by
  simp [react, hqueue, runBlock, top, pop, hstack, pure, Except.pure]

theorem react_begin {block : Block} {callback : Nat} {aURL : String}
    {protocol : Protocol} {rest : List Protocol}
    (hqueue : world.mainQueue = [block])
    (hstarts : StartsRun block callback aURL)
    (hprotocols : block.protocols = protocol :: rest) :
    world.react .runBlock = performReques { world with
      tester := ⟨world.tester.mRunning, [], protocol :: rest, some callback,
        aURL⟩
      mainQueue := [] } protocol aURL := by
  simp [react, hqueue, hstarts.begins, begin, top, hprotocols, pure, Except.pure]

theorem startedFor_current {run : Nat} {earlier current : List TestConnection}
    (hconnections : world.connections = earlier ++ current)
    (hearlier : ∀ old ∈ earlier, old.run < run)
    (hcurrent : ∀ new ∈ current, new.run = run) :
    world.startedFor run = current := by
  have hold : earlier.filter (fun connection => connection.run == run) = [] := by
    rw [List.filter_eq_nil_iff]
    intro old hmem
    have := hearlier old hmem
    simp
    omega
  have hnew : current.filter (fun connection => connection.run == run) =
      current := by
    rw [List.filter_eq_self]
    intro new hmem
    simpa using hcurrent new hmem
  rw [startedFor, hconnections, List.filter_append, hold, hnew, List.nil_append]

theorem begin_inProgress (h : world.InProgress) {before : List Block}
    {block : Block} (hrunning : world.tester.mRunning = true)
    (hqueue : world.mainQueue = [block])
    (haccepted : world.accepted = before ++ [block])
    (hlength : before.length = world.completions.length)
    (hsettled : world.AllSettled) :
    ∃ world', world.react .runBlock = .ok world' ∧ world'.InProgress := by
  obtain ⟨callback, aURL, hstarts⟩ := h.starts block (by simp [haccepted])
  obtain ⟨protocol, rest, hprotocols⟩ := List.exists_cons_of_ne_nil hstarts.asks
  have hreact := react_begin hqueue hstarts hprotocols
  obtain ⟨connectionClass, hperform⟩ := performReques_eq protocol aURL
  rw [hperform] at hreact
  refine ⟨_, hreact, h.starts, fun run other completion hother hcompleted => ?_,
    .asking before block world.connections [] _ rest haccepted hlength
      { running := hrunning
        started := rfl
        settled := hsettled
        current := by simp
        protocols := by simpa using hprotocols
        stack := rfl
        callback := hstarts.callback.symm
        results := rfl
        queue := rfl }⟩
  exact attributed_of_earlier h.attributed (List.append_nil _).symm rfl
    (by simp) (by simp) hother hcompleted

theorem complete_inProgress (h : world.InProgress) {before : List Block}
    {block : Block} {earlier asked : List TestConnection}
    {connection : TestConnection} {aSuccess : Bool}
    (haccepted : world.accepted = before ++ [block])
    (hlength : before.length = world.completions.length)
    (hasking : world.Asking block earlier asked connection [])
    (houtcome : connection.firstOutcome = some aSuccess) :
    ∃ world', world.react .runBlock = .ok world' ∧ world'.InProgress := by
  obtain ⟨callback, aURL, hstarts⟩ := h.starts block (by simp [haccepted])
  have hqueue : world.mainQueue = [.onTestResult aSuccess] := by
    simp [hasking.queue, houtcome]
  have hcallback := hasking.callback.trans hstarts.callback
  have hanswers : (asked ++ [connection]).map answer =
      (world.tester.mCurrentResults ++ [AvailabilityTestResult.mk
        connection.protocol.protocolName aSuccess]).map some := by
    simp [hasking.results, answer, houtcome]
  have hsettled : ∀ old ∈ world.connections,
      old.run < world.completions.length + 1 ∧ old.firstOutcome ≠ none := by
    intro old hold
    rw [hasking.started] at hold
    rcases List.mem_append.mp hold with hearlier | hcurrent
    · have := hasking.settled old hearlier
      exact ⟨by omega, this.2⟩
    · have hrun := hasking.current old hcurrent
      refine ⟨by omega, ?_⟩
      rcases List.mem_append.mp hcurrent with hasked | hlast
      · exact hasking.answered hasked
      · simp [List.mem_singleton.mp hlast, houtcome]
  refine ⟨_, react_onTestResult_last hqueue hasking.stack hcallback, h.starts,
    fun run other completion hother hcompleted => ?_,
    .idle rfl rfl (by simp [haccepted, hlength]) (by simpa [AllSettled] using hsettled)⟩
  by_cases hrun : run < world.completions.length
  · rw [List.getElem?_append_left hrun] at hcompleted
    exact (h.attributed run other completion hother hcompleted).congr rfl
  · have hlast : run = world.completions.length := by
      have := (List.getElem?_eq_some_iff.mp hcompleted).1
      simp only [List.length_append, List.length_singleton] at this
      omega
    subst hlast
    have hstarted := startedFor_current hasking.started
      (fun old hold => (hasking.settled old hold).1) hasking.current
    obtain rfl : other = block := by
      simpa [haccepted, ← hlength] using hother.symm
    obtain rfl : completion = _ := by simpa using hcompleted.symm
    exact
      { callback := hstarts.callback
        nodup := hstarts.nodup
        protocols := by
          rw [hasking.protocols, List.append_nil]
          exact congrArg _ hstarted
        results := by
          rw [← hanswers]
          exact congrArg _ hstarted }

theorem askNext_inProgress (h : world.InProgress) {before : List Block}
    {block : Block} {earlier asked : List TestConnection}
    {connection : TestConnection} {aSuccess : Bool} {next : Protocol}
    {rest : List Protocol}
    (haccepted : world.accepted = before ++ [block])
    (hlength : before.length = world.completions.length)
    (hasking : world.Asking block earlier asked connection (next :: rest))
    (houtcome : connection.firstOutcome = some aSuccess) :
    ∃ world', world.react .runBlock = .ok world' ∧ world'.InProgress := by
  have hqueue : world.mainQueue = [.onTestResult aSuccess] := by
    simp [hasking.queue, houtcome]
  have hreact := react_onTestResult_more hqueue hasking.stack
  obtain ⟨connectionClass, hperform⟩ :=
    performReques_eq next world.tester.mCachedURL
  rw [hperform] at hreact
  have hstarted : world.connections ++ [TestConnection.mk connectionClass
      world.tester.mCachedURL world.completions.length next none] =
        earlier ++ ((asked ++ [connection]) ++ [TestConnection.mk
          connectionClass world.tester.mCachedURL world.completions.length next
            none]) := by
    simp [hasking.started]
  have hcurrent : ∀ new ∈ (asked ++ [connection]) ++ [TestConnection.mk
      connectionClass world.tester.mCachedURL world.completions.length next
        none], new.run = world.completions.length := by
    intro new hnew
    rcases List.mem_append.mp hnew with hold | hlast
    · exact hasking.current new hold
    · rw [List.mem_singleton.mp hlast]
  refine ⟨_, hreact, h.starts, fun run other completion hother hcompleted => ?_,
    .asking before block earlier (asked ++ [connection]) _ rest haccepted
      hlength
      { running := hasking.running
        started := hstarted
        settled := hasking.settled
        current := hcurrent
        protocols := by simp [hasking.protocols]
        stack := rfl
        callback := hasking.callback
        results := by simp [hasking.results, answer, houtcome]
        queue := rfl }⟩
  exact attributed_of_earlier h.attributed hasking.started hstarted
    hasking.current hcurrent hother hcompleted

theorem runBlock_inProgress (h : world.InProgress) :
    ∃ world', world.react .runBlock = .ok world' ∧ world'.InProgress := by
  cases h.stage with
  | idle _ hqueue => exact ⟨world, by simp [react, hqueue], h⟩
  | posted before block hrunning hqueue haccepted hlength hsettled =>
      exact begin_inProgress h hrunning hqueue haccepted hlength hsettled
  | asking before block earlier asked connection rest haccepted hlength
      hasking =>
      cases houtcome : connection.firstOutcome with
      | none =>
          have hqueue : world.mainQueue = [] := by
            simp [hasking.queue, houtcome]
          exact ⟨world, by simp [react, hqueue], h⟩
      | some aSuccess =>
          cases rest with
          | nil => exact complete_inProgress h haccepted hlength hasking houtcome
          | cons next rest =>
              exact askNext_inProgress h haccepted hlength hasking houtcome

theorem react_defined (h : world.InProgress) (event : TesterEvent) :
    ∃ world', world.react event = .ok world' := by
  cases event with
  | runBlock =>
      obtain ⟨world', hreact, -⟩ := runBlock_inProgress h
      exact ⟨world', hreact⟩
  | _ => exact ⟨_, rfl⟩

theorem react_inProgress (h : world.InProgress) {event : TesterEvent}
    (hadmitted : world.Admitted event) (hfails : world.FailsFirst event) :
    ∃ world', world.react event = .ok world' ∧ world'.InProgress := by
  cases event with
  | runTests aURL callback =>
      exact ⟨_, rfl, call_inProgress h (startsRun_runTests aURL callback)⟩
  | runTestsIgnoring aURL aIgnoreProtocol callback =>
      exact ⟨_, rfl, call_inProgress h
        (startsRun_runTestsIgnoring aURL aIgnoreProtocol callback)⟩
  | connectionDidReceiveResponse index statusCode =>
      obtain ⟨hindex, -, hnone⟩ := hadmitted
      exact ⟨_, rfl, cbOnResponse_inProgress h hindex hnone _⟩
  | connectionDidFailWithError index =>
      exact ⟨_, rfl, setEnded_inProgress
        (cbOnResponse_inProgress h hadmitted.1 hfails false) _⟩
  | connectionDidFinish index => exact ⟨_, rfl, setEnded_inProgress h _⟩
  | runBlock => exact runBlock_inProgress h

theorem InProgress.correct (h : world.InProgress) : world.Correct where
  attributed := h.attributed
  defined event _ := react_defined h event
  completedOnce := by
    cases h.stage with
    | idle hrunning _ hlength => simp [hrunning, hlength]
    | posted before block hrunning _ haccepted hlength =>
        simp [hrunning, haccepted, hlength]
    | asking before block earlier asked connection rest haccepted hlength
        hasking =>
        simp [hasking.running, haccepted, hlength]

/--
In a run in which no connection fails after its response, every state is
correct.
-/
theorem results_attributed {trail : List (TesterWorld × TesterEvent)}
    (path : system.Path Admitted trail world)
    (hfails : EventSystem.Obeys FailsFirst trail) :
    EventSystem.Throughout Correct trail world := by
  have hinv : EventSystem.Throughout InProgress trail world := by
    refine path.invariant ?_ ?_ hfails
    · rintro _ rfl
      exact start_inProgress
    · intro world event world' h hadmitted hfirst hstep
      obtain ⟨next, hreact, hnext⟩ := react_inProgress h hadmitted hfirst
      have hsame : system.step world event = some next :=
        (Outcome.toOption_eq_some _ _).mpr hreact
      obtain rfl : next = world' := by simpa [hsame] using hstep
      exact hnext
  exact ⟨fun visit hvisit => (hinv.1 visit hvisit).correct, hinv.2.correct⟩

end Steps

def lateFailure : List TesterEvent :=
  [.runTests "" 0, .runBlock, .connectionDidReceiveResponse 0 200, .runBlock,
    .connectionDidFailWithError 0, .runBlock]

theorem lateFailure_answers_for_quic :
    ∃ world, system.Reachable Admitted world ∧
      system.replay Admitted start lateFailure = some world ∧
        ¬ world.Correct := by
  refine ⟨⟨⟨false, [], [], some 0, ""⟩, [],
    [⟨.StandardConnection, "", 0, .StandardProtocol, some true⟩,
      ⟨.QUICConnection, "", 0, .QUICProtocol, none⟩], [0], [.runTests "" 0],
    [⟨0, [⟨"standard", true⟩, ⟨"quic", false⟩]⟩]⟩, ?_, by decide, ?_⟩
  · exact EventSystem.Reachable.replay lateFailure (.start rfl) (by decide)
  · intro hcorrect
    have hresults := (hcorrect.attributed 0 _ _ rfl rfl).results
    simp [startedFor, answer] at hresults

def bothAnswer : List TesterEvent :=
  [.runTests "" 0, .runBlock, .connectionDidReceiveResponse 0 200,
    .connectionDidFinish 0, .runTests "" 1, .runBlock,
    .connectionDidFailWithError 1, .runBlock]

theorem results_attributed_first_call :
    ∃ trail world, system.Path Admitted trail world ∧
      trail.map Prod.snd = bothAnswer ∧
      EventSystem.Throughout Correct trail world ∧
      world.completions = [⟨0, [⟨"standard", true⟩, ⟨"quic", false⟩]⟩] := by
  obtain ⟨trail, world, path, hfails, hevents, hlast⟩ :=
    EventSystem.exists_run system Admitted FailsFirst (s := start) bothAnswer
      (fun world =>
        world.completions = [⟨0, [⟨"standard", true⟩, ⟨"quic", false⟩]⟩])
      rfl (by decide)
  exact ⟨trail, world, path, hevents, results_attributed path hfails,
    of_decide_eq_true hlast⟩

end TesterWorld

end RevSDK
