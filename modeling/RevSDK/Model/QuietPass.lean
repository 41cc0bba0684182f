import RevSDK.Foundation.Batching
import RevSDK.Model.ReportMode
import RevSDK.Stats.RecordCourier

/-!
# A pass that nothing disturbs

While `reportStats` runs, no record is added and no report is completed.  Each
iteration then takes the maximum from the front of the queue, and the loop ends
when the queue is empty.  Configurations may be loaded meanwhile, as long as
they have the same maximum.
-/

namespace RevSDK

open RevSDK.Foundation

namespace ReportingModel

def queue (reporting : ReportingModel) : List Data :=
  reporting.world.courier.queue

def maximum (reporting : ReportingModel) : Int :=
  let requestsCount := reporting.model.getActive.1.statsReportingMaxRequests
  if requestsCount ≤ 0 then kRequestsCountMax else requestsCount

def packed (reporting : ReportingModel) : List Data :=
  match reporting.world.reports.getLast? with
  | some report =>
      if report.statsData.cbOnSuccess.isSome then
        (reporting.world.courier.sent.getLast?).getD []
      else []
  | none => []

def Filled (reporting : ReportingModel) : Prop :=
  ∀ batch ∈ reporting.world.courier.sent, batch ≠ []

end ReportingModel

/--
A call of `reportStats` with the queue and the maximum it has begun with, the
batches it has packed, and the number of reports it has sent.
-/
structure QuietPass where
  reporting : ReportingModel
  queued : List Data
  maximum : Int
  batches : List (List Data)
  sends : Nat

namespace QuietPass

section Runs

variable (platform : StatsPlatform) (leftover : List String → Nat → String)
  (reader : ConfigurationReader)

def begin (reporting : ReportingModel) : QuietPass where
  reporting := { reporting with phase := .packing }
  queued := reporting.queue
  maximum := reporting.maximum
  batches := []
  sends := 0

def react (pass : QuietPass) (event : ReportingEvent) : Outcome QuietPass := do
  let reporting ← pass.reporting.react platform leftover reader event
  return { pass with
    reporting := reporting
    batches :=
      match event with
      | .pack _ => pass.batches ++ [reporting.packed]
      | _ => pass.batches
    sends :=
      match event with
      | .send => pass.sends + 1
      | _ => pass.sends }

/-- The call begins at any moment of a process; its maximum is an `int32_t`. -/
def system : EventSystem QuietPass ReportingEvent where
  initial pass := ∃ reporting,
    (ReportingModel.system platform leftover reader).Reachable
        ReportingModel.Admitted reporting ∧
      reporting.Admitted .tick ∧ reporting.maximum < 2 ^ 31 ∧
        pass = begin reporting
  step pass event := (pass.react platform leftover reader event).toOption

/-- No record is added, no batch completes, and the maximum stays. -/
def Quiet (pass : QuietPass) (event : ReportingEvent) : Prop :=
  pass.reporting.Admitted event ∧
    match event with
    | .model event => ∀ model,
        pass.reporting.model.react leftover reader event = .ok model →
          { pass.reporting with model := model }.maximum =
            pass.reporting.maximum
    | .addRequestData _ => False
    | .completion _ _ => False
    | .tick => False
    | _ => True

def IsOwn : ReportingEvent → Prop
  | .pack _ => True
  | .send => True
  | _ => False

/-- `max 1 (ceil (|Q| / n))`. -/
def iterations (pass : QuietPass) : Nat :=
  max 1 (pass.queued.length ⌈/⌉ pass.maximum.toNat)

/-- The queue of the beginning is in the batches, in its order. -/
structure Drained (pass : QuietPass) : Prop where
  iterations : pass.batches.length = pass.iterations
  sends : pass.sends = pass.iterations
  bound : ∀ batch ∈ pass.batches, batch.length ≤ pass.maximum
  concatenation : pass.batches.flatten = pass.queued
  empty : pass.reporting.queue = []

end Runs

end QuietPass

/-! ## Transactions in flight -/

namespace ReportingModel

section Filling

variable {platform : StatsPlatform} {leftover : List String → Nat → String}
  {reader : ConfigurationReader} {reporting reporting' : ReportingModel}
  {event : ReportingEvent}

theorem Filled.pack (hfilled : reporting.Filled) {surroundings : Surroundings}
    (hreturns : reporting.pack platform surroundings = .ok reporting') :
    reporting'.Filled := by
  obtain ⟨world, hcreated, hnext⟩ := (Outcome.bind_eq_ok _ _ _).mp hreturns
  obtain ⟨taken, hpos, hcourier⟩ :=
    ReportWorld.createSendTransaction_courier hcreated
  obtain rfl := Except.ok.inj hnext
  unfold Filled
  rw [hcourier]
  cases hqueue : reporting.world.courier.queue with
  | nil => exact hfilled
  | cons record records =>
      intro batch hbatch
      rcases List.mem_append.mp hbatch with hold | hnew
      · exact hfilled batch hold
      · rw [List.mem_singleton.mp hnew, hqueue, ne_eq, List.take_eq_nil_iff]
        simp only [reduceCtorEq, or_false]
        omega

theorem Filled.completion (hfilled : reporting.Filled) {index : Nat}
    {isNoError : Bool} {world : ReportWorld}
    (hcompleted : reporting.world.completion index isNoError = .ok world) :
    ∀ batch ∈ world.courier.sent, batch ≠ [] := by
  rw [ReportWorld.completion_courier hcompleted]
  cases reporting.world.position index isNoError with
  | none => exact hfilled
  | some place =>
      intro batch hbatch
      cases isNoError with
      | true => exact hfilled batch (List.mem_of_mem_eraseIdx hbatch)
      | false => exact hfilled batch (List.mem_of_mem_eraseIdx hbatch)

theorem Filled.react (hfilled : reporting.Filled)
    (hreact : reporting.react platform leftover reader event =
      .ok reporting') : reporting'.Filled := by
  cases event with
  | model event =>
      obtain ⟨model, -, hnext⟩ := (Outcome.bind_eq_ok _ _ _).mp hreact
      obtain rfl := Except.ok.inj hnext
      exact hfilled
  | addRequestData aRequestData =>
      obtain ⟨world, hworld, hnext⟩ := (Outcome.bind_eq_ok _ _ _).mp hreact
      obtain rfl := Except.ok.inj hnext
      obtain ⟨⟨handler, file⟩, hhandler, hrequests⟩ :=
        (Outcome.bind_eq_ok _ _ _).mp hworld
      obtain rfl := Except.ok.inj hrequests
      have hcourier := RequestStatsHandler.addNewRequestData_courier hhandler
      have hsent : handler.courier.sent = reporting.world.courier.sent := by
        rw [hcourier]
        rfl
      intro batch hbatch
      exact hfilled batch (hsent ▸ hbatch)
  | addEvent aEvent aLoggingLevel =>
      unfold ReportingModel.react at hreact
      dsimp only at hreact
      split at hreact
      · obtain ⟨world, hworld, hnext⟩ := (Outcome.bind_eq_ok _ _ _).mp hreact
        obtain rfl := Except.ok.inj hnext
        obtain rfl := Except.ok.inj hworld
        exact hfilled
      · obtain rfl := Except.ok.inj hreact
        exact hfilled
  | completion index isNoError =>
      obtain ⟨world, hworld, hnext⟩ := (Outcome.bind_eq_ok _ _ _).mp hreact
      obtain rfl := Except.ok.inj hnext
      exact hfilled.completion hworld
  | tick =>
      obtain rfl := Except.ok.inj hreact
      exact hfilled
  | pack surroundings => exact hfilled.pack hreact
  | send =>
      unfold ReportingModel.react at hreact
      dsimp only at hreact
      split at hreact
      · obtain ⟨_, -, hnext⟩ := (Outcome.bind_eq_ok _ _ _).mp hreact
        obtain rfl := Except.ok.inj hnext
        exact hfilled
      · obtain rfl := Except.ok.inj hreact
        exact hfilled

theorem filled_of_reachable
    (hreach : (system platform leftover reader).Reachable Admitted reporting) :
    reporting.Filled := by
  refine hreach.invariant Filled ?_ ?_
  · rintro reporting ⟨-, ⟨requestsFile, eventsFile, gID, hworld⟩, -⟩
    unfold Filled
    rw [hworld]
    exact fun batch hbatch => by cases hbatch
  · intro reporting event reporting' hfilled _ hstep
    exact hfilled.react ((Outcome.toOption_eq_some _ _).mp hstep)

end Filling

/-! ## One iteration -/

section Iteration

variable {platform : StatsPlatform} {reporting : ReportingModel}

@[simp] theorem maximum_getActive (reporting : ReportingModel) :
    { reporting with model := reporting.model.getActive.2 }.maximum =
      reporting.maximum := by
  unfold maximum
  rw [ModelState.getActive_getActive]

theorem requestsData_eq_dispatch (pack : List Data → Data)
    (handler : RequestStatsHandler) (gID : Int)
    (hfilled : ∀ batch ∈ handler.courier.sent, batch ≠ []) {count : Int}
    (hcount : RequestStatsHandler.ValidCount count) :
    ∃ handle handler' gID',
      handler.requestsData pack gID count = .ok (handle, handler', gID') ∧
      handler'.courier.queue = handler.courier.queue.drop count.toNat ∧
      (∀ batch ∈ handler'.courier.sent, batch ≠ []) ∧
      (if handle.cbOnSuccess.isSome then
          (handler'.courier.sent.getLast?).getD [] else []) =
        handler.courier.queue.take count.toNat := by
  by_cases hqueue : handler.mRequestsDataVector = []
  · refine ⟨_, _, _, RequestStatsHandler.requestsData_empty _ handler gID count
      hqueue, ?_, hfilled, ?_⟩
    · simp [RequestStatsHandler.courier, hqueue]
    · simp [RequestStatsHandler.courier, hqueue]
  · have hslots : ∀ slot ∈ handler.mSentData, slot.PendingData ≠ [] :=
      fun slot hslot => hfilled _ (List.mem_map_of_mem hslot)
    refine ⟨_, _, _, RequestStatsHandler.requestsData_filled _ gID hslots hcount
      hqueue, rfl, ?_, ?_⟩
    · intro batch hbatch
      simp only [RequestStatsHandler.courier, List.map_append, List.map_cons,
        List.map_nil, List.mem_append, List.mem_singleton] at hbatch
      rcases hbatch with hold | rfl
      · exact hfilled batch hold
      · exact hcount.take_ne_nil hqueue
    · simp [RequestStatsHandler.courier]

structure Packs (platform : StatsPlatform)
    (reporting reporting' : ReportingModel) : Prop where
  queue : reporting'.queue = reporting.queue.drop reporting.maximum.toNat
  packed : reporting'.packed = reporting.queue.take reporting.maximum.toNat
  filled : reporting'.Filled
  maximum : reporting'.maximum = reporting.maximum
  phase : reporting'.phase = .sending reporting.world.reports.length
    (!reporting'.queue.isEmpty)
  buffer : ∃ report members,
    reporting'.world.reports[reporting.world.reports.length]? = some report ∧
      report.statsData.Buffer = platform.dataWithJSONObject (.object members)

theorem pack_packs (hfilled : reporting.Filled)
    (hcount : RequestStatsHandler.ValidCount reporting.maximum)
    (surroundings : Surroundings) :
    ∃ reporting', reporting.pack platform surroundings = .ok reporting' ∧
      reporting.Packs platform reporting' := by
  obtain ⟨handle, handler, gID, hrequests, hqueue, hsent, hpacked⟩ :=
    requestsData_eq_dispatch platform.jsonDataFromDataVector
      reporting.world.mStatsHandler.mRequestStatsHandler reporting.world.gID
      hfilled hcount
  unfold maximum at hrequests
  dsimp only at hrequests
  unfold pack ReportWorld.createSendTransaction
    StatsHandler.createSendTransaction
  dsimp only
  rw [hrequests]
  refine ⟨_, rfl, hqueue, ?_, hsent, ?_, rfl, ?_⟩
  · unfold packed
    dsimp only
    rw [List.getLast?_concat]
    exact hpacked
  · unfold maximum
    dsimp only
    rw [ModelState.getActive_getActive, ModelState.getActive_getActive,
      ModelState.getActive_getActive]
  · exact ⟨_, _, List.getElem?_concat_length, rfl⟩

end Iteration

end ReportingModel

/-! ## The whole call -/

namespace QuietPass

section Draining

variable {platform : StatsPlatform} {leftover : List String → Nat → String}
  {reader : ConfigurationReader} {pass next : QuietPass}
  {event : ReportingEvent} {trail : List (QuietPass × ReportingEvent)}

def InPhase (platform : StatsPlatform) (pass : QuietPass) : PassPhase → Prop
  | .packing => (pass.batches = [] ∨ pass.reporting.queue ≠ []) ∧
      pass.sends = pass.batches.length
  | .sending index hasDataToSend => pass.batches ≠ [] ∧
      pass.sends + 1 = pass.batches.length ∧
        hasDataToSend = !pass.reporting.queue.isEmpty ∧
          ∃ report members, pass.reporting.world.reports[index]? =
              some report ∧
            report.statsData.Buffer =
              platform.dataWithJSONObject (.object members)
  | .idle => pass.batches ≠ [] ∧ pass.reporting.queue = [] ∧
      pass.sends = pass.batches.length

structure Drains (platform : StatsPlatform) (pass : QuietPass) : Prop where
  filled : pass.reporting.Filled
  count : RequestStatsHandler.ValidCount pass.maximum
  maximum : pass.reporting.maximum = pass.maximum
  batched : Batched pass.maximum.toNat pass.queued pass.batches
    pass.reporting.queue
  phase : pass.InPhase platform pass.reporting.phase

theorem Drains.toNat_pos (h : pass.Drains platform) :
    0 < pass.maximum.toNat := by
  have hpos := h.count.1
  omega

theorem Drains.start
    (hinitial : (system platform leftover reader).initial pass) :
    pass.Drains platform := by
  obtain ⟨reporting, hreach, -, hsmall, rfl⟩ := hinitial
  have hfilled : reporting.Filled := ReportingModel.filled_of_reachable hreach
  refine ⟨hfilled, ⟨?_, hsmall⟩, rfl, Batched.start _ _, .inl rfl, rfl⟩
  unfold begin ReportingModel.maximum
  dsimp only
  split
  · decide
  · omega

theorem Drains.keep {reporting : ReportingModel} (h : pass.Drains platform)
    (hcourier : reporting.world.courier = pass.reporting.world.courier)
    (hreports : reporting.world.reports = pass.reporting.world.reports)
    (hphase : reporting.phase = pass.reporting.phase)
    (hmaximum : reporting.maximum = pass.reporting.maximum) :
    Drains platform { pass with reporting := reporting } := by
  have hqueue : reporting.queue = pass.reporting.queue :=
    congrArg Courier.queue hcourier
  refine ⟨?_, h.count, hmaximum.trans h.maximum, ?_, ?_⟩
  · unfold ReportingModel.Filled
    rw [hcourier]
    exact h.filled
  · rw [hqueue]
    exact h.batched
  · have hbefore := h.phase
    rw [hphase]
    cases hwhere : pass.reporting.phase with
    | idle =>
        rw [hwhere] at hbefore
        exact ⟨hbefore.1, hqueue.trans hbefore.2.1, hbefore.2.2⟩
    | packing =>
        rw [hwhere] at hbefore
        refine ⟨?_, hbefore.2⟩
        rw [hqueue]
        exact hbefore.1
    | sending index hasDataToSend =>
        rw [hwhere] at hbefore
        obtain ⟨hsome, hsends, hdata, hreport⟩ := hbefore
        refine ⟨hsome, hsends, ?_, ?_⟩
        · rw [hqueue]
          exact hdata
        · rw [hreports]
          exact hreport

theorem Drains.pack (h : pass.Drains platform)
    (hpacking : pass.reporting.phase = .packing) (surroundings : Surroundings) :
    ∃ next, pass.react platform leftover reader (.pack surroundings) =
        .ok next ∧
      next.Drains platform ∧ next.queued = pass.queued ∧
        next.maximum = pass.maximum ∧
          next.batches.length = pass.batches.length + 1 ∧
            ∃ index hasDataToSend,
              next.reporting.phase = .sending index hasDataToSend := by
  have hphase := h.phase
  rw [hpacking] at hphase
  obtain ⟨hmore, hsends⟩ := hphase
  obtain ⟨reporting, hpack, hpacks⟩ := ReportingModel.pack_packs h.filled
    (h.maximum ▸ h.count) surroundings
  have hreact : pass.react platform leftover reader (.pack surroundings) =
      .ok { pass with
        reporting := reporting
        batches := pass.batches ++ [reporting.packed] } := by
    unfold QuietPass.react ReportingModel.react
    dsimp only
    rw [hpack, Outcome.ok_bind]
    rfl
  refine ⟨_, hreact, ⟨hpacks.filled, h.count,
    hpacks.maximum.trans h.maximum, ?_, ?_⟩, rfl, rfl, by simp, _, _,
    hpacks.phase⟩
  · have hbatched := h.batched.next hmore
    rw [← h.maximum, ← hpacks.packed, ← hpacks.queue, h.maximum] at hbatched
    exact hbatched
  · rw [hpacks.phase]
    obtain ⟨report, members, hreport, hbuffer⟩ := hpacks.buffer
    exact ⟨by simp, by simp [hsends], rfl, report, members, hreport, hbuffer⟩

theorem Drains.send (hbuffer : ∀ members,
      (platform.dataWithJSONObject (.object members)).length ≠ 0)
    (h : pass.Drains platform) {index : Nat} {hasDataToSend : Bool}
    (hsending : pass.reporting.phase = .sending index hasDataToSend) :
    ∃ next, pass.react platform leftover reader .send = .ok next ∧
      next.Drains platform ∧ next.queued = pass.queued ∧
        next.maximum = pass.maximum ∧ next.batches = pass.batches ∧
          ∀ index hasDataToSend,
            next.reporting.phase ≠ .sending index hasDataToSend := by
  have hphase := h.phase
  rw [hsending] at hphase
  obtain ⟨hsome, hsends, hdata, report, members, hreport, hreportBuffer⟩ :=
    hphase
  have hsend : pass.reporting.send index hasDataToSend =
      .ok { pass.reporting with
        model := pass.reporting.model.getActive.2
        phase := if hasDataToSend then .packing else .idle } := by
    have hlength := hbuffer members
    rw [← hreportBuffer] at hlength
    have hpasses : (report.statsData.Buffer.length != 0) = true := by
      simpa using hlength
    unfold ReportingModel.send
    dsimp only
    rw [hreport, Option.map_some, Option.getD_some, hpasses, assertion_true]
    rfl
  have hreact : pass.react platform leftover reader .send =
      .ok { pass with
        reporting := { pass.reporting with
          model := pass.reporting.model.getActive.2
          phase := if hasDataToSend then .packing else .idle }
        sends := pass.sends + 1 } := by
    unfold QuietPass.react ReportingModel.react
    dsimp only
    rw [hsending]
    dsimp only
    rw [hsend, Outcome.ok_bind]
    rfl
  refine ⟨_, hreact, ⟨h.filled, h.count, ?_, h.batched, ?_⟩, rfl, rfl, rfl, ?_⟩
  · exact (ReportingModel.maximum_getActive pass.reporting).trans h.maximum
  · cases hasDataToSend with
    | true =>
        refine ⟨.inr ?_, hsends⟩
        intro hempty
        rw [ReportingModel.queue] at hempty
        simp [ReportingModel.queue, hempty] at hdata
    | false =>
        refine ⟨hsome, ?_, hsends⟩
        simpa [ReportingModel.queue] using hdata
  · intro index hasMore
    cases hasDataToSend <;> simp

theorem Drains.step (hbuffer : ∀ members,
      (platform.dataWithJSONObject (.object members)).length ≠ 0)
    (h : pass.Drains platform) (hquiet : Quiet leftover reader pass event)
    (hreact : pass.react platform leftover reader event = .ok next) :
    next.Drains platform := by
  obtain ⟨hadmitted, hevent⟩ := hquiet
  cases event with
  | model event =>
      obtain ⟨reporting, hreporting, hnext⟩ :=
        (Outcome.bind_eq_ok _ _ _).mp hreact
      obtain ⟨model, hmodel, hrest⟩ := (Outcome.bind_eq_ok _ _ _).mp hreporting
      obtain rfl := Except.ok.inj hnext
      obtain rfl := Except.ok.inj hrest
      exact h.keep rfl rfl rfl (hevent model hmodel)
  | addRequestData aRequestData => exact hevent.elim
  | completion index isNoError => exact hevent.elim
  | tick => exact hevent.elim
  | addEvent aEvent aLoggingLevel =>
      obtain ⟨reporting, hreporting, hnext⟩ :=
        (Outcome.bind_eq_ok _ _ _).mp hreact
      obtain rfl := Except.ok.inj hnext
      unfold ReportingModel.react at hreporting
      dsimp only at hreporting
      split at hreporting
      · obtain ⟨world, hworld, hrest⟩ :=
          (Outcome.bind_eq_ok _ _ _).mp hreporting
        obtain rfl := Except.ok.inj hrest
        obtain rfl := Except.ok.inj hworld
        exact h.keep rfl rfl rfl rfl
      · obtain rfl := Except.ok.inj hreporting
        exact h.keep rfl rfl rfl rfl
  | pack surroundings =>
      obtain ⟨packed, hpacked, hdrains, -⟩ :=
        @Drains.pack platform leftover reader pass h hadmitted surroundings
      obtain rfl := Except.ok.inj (hpacked.symm.trans hreact)
      exact hdrains
  | send =>
      obtain ⟨index, hasDataToSend, hsending⟩ := hadmitted
      obtain ⟨sent, hsent, hdrains, -⟩ :=
        @Drains.send platform leftover reader pass hbuffer h index
          hasDataToSend hsending
      obtain rfl := Except.ok.inj (hsent.symm.trans hreact)
      exact hdrains

theorem drains_of_path (hbuffer : ∀ members,
      (platform.dataWithJSONObject (.object members)).length ≠ 0)
    (path : (system platform leftover reader).Path (Quiet leftover reader)
      trail pass) : pass.Drains platform :=
  path.reachable.invariant (Drains platform) (fun _ h => Drains.start h)
    fun _ _ _ h hquiet hstep =>
      h.step hbuffer hquiet ((Outcome.toOption_eq_some _ _).mp hstep)

theorem Drains.drained (h : pass.Drains platform)
    (hidle : pass.reporting.phase = .idle) : pass.Drained := by
  have hphase := h.phase
  rw [hidle] at hphase
  obtain ⟨hsome, hempty, hsends⟩ := hphase
  have hbatched := h.batched
  rw [hempty] at hbatched
  obtain ⟨hlength, hflatten⟩ := hbatched.done h.toNat_pos hsome
  refine ⟨hlength, hsends.trans hlength, ?_, hflatten, hempty⟩
  intro batch hbatch
  have hbound := hbatched.bound batch hbatch
  have hpos := h.count.1
  omega

def stepsLeft (pass : QuietPass) : Nat :=
  match pass.reporting.phase with
  | .idle => 0
  | .packing => 2 * (pass.iterations - pass.batches.length)
  | .sending _ _ => 2 * (pass.iterations - pass.batches.length) + 1

theorem Drains.ownStep (hbuffer : ∀ members,
      (platform.dataWithJSONObject (.object members)).length ≠ 0)
    (h : pass.Drains platform) (hbusy : pass.reporting.phase ≠ .idle) :
    ∃ event next, IsOwn event ∧ Quiet leftover reader pass event ∧
      pass.react platform leftover reader event = .ok next ∧
        next.stepsLeft < pass.stepsLeft := by
  cases hphase : pass.reporting.phase with
  | idle => exact absurd hphase hbusy
  | packing =>
      obtain ⟨next, hreact, -, hqueued, hmaximum, hbatches, index,
        hasDataToSend, hsending⟩ :=
          @Drains.pack platform leftover reader pass h hphase nowhere
      refine ⟨.pack nowhere, next, trivial, ⟨hphase, trivial⟩, hreact, ?_⟩
      have hbooks := h.phase
      rw [hphase] at hbooks
      have hlt := h.batched.length_lt h.toNat_pos hbooks.1
      have hsame : next.iterations = pass.iterations := by
        unfold iterations
        rw [hqueued, hmaximum]
      unfold stepsLeft
      rw [hphase, hsending]
      dsimp only
      rw [hsame, hbatches]
      change pass.batches.length < pass.iterations at hlt
      omega
  | sending index hasDataToSend =>
      obtain ⟨next, hreact, -, hqueued, hmaximum, hbatches, hsent⟩ :=
        @Drains.send platform leftover reader pass hbuffer h index
          hasDataToSend hphase
      refine ⟨.send, next, trivial, ⟨⟨index, hasDataToSend, hphase⟩, trivial⟩,
        hreact, ?_⟩
      have hsame : next.iterations = pass.iterations := by
        unfold iterations
        rw [hqueued, hmaximum]
      unfold stepsLeft
      rw [hphase]
      cases hnext : next.reporting.phase with
      | idle => exact Nat.succ_pos _
      | packing =>
          dsimp only
          rw [hsame, hbatches]
          exact Nat.lt_succ_self _
      | sending index hasDataToSend =>
          exact absurd hnext (hsent index hasDataToSend)

theorem ends_of_path (hbuffer : ∀ members,
      (platform.dataWithJSONObject (.object members)).length ≠ 0)
    (path : (system platform leftover reader).Path (Quiet leftover reader)
      trail pass) :
    ∃ rest last, (system platform leftover reader).Path (Quiet leftover reader)
        (trail ++ rest) last ∧
      (∀ visit ∈ rest, IsOwn visit.2) ∧ last.reporting.phase = .idle := by
  induction hleft : pass.stepsLeft using Nat.strong_induction_on
    generalizing pass trail with
  | _ left ih =>
      by_cases hidle : pass.reporting.phase = .idle
      · exact ⟨[], pass, by simpa using path, by simp, hidle⟩
      · obtain ⟨event, next, hown, hquiet, hreact, hless⟩ :=
          (drains_of_path hbuffer path).ownStep hbuffer hidle
        have hstep := (Outcome.toOption_eq_some _ _).mpr hreact
        obtain ⟨rest, last, hpath, hrest, hlast⟩ :=
          ih next.stepsLeft (hleft ▸ hless) (path.next hquiet hstep) rfl
        rw [List.append_assoc] at hpath
        exact ⟨(pass, event) :: rest, last, hpath,
          List.forall_mem_cons.mpr ⟨hown, hrest⟩, hlast⟩

/--
A call that nothing disturbs makes `max 1 (ceil (|Q| / n))` iterations and then
ends; each batch holds at most the maximum, and together they are the queue.
-/
theorem quietPass_drains (hbuffer : ∀ members,
      (platform.dataWithJSONObject (.object members)).length ≠ 0)
    (path : (system platform leftover reader).Path (Quiet leftover reader)
      trail pass) :
    pass.batches.length ≤ pass.iterations ∧
      (pass.reporting.phase = .idle → pass.Drained) ∧
      ∃ rest last,
        (system platform leftover reader).Path (Quiet leftover reader)
            (trail ++ rest) last ∧
          (∀ visit ∈ rest, IsOwn visit.2) ∧ last.reporting.phase = .idle := by
  have hdrains := drains_of_path hbuffer path
  exact ⟨hdrains.batched.length_le hdrains.toNat_pos, hdrains.drained,
    ends_of_path hbuffer path⟩

end Draining

section TwoBatches

open SelectorWorld (untouched)
open ModelState (readerOf loadOf firstStart firstLoad)

def twoByTwo : Configuration :=
  { WatchedModel.everyMinute with statsReportingMaxRequests := 2 }

theorem twoByTwo_reachable :
    (ReportingModel.system silentPlatform untouched
      (readerOf twoByTwo)).Reachable ReportingModel.Admitted
        ⟨firstLoad twoByTwo, .start none none 0, .idle⟩ := by
  have hstart : (ReportingModel.system silentPlatform untouched
      (readerOf twoByTwo)).Reachable ReportingModel.Admitted
        ⟨firstStart, .start none none 0, .idle⟩ :=
    .start ⟨⟨_, _, _, _, rfl⟩, ⟨_, _, _, rfl⟩, rfl⟩
  have hserved : twoByTwo.Served twoByTwo.servingPlatform := by
    decide +kernel
  have hreact := ReportingModel.react_loadOf silentPlatform untouched hserved
    ⟨firstStart, .start none none 0, .idle⟩ 0
  refine hstart.next (e := ReportingEvent.model (loadOf twoByTwo 0))
    (ReportingModel.admitted_loadOf _) ?_
  simp only [ReportingModel.system, hreact]
  rfl

/-- Three records make two batches. -/
theorem quietPass_drains_twoByTwo :
    ∃ pass : QuietPass, pass.queued = [⟨[1]⟩, ⟨[2]⟩, ⟨[3]⟩] ∧
      pass.batches = [[⟨[1]⟩, ⟨[2]⟩], [⟨[3]⟩]] ∧ pass.Drained := by
  have hfirst := twoByTwo_reachable.next
    (e := ReportingEvent.addRequestData ⟨[1]⟩) trivial rfl
  have hsecond := hfirst.next
    (e := ReportingEvent.addRequestData ⟨[2]⟩) trivial rfl
  have hthird := hsecond.next
    (e := ReportingEvent.addRequestData ⟨[3]⟩) trivial rfl
  have hbegun : (system silentPlatform untouched (readerOf twoByTwo)).Path
      (Quiet untouched (readerOf twoByTwo)) [] _ :=
    .start ⟨_, hthird, ⟨rfl, by decide⟩, by decide, rfl⟩
  have hpacked := hbegun.next (e := ReportingEvent.pack nowhere)
    ⟨rfl, trivial⟩ rfl
  have hsent := hpacked.next (e := ReportingEvent.send)
    ⟨⟨_, _, rfl⟩, trivial⟩ rfl
  have hpackedAgain := hsent.next (e := ReportingEvent.pack nowhere)
    ⟨rfl, trivial⟩ rfl
  have hsentAgain := hpackedAgain.next (e := ReportingEvent.send)
    ⟨⟨_, _, rfl⟩, trivial⟩ rfl
  have hbuffer (members : List (String × Json)) :
      (silentPlatform.dataWithJSONObject (.object members)).length ≠ 0 :=
    Nat.one_ne_zero
  exact ⟨_, rfl, rfl, (quietPass_drains hbuffer hsentAgain).2.1 rfl⟩

end TwoBatches

end QuietPass

end RevSDK
