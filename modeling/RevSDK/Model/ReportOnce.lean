import RevSDK.Model.ReportMode
import RevSDK.Stats.RecordCourier

/-!
# What one report pass sends

Records are numbered in the order they were ever queued, so equal records stay
apart; the numbers are those of the records that the handler has in its queue
and in its transactions.  A pass sends from the front of the queue and a failed
report puts its records at the end, so a report that fails before the last
iteration is sent again by the pass that sent it.
-/

namespace RevSDK

open RevSDK.Foundation

def ReportingModel.handler (reporting : ReportingModel) : RequestStatsHandler :=
  reporting.world.mStatsHandler.mRequestStatsHandler

/--
A reporting model with all records ever queued and the numbers of those it
holds.  Of its last pass it has the records in each batch, the size of the
queue at the start, and the number of reports sent.
-/
structure CountedModel where
  reporting : ReportingModel
  recorded : List Data
  pass : Pass Nat
  packed : List (List Data)
  queued : Nat
  sends : Nat

namespace CountedModel

section Runs

variable (platform : StatsPlatform) (leftover : List String → Nat → String)
  (reader : ConfigurationReader)

def packedRecords (before after : ReportingModel) : List Data :=
  (after.handler.mSentData.drop before.handler.mSentData.length).flatMap
    Transaction.PendingData

def passAfter (counted : CountedModel) (reporting : ReportingModel) :
    ReportingEvent → Pass Nat
  | .addRequestData _ => counted.pass.accept counted.recorded.length
  | .completion index isNoError =>
      match counted.reporting.world.position index isNoError with
      | none => counted.pass
      | some place =>
          if isNoError then counted.pass.settle place
          else counted.pass.giveBack place
  | .tick => .start counted.pass.courier
  | .pack _ => counted.pass.round
      (counted.reporting.world.courier.queue.length -
        reporting.world.courier.queue.length)
  | _ => counted.pass

def react (counted : CountedModel) (event : ReportingEvent) :
    Outcome CountedModel := do
  let reporting ← counted.reporting.react platform leftover reader event
  return {
    reporting := reporting
    recorded :=
      match event with
      | .addRequestData aRequestData => counted.recorded ++ [aRequestData]
      | _ => counted.recorded
    pass := counted.passAfter reporting event
    packed :=
      match event with
      | .tick => []
      | .pack _ =>
          counted.packed ++ [packedRecords counted.reporting reporting]
      | _ => counted.packed
    queued :=
      match event with
      | .tick => reporting.handler.mRequestsDataVector.length
      | _ => counted.queued
    sends :=
      match event with
      | .tick => 0
      | .send => counted.sends + 1
      | _ => counted.sends }

def system : EventSystem CountedModel ReportingEvent where
  initial counted :=
    (ReportingModel.system platform leftover reader).initial
      counted.reporting ∧
    counted.recorded = counted.reporting.world.courier.queue ∧
    counted.pass = {
      courier := ⟨List.range counted.recorded.length, []⟩
      batches := []
      queued := 0
      joined := 0
      returned := 0
      continues := false } ∧
    counted.packed = [] ∧ counted.queued = 0 ∧ counted.sends = 0
  step counted event :=
    (counted.react platform leftover reader event).toOption

def Admitted (counted : CountedModel) (event : ReportingEvent) : Prop :=
  counted.reporting.Admitted event

/--
The numbers tell apart all records that the handler has queued or sent, and the
last pass has put no number in two of its batches.
-/
structure SendsOnce (counted : CountedModel) : Prop where
  queue : counted.reporting.handler.mRequestsDataVector.map some =
    counted.pass.courier.queue.map (counted.recorded[·]?)
  sent : counted.reporting.handler.mSentData.map
      (fun transaction => transaction.PendingData.map some) =
    counted.pass.courier.sent.map (List.map (counted.recorded[·]?))
  distinct : counted.pass.courier.held.Nodup
  packed : counted.packed.map (List.map some) =
    counted.pass.batches.map (List.map (counted.recorded[·]?))
  once : counted.pass.batches.flatten.Nodup

/-- The last pass sent one report, or one for each record it found or got. -/
def StaysBounded (counted : CountedModel) : Prop :=
  counted.sends ≤ max 1 (counted.queued + counted.pass.joined)

/-- While a pass has an iteration to make, none of its own reports fails. -/
def OwnFailsLate (counted : CountedModel) (event : ReportingEvent) : Prop :=
  ∀ index place, event = .completion index false →
    counted.reporting.world.position index false = some place →
      counted.reporting.phase.continues = true →
        counted.pass.courier.batch place ∉ counted.pass.batches

/-- While a pass has an iteration to make, no report with records fails. -/
def FailsLate (counted : CountedModel) (event : ReportingEvent) : Prop :=
  ∀ index place, event = .completion index false →
    counted.reporting.world.position index false = some place →
      counted.reporting.phase.continues = false

end Runs

section Numbers

variable {platform : StatsPlatform} {leftover : List String → Nat → String}
  {reader : ConfigurationReader} {counted counted' : CountedModel}
  {reporting' : ReportingModel} {event : ReportingEvent}

structure Agrees (counted : CountedModel) : Prop where
  records : counted.reporting.world.courier.map some =
    counted.pass.courier.map (counted.recorded[·]?)
  packed : counted.packed.map (List.map some) =
    counted.pass.batches.map (List.map (counted.recorded[·]?))
  held : ∀ number ∈ counted.pass.courier.held,
    number < counted.recorded.length
  sent : ∀ number ∈ counted.pass.batches.flatten,
    number < counted.recorded.length

theorem Agrees.length_queue (hagrees : counted.Agrees) :
    counted.pass.courier.queue.length =
      counted.reporting.world.courier.queue.length := by
  have hqueue := congrArg (fun courier => courier.queue.length) hagrees.records
  simpa [Courier.map] using hqueue.symm

theorem Agrees.isEmpty_queue (hagrees : counted.Agrees) :
    counted.pass.courier.queue.isEmpty =
      counted.reporting.world.courier.queue.isEmpty := by
  have hlength := hagrees.length_queue
  rw [Bool.eq_iff_iff, List.isEmpty_iff_length_eq_zero,
    List.isEmpty_iff_length_eq_zero, hlength]

theorem packedRecords_eq (before after : ReportingModel) :
    packedRecords before after =
      (after.world.courier.sent.drop
        before.world.courier.sent.length).flatten := by
  simp [packedRecords, ReportingModel.handler, ReportWorld.courier,
    RequestStatsHandler.courier, List.flatMap, List.map_drop]

theorem pack_courier {reporting : ReportingModel} {surroundings : Surroundings}
    {count : Nat}
    (hreturns : reporting.pack platform surroundings = .ok reporting')
    (hcount : reporting.world.courier.queue.length -
      reporting'.world.courier.queue.length = count) :
    (reporting.world.courier.queue ≠ [] → 0 < count) ∧
      (reporting'.world.courier =
        if reporting.world.courier.queue.isEmpty then reporting.world.courier
        else reporting.world.courier.dispatch count) ∧
      packedRecords reporting reporting' =
        reporting.world.courier.queue.take count ∧
      reporting'.phase = .sending reporting.world.reports.length
        (!reporting'.world.courier.queue.isEmpty) := by
  obtain ⟨world, hcreated, hnext⟩ := (Outcome.bind_eq_ok _ _ _).mp hreturns
  obtain ⟨taken, hpos, hcourier⟩ :=
    ReportWorld.createSendTransaction_courier hcreated
  rw [packedRecords_eq]
  rw [← Except.ok.inj hnext] at hcount ⊢
  obtain ⟨hsome, hafter, hbatch⟩ := Courier.dispatched hpos hcourier hcount
  exact ⟨hsome, hafter, hbatch, rfl⟩

theorem Agrees.keep (hagrees : counted.Agrees)
    (hrecorded : counted'.recorded = counted.recorded)
    (hrecords : counted'.reporting.world.courier.map some =
      counted'.pass.courier.map (counted.recorded[·]?))
    (hpacked : counted'.packed.map (List.map some) =
      counted'.pass.batches.map (List.map (counted.recorded[·]?)))
    (hheld : ∀ number ∈ counted'.pass.courier.held,
      number ∈ counted.pass.courier.held)
    (hsent : ∀ number ∈ counted'.pass.batches.flatten,
      number ∈ counted.pass.batches.flatten ∨
        number ∈ counted.pass.courier.held) : counted'.Agrees where
  records := by rw [hrecords, hrecorded]
  packed := by rw [hpacked, hrecorded]
  held number hnumber := by
    rw [hrecorded]
    exact hagrees.held number (hheld number hnumber)
  sent number hnumber := by
    rw [hrecorded]
    rcases hsent number hnumber with hold | hqueued
    · exact hagrees.sent number hold
    · exact hagrees.held number hqueued

def unsent : PassPhase → Nat
  | .sending _ _ => 1
  | _ => 0

structure Counts (counted : CountedModel) : Prop where
  agrees : counted.Agrees
  sound : counted.pass.Sound
  queued : counted.queued = counted.pass.queued
  continues : counted.pass.continues = counted.reporting.phase.continues
  sends : counted.sends + unsent counted.reporting.phase ≤
    counted.pass.batches.length

theorem Counts.start
    (hinitial : (system platform leftover reader).initial counted) :
    counted.Counts := by
  obtain ⟨⟨-, ⟨requestsFile, eventsFile, gID, hworld⟩, hidle⟩, hrecorded,
    hpass, hpacked, hqueued, hsends⟩ := hinitial
  refine ⟨⟨?_, ?_, ?_, ?_⟩, ⟨?_, ?_, ?_, ?_, ?_, ?_, ?_⟩, ?_, ?_, ?_⟩
  · have hqueue : counted.recorded.map some =
        (List.range counted.recorded.length).map (counted.recorded[·]?) := by
      refine List.ext_getElem (by simp) fun index hleft hright => ?_
      simp
    have hcourier : counted.reporting.world.courier =
        ⟨counted.recorded, []⟩ := by
      rw [hrecorded, hworld]
      rfl
    rw [hcourier, hpass]
    simp only [Courier.map, hqueue, List.map_nil]
  · simp [hpass, hpacked]
  · rw [hpass]
    simp [Courier.held]
  · rw [hpass]
    simp
  · rw [hpass]
    simpa [Courier.held] using List.nodup_range
  · rw [hpass]
    exact List.nodup_nil
  · simp [hpass]
  · simp [hpass]
  · simp [hpass]
  · simp [hpass]
  · simp [hpass]
  · rw [hpass, hqueued]
  · rw [hpass, hidle]
    rfl
  · rw [hsends, hidle]
    simp [unsent]

theorem Counts.keep (hcounts : counted.Counts)
    (hcourier : counted'.reporting.world.courier =
      counted.reporting.world.courier)
    (hphase : counted'.reporting.phase = counted.reporting.phase)
    (hrecorded : counted'.recorded = counted.recorded)
    (hpass : counted'.pass = counted.pass)
    (hpacked : counted'.packed = counted.packed)
    (hqueued : counted'.queued = counted.queued)
    (hsends : counted'.sends = counted.sends) : counted'.Counts where
  agrees := by
    refine hcounts.agrees.keep hrecorded ?_ ?_ ?_ ?_
    · rw [hcourier, hpass]
      exact hcounts.agrees.records
    · rw [hpacked, hpass]
      exact hcounts.agrees.packed
    · simp [hpass]
    · rw [hpass]
      exact fun number hnumber => .inl hnumber
  sound := hpass ▸ hcounts.sound
  queued := by rw [hqueued, hpass, hcounts.queued]
  continues := by rw [hpass, hphase, hcounts.continues]
  sends := by
    rw [hsends, hphase, hpass]
    exact hcounts.sends

theorem Counts.move (hcounts : counted.Counts) {pass : Pass Nat}
    (hsound : pass.Sound)
    (hrecords : reporting'.world.courier.map some =
      pass.courier.map (counted.recorded[·]?))
    (hheld : pass.courier.held ⊆ counted.pass.courier.held)
    (hbatches : pass.batches = counted.pass.batches)
    (hqueued : pass.queued = counted.pass.queued)
    (hcontinues : pass.continues = counted.pass.continues)
    (hphase : reporting'.phase = counted.reporting.phase) :
    Counts { counted with reporting := reporting', pass := pass } where
  agrees := by
    refine hcounts.agrees.keep rfl hrecords ?_ (fun _ hnumber => hheld hnumber)
      ?_
    · rw [hbatches]
      exact hcounts.agrees.packed
    · rw [hbatches]
      exact fun number hnumber => .inl hnumber
  sound := hsound
  queued := hcounts.queued.trans hqueued.symm
  continues := by
    rw [hcontinues, hphase]
    exact hcounts.continues
  sends := by
    rw [hbatches, hphase]
    exact hcounts.sends

theorem Counts.accept (hcounts : counted.Counts) {aRequestData : Data}
    (hcourier : reporting'.world.courier =
      counted.reporting.world.courier.accept aRequestData)
    (hphase : reporting'.phase = counted.reporting.phase) :
    Counts { counted with
      reporting := reporting'
      recorded := counted.recorded ++ [aRequestData]
      pass := counted.pass.accept counted.recorded.length } where
  agrees := by
    refine ⟨?_, ?_, ?_, ?_⟩
    · have haccepted := Courier.accept_numbered hcounts.agrees.records
        hcounts.agrees.held aRequestData
      rw [← hcourier] at haccepted
      exact haccepted
    · refine hcounts.agrees.packed.trans ?_
      refine List.map_congr_left fun batch hbatch => ?_
      refine List.map_congr_left fun number hnumber => ?_
      exact (List.getElem?_append_left (hcounts.agrees.sent number
        (List.mem_flatten.mpr ⟨batch, hbatch, hnumber⟩))).symm
    · intro number hnumber
      rw [List.length_append, List.length_singleton]
      obtain rfl | hold := Courier.mem_held_accept.mp hnumber
      · exact Nat.lt_succ_self _
      · exact Nat.lt_succ_of_lt (hcounts.agrees.held number hold)
    · intro number hnumber
      rw [List.length_append, List.length_singleton]
      exact Nat.lt_succ_of_lt (hcounts.agrees.sent number hnumber)
  sound := by
    refine hcounts.sound.accept (fun hheld => ?_) (fun hsent => ?_)
    · exact Nat.lt_irrefl _ (hcounts.agrees.held _ hheld)
    · exact Nat.lt_irrefl _ (hcounts.agrees.sent _ hsent)
  queued := hcounts.queued
  continues := by
    rw [hphase]
    exact hcounts.continues
  sends := by
    rw [hphase]
    exact hcounts.sends

theorem Counts.complete (hcounts : counted.Counts) {index : Nat}
    {isNoError : Bool}
    (hlate : OwnFailsLate counted (.completion index isNoError))
    (hcompleted : counted.reporting.world.completion index isNoError =
      .ok reporting'.world)
    (hphase : reporting'.phase = counted.reporting.phase) :
    Counts { counted with
      reporting := reporting'
      pass := counted.passAfter reporting' (.completion index isNoError) } := by
  have hcourier := ReportWorld.completion_courier hcompleted
  unfold passAfter
  dsimp only
  cases hposition : counted.reporting.world.position index isNoError with
  | none =>
      rw [hposition] at hcourier
      exact hcounts.keep hcourier hphase rfl rfl rfl rfl rfl
  | some place =>
      rw [hposition] at hcourier
      dsimp only at hcourier ⊢
      cases isNoError with
      | true =>
          rw [if_pos rfl] at hcourier ⊢
          have hrecords : reporting'.world.courier.map some =
              (counted.pass.courier.settle place).map
                (counted.recorded[·]?) := by
            rw [hcourier, Courier.map_settle, Courier.map_settle,
              hcounts.agrees.records]
          exact hcounts.move (hcounts.sound.settle place) hrecords
            (counted.pass.courier.held_settle place).subset rfl rfl rfl hphase
      | false =>
          rw [if_neg (by decide)] at hcourier ⊢
          have hapart : counted.pass.continues = true →
              counted.pass.courier.batch place ∉ counted.pass.batches := by
            rw [hcounts.continues]
            exact hlate index place rfl hposition
          have hrecords : reporting'.world.courier.map some =
              (counted.pass.courier.giveBack place).map
                (counted.recorded[·]?) := by
            rw [hcourier, Courier.map_giveBack, Courier.map_giveBack,
              hcounts.agrees.records]
          exact hcounts.move (hcounts.sound.giveBack hapart) hrecords
            (counted.pass.courier.held_giveBack place).subset rfl rfl rfl hphase

theorem Counts.tick (hcounts : counted.Counts) :
    Counts { counted with
      reporting := { counted.reporting with phase := .packing }
      pass := .start counted.pass.courier
      packed := []
      queued := counted.reporting.handler.mRequestsDataVector.length
      sends := 0 } where
  agrees := by
    refine hcounts.agrees.keep rfl hcounts.agrees.records rfl ?_ ?_
    · exact fun number hnumber => hnumber
    · intro number hnumber
      simp [Pass.start] at hnumber
  sound := .start hcounts.sound.nodup
  queued := hcounts.agrees.length_queue.symm
  continues := rfl
  sends := Nat.le_refl 0

theorem Counts.pack (hcounts : counted.Counts) {surroundings : Surroundings}
    (hpacking : counted.reporting.phase = .packing)
    (hreturns : counted.reporting.pack platform surroundings =
      .ok reporting') :
    Counts { counted with
      reporting := reporting'
      pass := counted.passAfter reporting' (.pack surroundings)
      packed :=
        counted.packed ++ [packedRecords counted.reporting reporting'] } := by
  have hcontinues : counted.pass.continues = true := by
    rw [hcounts.continues, hpacking]
    rfl
  unfold passAfter
  dsimp only
  generalize hcount : counted.reporting.world.courier.queue.length -
    reporting'.world.courier.queue.length = count
  obtain ⟨hsome, hcourier, hbatch, hphase⟩ := pack_courier hreturns hcount
  have hqueue : counted.reporting.world.courier.queue.map some =
      counted.pass.courier.queue.map (counted.recorded[·]?) :=
    congrArg Courier.queue hcounts.agrees.records
  have hrecords : reporting'.world.courier.map some =
      (counted.pass.round count).courier.map (counted.recorded[·]?) := by
    unfold Pass.round
    dsimp only
    rw [hcounts.agrees.isEmpty_queue, hcourier]
    split
    · exact hcounts.agrees.records
    · rw [Courier.map_dispatch, hcounts.agrees.records, Courier.map_dispatch]
  have hbatches : (counted.packed ++
        [packedRecords counted.reporting reporting']).map (List.map some) =
      (counted.pass.round count).batches.map
        (List.map (counted.recorded[·]?)) := by
    unfold Pass.round
    dsimp only
    rw [List.map_append, List.map_append, hcounts.agrees.packed, hbatch,
      List.map_singleton, List.map_singleton, List.map_take, hqueue,
      List.map_take]
  constructor
  case agrees =>
    refine hcounts.agrees.keep rfl hrecords hbatches ?_ ?_
    · exact fun number hnumber =>
        (counted.pass.held_round count).mem_iff.mp hnumber
    · intro number hnumber
      change number ∈ (counted.pass.round count).batches.flatten at hnumber
      rw [Pass.flatten_round] at hnumber
      rcases List.mem_append.mp hnumber with hold | htaken
      · exact .inl hold
      · exact .inr (List.mem_append_left _ (List.mem_of_mem_take htaken))
  case sound =>
    refine hcounts.sound.round hcontinues fun hnonempty => hsome ?_
    rw [← List.length_pos_iff, hcounts.agrees.length_queue] at hnonempty
    exact List.length_pos_iff.mp hnonempty
  case queued => exact hcounts.queued
  case continues =>
    have hleft : reporting'.world.courier.queue.isEmpty =
        (counted.pass.round count).courier.queue.isEmpty := by
      have hmapped := congrArg (fun courier => courier.queue.isEmpty) hrecords
      simpa [Courier.map] using hmapped
    rw [hphase, Pass.round_continues, ← hleft]
    rfl
  case sends =>
    have hsends := hcounts.sends
    rw [hpacking] at hsends
    rw [hphase]
    simp only [unsent, Pass.round, List.length_append, List.length_singleton]
      at hsends ⊢
    omega

theorem Counts.send (hcounts : counted.Counts) {index : Nat}
    {hasDataToSend : Bool}
    (hsending : counted.reporting.phase = .sending index hasDataToSend)
    (hsent : counted.reporting.send index hasDataToSend = .ok reporting') :
    Counts { counted with
      reporting := reporting'
      sends := counted.sends + 1 } := by
  obtain ⟨_, -, hnext⟩ := (Outcome.bind_eq_ok _ _ _).mp hsent
  obtain rfl := Except.ok.inj hnext
  have hagrees := hcounts.agrees
  refine ⟨hagrees.keep rfl hagrees.records hagrees.packed
    (fun number hnumber => hnumber) (fun number hnumber => .inl hnumber),
    hcounts.sound, hcounts.queued, ?_, ?_⟩
  · rw [hcounts.continues, hsending]
    cases hasDataToSend <;> rfl
  · have hsends := hcounts.sends
    rw [hsending] at hsends
    cases hasDataToSend <;> exact hsends

theorem Counts.next (hcounts : counted.Counts)
    (hadmitted : counted.Admitted event) (hlate : OwnFailsLate counted event)
    (hreact : counted.react platform leftover reader event = .ok counted') :
    counted'.Counts := by
  obtain ⟨reporting, hreporting, hnext⟩ := (Outcome.bind_eq_ok _ _ _).mp hreact
  obtain rfl := Except.ok.inj hnext
  cases event with
  | model event =>
      obtain ⟨model, -, hmodel⟩ := (Outcome.bind_eq_ok _ _ _).mp hreporting
      obtain rfl := Except.ok.inj hmodel
      exact hcounts.keep rfl rfl rfl rfl rfl rfl rfl
  | addRequestData aRequestData =>
      obtain ⟨world, hworld, hadded⟩ :=
        (Outcome.bind_eq_ok _ _ _).mp hreporting
      obtain rfl := Except.ok.inj hadded
      obtain ⟨⟨handler, file⟩, hhandler, hrequests⟩ :=
        (Outcome.bind_eq_ok _ _ _).mp hworld
      obtain rfl := Except.ok.inj hrequests
      exact hcounts.accept
        (RequestStatsHandler.addNewRequestData_courier hhandler) rfl
  | addEvent aEvent aLoggingLevel =>
      unfold ReportingModel.react at hreporting
      dsimp only at hreporting
      split at hreporting
      · obtain ⟨world, hworld, hadded⟩ :=
          (Outcome.bind_eq_ok _ _ _).mp hreporting
        obtain rfl := Except.ok.inj hadded
        obtain rfl := Except.ok.inj hworld
        exact hcounts.keep rfl rfl rfl rfl rfl rfl rfl
      · obtain rfl := Except.ok.inj hreporting
        exact hcounts.keep rfl rfl rfl rfl rfl rfl rfl
  | completion index isNoError =>
      obtain ⟨world, hworld, hcompleted⟩ :=
        (Outcome.bind_eq_ok _ _ _).mp hreporting
      obtain rfl := Except.ok.inj hcompleted
      exact hcounts.complete hlate hworld rfl
  | tick =>
      obtain rfl := Except.ok.inj hreporting
      exact hcounts.tick
  | pack surroundings => exact hcounts.pack hadmitted hreporting
  | send =>
      obtain ⟨index, hasDataToSend, hsending⟩ := hadmitted
      unfold ReportingModel.react at hreporting
      dsimp only at hreporting
      rw [hsending] at hreporting
      exact hcounts.send hsending hreporting

theorem FailsLate.own (hlate : FailsLate counted event) :
    OwnFailsLate counted event := by
  intro index place hevent hposition hcontinues
  rw [hlate index place hevent hposition] at hcontinues
  contradiction

theorem obeys_ownFailsLate {trail : List (CountedModel × ReportingEvent)}
    (hlate : EventSystem.Obeys FailsLate trail) :
    EventSystem.Obeys OwnFailsLate trail :=
  fun visit hvisit => (hlate visit hvisit).own

theorem Counts.returned (hcounts : counted.Counts)
    (hlate : FailsLate counted event)
    (hreact : counted.react platform leftover reader event = .ok counted')
    (hnone : counted.pass.returned = 0) : counted'.pass.returned = 0 := by
  obtain ⟨reporting, -, hnext⟩ := (Outcome.bind_eq_ok _ _ _).mp hreact
  obtain rfl := Except.ok.inj hnext
  cases event with
  | completion index isNoError =>
      unfold passAfter
      dsimp only
      cases hposition : counted.reporting.world.position index isNoError with
      | none => exact hnone
      | some place =>
          cases isNoError with
          | true => exact hnone
          | false =>
              have hidle := hlate index place rfl hposition
              rw [← hcounts.continues] at hidle
              simpa [Pass.giveBack, hidle] using hnone
  | tick => rfl
  | model | addRequestData | addEvent | pack | send => exact hnone

theorem Counts.sendsOnce (hcounts : counted.Counts) : counted.SendsOnce where
  queue := congrArg Courier.queue hcounts.agrees.records
  sent := by
    have hsent := congrArg Courier.sent hcounts.agrees.records
    simpa [Courier.map, ReportWorld.courier, RequestStatsHandler.courier,
      ReportingModel.handler, Function.comp_def] using hsent
  distinct := hcounts.sound.nodup
  packed := hcounts.agrees.packed
  once := hcounts.sound.once

theorem Counts.staysBounded (hcounts : counted.Counts)
    (hnone : counted.pass.returned = 0) : counted.StaysBounded := by
  have hlength := hcounts.sound.length_le
  have hsends := hcounts.sends
  have hqueued := hcounts.queued
  unfold StaysBounded
  omega

/--
If none of its own reports fails while a pass has an iteration to make, it puts
no record in two batches.  If no report with records fails then, it also sends
at most one report for each record that it found or that was added.
-/
theorem sendsOnce_of_failsLate {trail : List (CountedModel × ReportingEvent)}
    (path : (system platform leftover reader).Path Admitted trail counted) :
    (EventSystem.Obeys OwnFailsLate trail →
      EventSystem.Throughout SendsOnce trail counted) ∧
    (EventSystem.Obeys FailsLate trail →
      EventSystem.Throughout
        (fun counted => counted.SendsOnce ∧ counted.StaysBounded) trail
        counted) := by
  constructor
  · intro hlate
    have hcounts : EventSystem.Throughout Counts trail counted :=
      path.invariant (fun counted hinitial => .start hinitial)
        (fun counted event counted' hcounts hadmitted hlate hstep =>
          hcounts.next hadmitted hlate
            ((Outcome.toOption_eq_some _ _).mp hstep))
        hlate
    exact ⟨fun visit hvisit => (hcounts.1 visit hvisit).sendsOnce,
      hcounts.2.sendsOnce⟩
  · intro hlate
    have hcounts : EventSystem.Throughout
        (fun counted => counted.Counts ∧ counted.pass.returned = 0) trail
        counted :=
      path.invariant
        (fun counted hinitial =>
          ⟨.start hinitial, by simp [hinitial.2.2.1]⟩)
        (fun counted event counted' hcounts hadmitted hlate hstep =>
          have hreact := (Outcome.toOption_eq_some _ _).mp hstep
          ⟨hcounts.1.next hadmitted hlate.own hreact,
            hcounts.1.returned hlate hreact hcounts.2⟩)
        hlate
    have hbooks : ∀ counted : CountedModel,
        counted.Counts ∧ counted.pass.returned = 0 →
          counted.SendsOnce ∧ counted.StaysBounded :=
      fun counted hcounts => ⟨hcounts.1.sendsOnce,
        hcounts.1.staysBounded hcounts.2⟩
    exact ⟨fun visit hvisit => hbooks _ (hcounts.1 visit hvisit),
      hbooks _ hcounts.2⟩

end Numbers

section SentAgain

open SelectorWorld (untouched)
open ModelState (readerOf loadOf firstStart firstLoad)

def oneByOne : Configuration :=
  { WatchedModel.everyMinute with statsReportingMaxRequests := 1 }

def emptyPass : Pass Nat := ⟨⟨[], []⟩, [], 0, 0, 0, false⟩

def countedStart : CountedModel :=
  ⟨⟨firstStart, .start none none 0, .idle⟩, [], emptyPass, [], 0, 0⟩

def countedLoaded : CountedModel :=
  ⟨⟨firstLoad oneByOne, .start none none 0, .idle⟩, [], emptyPass, [], 0, 0⟩

def oneByOnePath : List (CountedModel × ReportingEvent) → CountedModel →
    Prop :=
  (system silentPlatform untouched (readerOf oneByOne)).Path Admitted

theorem countedLoaded_path :
    oneByOnePath [(countedStart, .model (loadOf oneByOne 0))]
      countedLoaded := by
  have hstart : oneByOnePath [] countedStart :=
    .start ⟨⟨⟨_, _, _, _, rfl⟩, ⟨none, none, 0, rfl⟩, rfl⟩, rfl, rfl, rfl, rfl,
      rfl⟩
  have hserved : oneByOne.Served oneByOne.servingPlatform := by
    decide +kernel
  have hreact := ReportingModel.react_loadOf silentPlatform untouched hserved
    countedStart.reporting 0
  refine hstart.next (e := ReportingEvent.model (loadOf oneByOne 0))
    (ReportingModel.admitted_loadOf _) ?_
  simp only [system, react, hreact, Outcome.ok_bind]
  rfl

/-- Two records are queued, and the first is sent and fails at once. -/
theorem sentAgain_not_once :
    ∃ counted, (system silentPlatform untouched
        (readerOf oneByOne)).Reachable Admitted counted ∧
      counted.packed = [[⟨[1]⟩], [⟨[2]⟩], [⟨[1]⟩]] ∧
      ¬ counted.SendsOnce := by
  have hfirst := countedLoaded_path.reachable.next
    (e := ReportingEvent.addRequestData ⟨[1]⟩) trivial rfl
  have hsecond := hfirst.next
    (e := ReportingEvent.addRequestData ⟨[2]⟩) trivial rfl
  have htick := hsecond.next (e := ReportingEvent.tick) ⟨rfl, by decide⟩ rfl
  have hpacked := htick.next (e := ReportingEvent.pack nowhere) rfl rfl
  have hsent := hpacked.next (e := ReportingEvent.send) ⟨_, _, rfl⟩ rfl
  have hfailed := hsent.next (e := ReportingEvent.completion 0 false)
    ⟨by decide, fun _ (hphase : PassPhase.packing = _) => by contradiction⟩ rfl
  have hpackedNext := hfailed.next (e := ReportingEvent.pack nowhere) rfl rfl
  have hsentNext := hpackedNext.next (e := ReportingEvent.send)
    ⟨_, _, rfl⟩ rfl
  have hagain := hsentNext.next (e := ReportingEvent.pack nowhere) rfl rfl
  refine ⟨_, hagain, rfl, fun hsends => ?_⟩
  have honce : [[0], [1], [0]].flatten.Nodup := hsends.once
  revert honce
  decide

/-- The first report is delivered, the second fails after the last round. -/
theorem sendsOnce_of_failsLate_delivered :
    ∃ trail counted, oneByOnePath trail counted ∧
      trail.map Prod.snd = [.model (loadOf oneByOne 0),
        .addRequestData ⟨[1]⟩, .addRequestData ⟨[2]⟩, .tick, .pack nowhere,
        .send, .completion 0 true, .pack nowhere, .send,
        .completion 1 false] ∧
      EventSystem.Throughout SendsOnce trail counted ∧
      EventSystem.Throughout
        (fun counted => counted.SendsOnce ∧ counted.StaysBounded) trail
        counted ∧
      counted.packed = [[⟨[1]⟩], [⟨[2]⟩]] ∧ counted.sends = 2 := by
  have hfirst := countedLoaded_path.next
    (e := ReportingEvent.addRequestData ⟨[1]⟩) trivial rfl
  have hsecond := hfirst.next
    (e := ReportingEvent.addRequestData ⟨[2]⟩) trivial rfl
  have htick := hsecond.next (e := ReportingEvent.tick) ⟨rfl, by decide⟩ rfl
  have hpacked := htick.next (e := ReportingEvent.pack nowhere) rfl rfl
  have hsent := hpacked.next (e := ReportingEvent.send) ⟨_, _, rfl⟩ rfl
  have hdelivered := hsent.next (e := ReportingEvent.completion 0 true)
    ⟨by decide, fun _ (hphase : PassPhase.packing = _) => by contradiction⟩ rfl
  have hpackedNext := hdelivered.next (e := ReportingEvent.pack nowhere) rfl rfl
  have hsentNext := hpackedNext.next (e := ReportingEvent.send)
    ⟨_, _, rfl⟩ rfl
  have path := hsentNext.next (e := ReportingEvent.completion 1 false)
    ⟨by decide, fun _ (hphase : PassPhase.idle = _) => by contradiction⟩ rfl
  obtain ⟨honce, hbounded⟩ := sendsOnce_of_failsLate path
  refine ⟨_, _, path, rfl, honce (obeys_ownFailsLate ?late), hbounded ?late,
    rfl, rfl⟩
  intro visit hvisit index place hevent _
  simp only [List.mem_append, List.mem_cons, List.not_mem_nil, or_false]
    at hvisit
  rcases hvisit with ((((((((rfl | rfl) | rfl) | rfl) | rfl) | rfl) | rfl) |
    rfl) | rfl) | rfl
  all_goals cases hevent
  -- The loop has ended when the second report fails.
  rfl

end SentAgain

end CountedModel

end RevSDK
