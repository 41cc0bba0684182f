import RevSDK.Stats.HandlerRuns
import RevSDK.Stats.RecordCourier

/-!
# Deleted records

`deleteAllData` clears the queue and the requests file and leaves `mSentData`
as it is.  Records are numbered in the order they were loaded or added, so
those from before a deletion are those with small numbers, wherever they are.
-/

namespace RevSDK

open RevSDK.Foundation
open DataStorage

namespace StatsWorld

variable {pack : List Data → Data} {world world' : StatsWorld}

theorem WellFormed.react (hwf : world.WellFormed) (event : StatsEvent)
    (hadmitted : world.Admitted event)
    (hreact : world.react pack event = .ok world') : world'.WellFormed :=
  (reacts_of_step hwf hadmitted
    ((Outcome.toOption_eq_some _ _).mpr hreact)).wellFormed

theorem addNewRequestData_returns {aRequestData : Data}
    (hdata : aRequestData.length ≠ 0)
    (hreact : world.react pack (.addNewRequestData aRequestData) =
      .ok world') :
    ∃ file, loadRequestsData file =
        loadRequestsData world.requestsFile ++ [aRequestData] ∧
      world' = { world with
        handler :=
          ⟨world.handler.mRequestsDataVector ++ [aRequestData],
            world.handler.mSentData⟩
        requestsFile := file
        recorded := world.recorded ++ [aRequestData] } := by
  obtain ⟨file, hsave, hload⟩ :=
    saveRequestData_spec world.requestsFile aRequestData hdata
  refine ⟨file, hload, ?_⟩
  simp only [react, RequestStatsHandler.addNewRequestData, hsave,
    Outcome.ok_bind] at hreact
  exact (Except.ok.inj hreact).symm

theorem requestsData_returns {count : Int}
    (hreact : world.react pack (.requestsData count) = .ok world') :
    ∃ issued,
      (world.handler.mRequestsDataVector.isEmpty = true ∧
        world' = { world with issued := issued }) ∨
      (world.handler.mRequestsDataVector.isEmpty = false ∧
        ∃ taken, 0 < taken ∧ world' = { world with
          handler :=
            ⟨world.handler.mRequestsDataVector.drop taken,
              world.handler.mSentData ++ [⟨world.gID + 1,
                world.handler.mRequestsDataVector.take taken⟩]⟩
          gID := world.gID + 1
          issued := issued }) := by
  obtain ⟨⟨handle, handler, gID⟩, hrequests, hnext⟩ :=
    (Outcome.bind_eq_ok _ _ _).mp hreact
  obtain rfl := Except.ok.inj hnext
  refine ⟨world.issued ++ [⟨handle, count⟩], ?_⟩
  cases hqueue : world.handler.mRequestsDataVector.isEmpty with
  | true =>
      left
      rw [RequestStatsHandler.requestsData_empty pack _ _ _
        (List.isEmpty_iff.mp hqueue)] at hrequests
      cases Except.ok.inj hrequests
      exact ⟨rfl, rfl⟩
  | false =>
      right
      obtain ⟨taken, hpos, rfl, rfl, -⟩ :=
        RequestStatsHandler.requestsData_eq hqueue hrequests
      exact ⟨rfl, taken, hpos, rfl⟩

theorem cbOnSuccess_returns {index : Nat} {key : Int}
    (hwf : world.WellFormed) (hkey : world.successKey index = some key)
    (hreact : world.react pack (.cbOnSuccess index) = .ok world') :
    ∃ file acknowledged,
      loadRequestsData file = world.handler.mRequestsDataVector ∧
      world' = { world with
        handler := { world.handler with
          mSentData :=
            match world.handler.position key with
            | none => world.handler.mSentData
            | some place => world.handler.mSentData.eraseIdx place }
        requestsFile := file
        acknowledged := acknowledged } := by
  simp only [react, hkey] at hreact
  obtain ⟨⟨handler, file⟩, hdelete, hnext⟩ :=
    (Outcome.bind_eq_ok _ _ _).mp hreact
  obtain rfl := Except.ok.inj hnext
  obtain ⟨hhandler, hsaved⟩ := RequestStatsHandler.deleteTransaction_eq hdelete
  have hqueue : handler.mRequestsDataVector =
      world.handler.mRequestsDataVector := by rw [hhandler]
  obtain ⟨file', hsaved', hload⟩ := handler.deleteRequestsData_spec
    world.requestsFile (hqueue ▸ hwf.handler.queued)
  rw [hsaved] at hsaved'
  obtain rfl := Except.ok.inj hsaved'
  refine ⟨file, world.acknowledged ++ pendingOf world.handler.mSentData key,
    hload.trans hqueue, ?_⟩
  subst hhandler
  rfl

theorem cbOnFail_returns {index : Nat} {key : Int}
    (hkey : world.failKey index = some key)
    (hreact : world.react pack (.cbOnFail index) = .ok world') :
    ∃ handler, world.handler.restoreTransaction key = .ok handler ∧
      world' = { world with handler := handler } := by
  simp only [react, hkey] at hreact
  obtain ⟨handler, hrestore, hnext⟩ := (Outcome.bind_eq_ok _ _ _).mp hreact
  exact ⟨handler, hrestore, (Except.ok.inj hnext).symm⟩

end StatsWorld

/--
A world with the numbers of the records in its handler and in its file.  The
last event created a transaction of the records `packed`, which have the
numbers `built`.  At the last deletion `cutoff` records had been recorded and
the transactions up to `deletedAt` had been created.
-/
structure NumberedWorld where
  world : StatsWorld
  numbers : Courier Nat
  filed : List Nat
  packed : List Data
  built : List Nat
  cutoff : Nat
  deletedAt : Option Int

namespace NumberedWorld

section Runs

variable (pack : List Data → Data)

def position (numbered : NumberedWorld) (key : Option Int) : Option Nat :=
  key.bind numbered.world.handler.position

def taken (numbered : NumberedWorld) (world : StatsWorld) : Nat :=
  numbered.world.handler.mRequestsDataVector.length -
    world.handler.mRequestsDataVector.length

def numbersAfter (numbered : NumberedWorld) (world : StatsWorld) :
    StatsEvent → Courier Nat
  | .addNewRequestData _ =>
      numbered.numbers.accept numbered.world.recorded.length
  | .requestsData _ =>
      if numbered.world.handler.mRequestsDataVector.isEmpty then
        numbered.numbers
      else numbered.numbers.dispatch (numbered.taken world)
  | .cbOnSuccess index =>
      match numbered.position (numbered.world.successKey index) with
      | none => numbered.numbers
      | some place => numbered.numbers.settle place
  | .cbOnFail index =>
      match numbered.position (numbered.world.failKey index) with
      | none => numbered.numbers
      | some place => numbered.numbers.giveBack place
  | .deleteAllData => { numbered.numbers with queue := [] }
  | .rebuild _ => ⟨numbered.filed, []⟩

/-- A success callback rewrites the file from the queue. -/
def filedAfter (numbered : NumberedWorld) : StatsEvent → List Nat
  | .addNewRequestData _ => numbered.filed ++ [numbered.world.recorded.length]
  | .cbOnSuccess index =>
      if (numbered.world.successKey index).isSome then numbered.numbers.queue
      else numbered.filed
  | .deleteAllData => []
  | _ => numbered.filed

def packedBy (numbered : NumberedWorld) (world : StatsWorld) :
    StatsEvent → List Data
  | .requestsData _ =>
      (world.handler.mSentData.drop
        numbered.world.handler.mSentData.length).flatMap
          Transaction.PendingData
  | _ => []

def builtBy (numbered : NumberedWorld) (world : StatsWorld) :
    StatsEvent → List Nat
  | .requestsData _ => numbered.numbers.queue.take (numbered.taken world)
  | _ => []

def react (numbered : NumberedWorld) (event : StatsEvent) :
    Outcome NumberedWorld := do
  let world ← numbered.world.react pack event
  return {
    world := world
    numbers := numbered.numbersAfter world event
    filed := numbered.filedAfter event
    packed := numbered.packedBy world event
    built := numbered.builtBy world event
    cutoff :=
      match event with
      | .deleteAllData => numbered.world.recorded.length
      | _ => numbered.cutoff
    deletedAt :=
      match event with
      | .deleteAllData => some numbered.world.gID
      | .rebuild _ => none
      | _ => numbered.deletedAt }

def start (file : RequestsFile) (gID : Int) : NumberedWorld :=
  let loaded := List.range (loadRequestsData file).length
  { world := .start file gID
    numbers := ⟨loaded, []⟩
    filed := loaded
    packed := []
    built := []
    cutoff := 0
    deletedAt := none }

def system : EventSystem NumberedWorld StatsEvent where
  initial numbered := ∃ file gID, numbered = start file gID
  step numbered event := (numbered.react pack event).toOption

/-- What the callers promise; the records may be deleted at any point. -/
def Admitted (numbered : NumberedWorld) (event : StatsEvent) : Prop :=
  event = .deleteAllData ∨ numbered.world.Admitted event

instance (numbered : NumberedWorld) (event : StatsEvent) :
    Decidable (numbered.Admitted event) :=
  inferInstanceAs (Decidable (_ ∨ _))

def OnlyRecent (numbered : NumberedWorld) : Prop :=
  ∀ number ∈ numbered.numbers.queue ++ numbered.filed ++ numbered.built,
    numbered.cutoff ≤ number

/--
The records in the queue, in the file and in the batch that was built last are
those with these numbers, and none is from before the last deletion.
-/
structure DeletedForGood (numbered : NumberedWorld) : Prop where
  queue : numbered.world.handler.mRequestsDataVector.map some =
    numbered.numbers.queue.map (numbered.world.recorded[·]?)
  file : (loadRequestsData numbered.world.requestsFile).map some =
    numbered.filed.map (numbered.world.recorded[·]?)
  batch : numbered.packed.map some =
    numbered.built.map (numbered.world.recorded[·]?)
  recent : numbered.OnlyRecent

/-- The transaction with this number was in flight at the last deletion. -/
def predates (numbered : NumberedWorld) (key : Int) : Bool :=
  numbered.deletedAt.any fun last => decide (key ≤ last)

/-- A failure callback finds no transaction from before the last deletion. -/
def FailsFresh (numbered : NumberedWorld) : StatsEvent → Prop
  | .cbOnFail index => ∀ key, numbered.world.failKey index = some key →
      (numbered.world.handler.position key).isSome = true →
        numbered.predates key = false
  | _ => True

instance (numbered : NumberedWorld) (event : StatsEvent) :
    Decidable (numbered.FailsFresh event) :=
  match event with
  | .cbOnFail index => inferInstanceAs (Decidable
      (∀ key ∈ numbered.world.failKey index,
        (numbered.world.handler.position key).isSome = true →
          numbered.predates key = false))
  | .addNewRequestData _ | .requestsData _ | .cbOnSuccess _ | .deleteAllData
  | .rebuild _ => isTrue trivial

end Runs

section Numbers

variable {pack : List Data → Data} {numbered numbered' : NumberedWorld}
  {event : StatsEvent} {world' : StatsWorld}

structure Agrees (numbered : NumberedWorld) : Prop where
  records : numbered.world.handler.courier.map some =
    numbered.numbers.map (numbered.world.recorded[·]?)
  file : (loadRequestsData numbered.world.requestsFile).map some =
    numbered.filed.map (numbered.world.recorded[·]?)
  held : ∀ number ∈ numbered.numbers.held,
    number < numbered.world.recorded.length
  stored : ∀ number ∈ numbered.filed,
    number < numbered.world.recorded.length

def Stamped (cutoff : Nat) (predates : Int → Bool) (sent : List Transaction)
    (batches : List (List Nat)) : Prop :=
  ∀ (place : Nat) (transaction : Transaction) (batch : List Nat),
    sent[place]? = some transaction → batches[place]? = some batch →
      ∀ number ∈ batch, number < cutoff ↔ predates transaction.ID = true

structure Books (numbered : NumberedWorld) : Prop where
  wellFormed : numbered.world.WellFormed
  agrees : numbered.Agrees
  stamped : Stamped numbered.cutoff numbered.predates
    numbered.world.handler.mSentData numbered.numbers.sent
  recorded : numbered.cutoff ≤ numbered.world.recorded.length
  created : ∀ last, numbered.deletedAt = some last → last ≤ numbered.world.gID
  deleted : numbered.OnlyRecent

theorem Stamped.erase {cutoff : Nat} {predates : Int → Bool}
    {sent : List Transaction} {batches : List (List Nat)}
    (hstamped : Stamped cutoff predates sent batches) (index : Nat) :
    Stamped cutoff predates (sent.eraseIdx index) (batches.eraseIdx index) := by
  intro place transaction batch htransaction hbatch
  rw [List.getElem?_eraseIdx] at htransaction hbatch
  split at htransaction
  next hbefore =>
    rw [if_pos hbefore] at hbatch
    exact hstamped place transaction batch htransaction hbatch
  next hafter =>
    rw [if_neg hafter] at hbatch
    exact hstamped (place + 1) transaction batch htransaction hbatch

theorem Books.batch_exists (hbooks : numbered.Books) {place : Nat}
    {transaction : Transaction}
    (hplace : numbered.world.handler.mSentData[place]? = some transaction) :
    ∃ batch, numbered.numbers.sent[place]? = some batch ∧ batch ≠ [] := by
  have hsent := congrArg (fun courier => courier.sent[place]?)
    hbooks.agrees.records
  simp only [Courier.map, RequestStatsHandler.courier, List.getElem?_map,
    hplace, Option.map_some] at hsent
  obtain ⟨batch, hbatch, hsame⟩ := Option.map_eq_some_iff.mp hsent.symm
  refine ⟨batch, hbatch, ?_⟩
  rintro rfl
  have hfilled := (hbooks.wellFormed.handler.pending transaction
    (List.mem_of_getElem? hplace)).1
  exact hfilled (List.map_eq_nil_iff.mp hsame.symm)

theorem start_books (file : RequestsFile) (gID : Int) :
    (start file gID).Books where
  wellFormed := StatsWorld.start_wellFormed file gID
  agrees := by
    have hall : (loadRequestsData file).map some =
        (List.range (loadRequestsData file).length).map
          ((loadRequestsData file)[·]?) := by
      refine List.ext_getElem (by simp) fun index hleft hright => ?_
      simp
    refine ⟨?_, hall, ?_, ?_⟩
    · simpa [Courier.map, RequestStatsHandler.courier, start, StatsWorld.start,
        RequestStatsHandler.construct] using hall
    · simp [start, Courier.held, StatsWorld.start]
    · simp [start, StatsWorld.start]
  stamped place transaction batch htransaction := by
    simp [start, StatsWorld.start, RequestStatsHandler.construct]
      at htransaction
  recorded := Nat.zero_le _
  created last hlast := by simp [start] at hlast
  deleted number hnumber := Nat.zero_le _

theorem Books.add (hbooks : numbered.Books) {aRequestData : Data}
    (hdata : aRequestData.length ≠ 0)
    (hreact : numbered.react pack (.addNewRequestData aRequestData) =
      .ok numbered') : numbered'.Books := by
  obtain ⟨world', hworld, hnext⟩ := (Outcome.bind_eq_ok _ _ _).mp hreact
  obtain rfl := Except.ok.inj hnext
  have hwellFormed := hbooks.wellFormed.react
    (.addNewRequestData aRequestData) hdata hworld
  obtain ⟨file, hfile, rfl⟩ := StatsWorld.addNewRequestData_returns hdata hworld
  have hagrees := hbooks.agrees
  refine ⟨hwellFormed, ⟨?_, ?_, fun number hnumber => ?_,
    fun number hnumber => ?_⟩, hbooks.stamped, ?_, hbooks.created,
    fun number hnumber => ?_⟩
  · exact Courier.accept_numbered hagrees.records hagrees.held aRequestData
  · have hsame : numbered.filed.map
          ((numbered.world.recorded ++ [aRequestData])[·]?) =
        numbered.filed.map (numbered.world.recorded[·]?) :=
      List.map_congr_left fun number hnumber =>
        List.getElem?_append_left (hagrees.stored number hnumber)
    change (loadRequestsData file).map some =
      (numbered.filed ++ [numbered.world.recorded.length]).map
        ((numbered.world.recorded ++ [aRequestData])[·]?)
    rw [hfile, List.map_append, List.map_append, hagrees.file, hsame]
    simp
  · rw [List.length_append]
    obtain rfl | hold := Courier.mem_held_accept.mp hnumber
    · exact Nat.lt_succ_self _
    · exact Nat.lt_succ_of_lt (hagrees.held number hold)
  · rw [List.length_append]
    obtain hold | hnew := List.mem_append.mp hnumber
    · exact Nat.lt_succ_of_lt (hagrees.stored number hold)
    · rw [List.mem_singleton.mp hnew]
      exact Nat.lt_succ_self _
  · exact hbooks.recorded.trans (by simp)
  · have hcases : number ∈ numbered.numbers.queue ++ numbered.filed ∨
        number = numbered.world.recorded.length := by
      simp only [numbersAfter, filedAfter, builtBy, Courier.accept,
        List.mem_append, List.mem_singleton, List.not_mem_nil] at hnumber ⊢
      tauto
    obtain hold | rfl := hcases
    · exact hbooks.deleted number (List.mem_append_left _ hold)
    · exact hbooks.recorded

theorem Agrees.keep (hagrees : numbered.Agrees)
    (hrecorded : numbered'.world.recorded = numbered.world.recorded)
    (hrecords : numbered'.world.handler.courier.map some =
      numbered'.numbers.map (numbered.world.recorded[·]?))
    (hfile : (loadRequestsData numbered'.world.requestsFile).map some =
      numbered'.filed.map (numbered.world.recorded[·]?))
    (hheld : ∀ number ∈ numbered'.numbers.held,
      number ∈ numbered.numbers.held ++ numbered.filed)
    (hstored : ∀ number ∈ numbered'.filed,
      number ∈ numbered.numbers.held ++ numbered.filed) :
    numbered'.Agrees := by
  have hbound (number : Nat)
      (hnumber : number ∈ numbered.numbers.held ++ numbered.filed) :
      number < numbered.world.recorded.length := by
    obtain hold | hold := List.mem_append.mp hnumber
    · exact hagrees.held number hold
    · exact hagrees.stored number hold
  refine ⟨?_, ?_, ?_, ?_⟩ <;> rw [hrecorded]
  · exact hrecords
  · exact hfile
  · exact fun number hnumber => hbound number (hheld number hnumber)
  · exact fun number hnumber => hbound number (hstored number hnumber)

theorem Books.queued (hbooks : numbered.Books) (number : Nat)
    (hnumber : number ∈ numbered.numbers.queue) : numbered.cutoff ≤ number :=
  hbooks.deleted number
    (List.mem_append_left _ (List.mem_append_left _ hnumber))

theorem Books.filed (hbooks : numbered.Books) (number : Nat)
    (hnumber : number ∈ numbered.filed) : numbered.cutoff ≤ number :=
  hbooks.deleted number
    (List.mem_append_left _ (List.mem_append_right _ hnumber))

theorem onlyRecent_of
    (hqueue : ∀ number ∈ numbered.numbers.queue, numbered.cutoff ≤ number)
    (hfiled : ∀ number ∈ numbered.filed, numbered.cutoff ≤ number)
    (hbuilt : ∀ number ∈ numbered.built, numbered.cutoff ≤ number) :
    numbered.OnlyRecent := by
  intro number hnumber
  obtain hboth | hnumber := List.mem_append.mp hnumber
  · obtain hnumber | hnumber := List.mem_append.mp hboth
    · exact hqueue number hnumber
    · exact hfiled number hnumber
  · exact hbuilt number hnumber

theorem Books.stamped_dispatch (hbooks : numbered.Books) (count : Nat)
    (pending : List Data) :
    Stamped numbered.cutoff numbered.predates
      (numbered.world.handler.mSentData ++
        [⟨numbered.world.gID + 1, pending⟩])
      (numbered.numbers.dispatch count).sent := by
  have hlength : numbered.world.handler.mSentData.length =
      numbered.numbers.sent.length := by
    have hsent := congrArg (fun courier => courier.sent.length)
      hbooks.agrees.records
    simpa [Courier.map, RequestStatsHandler.courier] using hsent
  intro place transaction batch htransaction hbatch number hnumber
  unfold Courier.dispatch at hbatch
  by_cases hold : place < numbered.world.handler.mSentData.length
  · rw [List.getElem?_append_left hold] at htransaction
    rw [List.getElem?_append_left (hlength ▸ hold)] at hbatch
    exact hbooks.stamped place transaction batch htransaction hbatch number
      hnumber
  · rw [List.getElem?_append_right (Nat.le_of_not_lt hold)] at htransaction
    rw [List.getElem?_append_right (by omega)] at hbatch
    obtain rfl := List.mem_singleton.mp (List.mem_of_getElem? htransaction)
    obtain rfl := List.mem_singleton.mp (List.mem_of_getElem? hbatch)
    have hfresh := hbooks.queued number (List.mem_of_mem_take hnumber)
    refine iff_of_false (Nat.not_lt_of_le hfresh) ?_
    unfold predates
    cases hdeleted : numbered.deletedAt with
    | none => simp
    | some last =>
        have hlast := hbooks.created last hdeleted
        simp
        omega

theorem Books.request (hbooks : numbered.Books) {count : Int}
    (hcount : RequestStatsHandler.ValidCount count)
    (hreact : numbered.react pack (.requestsData count) = .ok numbered') :
    numbered'.Books := by
  obtain ⟨world', hworld, hnext⟩ := (Outcome.bind_eq_ok _ _ _).mp hreact
  obtain rfl := Except.ok.inj hnext
  have hwellFormed := hbooks.wellFormed.react (.requestsData count) hcount
    hworld
  have hagrees := hbooks.agrees
  have hbuilt (number : Nat)
      (hnumber : number ∈ numbered.builtBy world' (.requestsData count)) :
      numbered.cutoff ≤ number :=
    hbooks.queued number (List.mem_of_mem_take hnumber)
  obtain ⟨issued, ⟨hempty, hsame⟩ | ⟨hqueue, taken, hpos, hsame⟩⟩ :=
    StatsWorld.requestsData_returns hworld
  · have hnumbers : numbered.numbersAfter world' (.requestsData count) =
        numbered.numbers := if_pos hempty
    refine ⟨hwellFormed, hagrees.keep ?_ ?_ ?_ ?_
      fun number hnumber => List.mem_append_right _ hnumber, ?_, ?_, ?_,
      onlyRecent_of ?_ hbooks.filed hbuilt⟩
    · rw [hsame]
    · rw [hnumbers, hsame]
      exact hagrees.records
    · rw [hsame]
      exact hagrees.file
    · rw [hnumbers]
      exact fun number hnumber => List.mem_append_left _ hnumber
    · rw [hnumbers, hsame]
      exact hbooks.stamped
    · rw [hsame]
      exact hbooks.recorded
    · rw [hsame]
      exact hbooks.created
    · rw [hnumbers]
      exact hbooks.queued
  · have hnumbers : numbered.numbersAfter world' (.requestsData count) =
        numbered.numbers.dispatch (numbered.taken world') :=
      if_neg (by simp [hqueue])
    have hcourier : world'.handler.courier =
        numbered.world.handler.courier.dispatch taken := by
      rw [hsame]
      simp [RequestStatsHandler.courier, Courier.dispatch]
    have hdispatch : world'.handler.courier =
        numbered.world.handler.courier.dispatch (numbered.taken world') := by
      have hagain := numbered.world.handler.courier.dispatch_eq taken
      rw [← hcourier] at hagain
      exact hagain.symm
    have hheld := numbered.numbers.held_dispatch (numbered.taken world')
    refine ⟨hwellFormed, hagrees.keep ?_ ?_ ?_ ?_
      fun number hnumber => List.mem_append_right _ hnumber, ?_, ?_, ?_,
      onlyRecent_of ?_ hbooks.filed hbuilt⟩
    · rw [hsame]
    · rw [hnumbers, hdispatch, Courier.map_dispatch, Courier.map_dispatch,
        hagrees.records]
    · rw [hsame]
      exact hagrees.file
    · rw [hnumbers]
      exact fun number hnumber =>
        List.mem_append_left _ (hheld.mem_iff.mp hnumber)
    · rw [hnumbers]
      generalize numbered.taken world' = size
      rw [hsame]
      exact hbooks.stamped_dispatch size _
    · rw [hsame]
      exact hbooks.recorded
    · intro last hlast
      have hbefore := hbooks.created last hlast
      rw [hsame]
      exact hbefore.trans (by simp)
    · rw [hnumbers]
      exact fun number hnumber =>
        hbooks.queued number (List.mem_of_mem_drop hnumber)

theorem Books.idle (hbooks : numbered.Books) :
    Books { numbered with packed := [], built := [] } :=
  ⟨hbooks.wellFormed, ⟨hbooks.agrees.records, hbooks.agrees.file,
      hbooks.agrees.held, hbooks.agrees.stored⟩,
    hbooks.stamped, hbooks.recorded, hbooks.created,
    onlyRecent_of hbooks.queued hbooks.filed (by simp)⟩

theorem packedBy_eq (world : StatsWorld) (count : Int) :
    numbered.packedBy world (.requestsData count) =
      (world.handler.courier.sent.drop
        numbered.world.handler.courier.sent.length).flatten := by
  simp [packedBy, RequestStatsHandler.courier, List.flatMap, List.map_drop]

theorem Agrees.batch (hagrees : numbered.Agrees)
    (hreact : numbered.react pack event = .ok numbered') :
    numbered'.packed.map some =
      numbered'.built.map (numbered'.world.recorded[·]?) := by
  obtain ⟨world', hworld, hnext⟩ := (Outcome.bind_eq_ok _ _ _).mp hreact
  obtain rfl := Except.ok.inj hnext
  cases event with
  | requestsData count =>
      obtain ⟨⟨handle, handler, gID⟩, hrequests, hissued⟩ :=
        (Outcome.bind_eq_ok _ _ _).mp hworld
      obtain rfl := Except.ok.inj hissued
      obtain ⟨taken, hpos, hcourier⟩ :=
        RequestStatsHandler.requestsData_courier hrequests
      have hafter : handler.courier =
          if numbered.world.handler.courier.queue.isEmpty then
            numbered.world.handler.courier
          else numbered.world.handler.courier.dispatch taken := hcourier
      obtain ⟨-, -, hbatch⟩ := Courier.dispatched hpos hafter rfl
      have hqueue : numbered.world.handler.courier.queue.map some =
          numbered.numbers.queue.map (numbered.world.recorded[·]?) :=
        congrArg Courier.queue hagrees.records
      dsimp only
      rw [packedBy_eq]
      dsimp only
      rw [hbatch, List.map_take, hqueue]
      exact (List.map_take ..).symm
  | _ => rfl

theorem Agrees.queue (hagrees : numbered.Agrees) :
    numbered.world.handler.mRequestsDataVector.map some =
      numbered.numbers.queue.map (numbered.world.recorded[·]?) :=
  congrArg Courier.queue hagrees.records

theorem Books.succeed (hbooks : numbered.Books) {index : Nat}
    (hindex : index < numbered.world.issued.length)
    (hreact : numbered.react pack (.cbOnSuccess index) = .ok numbered') :
    numbered'.Books := by
  obtain ⟨world', hworld, hnext⟩ := (Outcome.bind_eq_ok _ _ _).mp hreact
  obtain rfl := Except.ok.inj hnext
  have hwellFormed := hbooks.wellFormed.react (.cbOnSuccess index) hindex hworld
  have hagrees := hbooks.agrees
  cases hkey : numbered.world.successKey index with
  | none =>
      have hsame : world' = numbered.world := by
        simp only [StatsWorld.react, hkey] at hworld
        exact (Except.ok.inj hworld).symm
      have hnumbers : numbered.numbersAfter world' (.cbOnSuccess index) =
          numbered.numbers := by
        simp [numbersAfter, position, hkey]
      have hfiled : numbered.filedAfter (.cbOnSuccess index) =
          numbered.filed := by
        simp [filedAfter, hkey]
      rw [hnumbers, hfiled, hsame]
      exact hbooks.idle
  | some key =>
      obtain ⟨file, acknowledged, hfile, hsame⟩ :=
        StatsWorld.cbOnSuccess_returns hbooks.wellFormed hkey hworld
      have hfiled : numbered.filedAfter (.cbOnSuccess index) =
          numbered.numbers.queue := by
        simp [filedAfter, hkey]
      have hnumbers : numbered.numbersAfter world' (.cbOnSuccess index) =
          match numbered.world.handler.position key with
          | none => numbered.numbers
          | some place => numbered.numbers.settle place := by
        simp [numbersAfter, position, hkey]
      have hqueue : (numbered.numbersAfter world'
          (.cbOnSuccess index)).queue = numbered.numbers.queue := by
        rw [hnumbers]
        split <;> rfl
      refine ⟨hwellFormed, hagrees.keep ?_ ?_ ?_ ?_ ?_, ?_, ?_, ?_,
        onlyRecent_of ?_ ?_ (by simp [builtBy])⟩
      · rw [hsame]
      · rw [hnumbers, hsame]
        cases numbered.world.handler.position key with
        | none => exact hagrees.records
        | some place =>
            dsimp only
            rw [Courier.map_settle, ← hagrees.records, ← Courier.map_settle]
            simp [RequestStatsHandler.courier, Courier.settle,
              List.eraseIdx_map]
      · rw [hfiled, hsame, hfile]
        exact hagrees.queue
      · rw [hnumbers]
        intro number hnumber
        refine List.mem_append_left _ ?_
        split at hnumber
        next => exact hnumber
        next place _ =>
          exact (numbered.numbers.held_settle place).subset hnumber
      · rw [hfiled]
        exact fun number hnumber =>
          List.mem_append_left _ (List.mem_append_left _ hnumber)
      · rw [hnumbers, hsame]
        cases numbered.world.handler.position key with
        | none => exact hbooks.stamped
        | some place => exact hbooks.stamped.erase place
      · rw [hsame]
        exact hbooks.recorded
      · rw [hsame]
        exact hbooks.created
      · rw [hqueue]
        exact hbooks.queued
      · rw [hfiled]
        exact hbooks.queued

theorem position_transaction {key : Int} {place : Nat}
    (hposition : numbered.world.handler.position key = some place) :
    ∃ transaction,
      numbered.world.handler.mSentData[place]? = some transaction ∧
        transaction.ID = key := by
  obtain ⟨hplace, hfound, -⟩ := List.findIdx?_eq_some_iff_getElem.mp hposition
  refine ⟨numbered.world.handler.mSentData[place],
    List.getElem?_eq_getElem hplace, ?_⟩
  exact (eq_of_beq hfound).symm

theorem Books.batch_stamped (hbooks : numbered.Books) {key : Int} {place : Nat}
    (hposition : numbered.world.handler.position key = some place) :
    numbered.numbers.batch place ≠ [] ∧
      ∀ number ∈ numbered.numbers.batch place,
        number < numbered.cutoff ↔ numbered.predates key = true := by
  obtain ⟨transaction, htransaction, rfl⟩ := position_transaction hposition
  obtain ⟨batch, hbatch, hfilled⟩ := hbooks.batch_exists htransaction
  have hsame : numbered.numbers.batch place = batch := by
    rw [Courier.batch, hbatch, Option.getD_some]
  rw [hsame]
  exact ⟨hfilled, hbooks.stamped place transaction batch htransaction hbatch⟩

theorem Books.fail (hbooks : numbered.Books) {index : Nat}
    (hindex : index < numbered.world.issued.length)
    (hfresh : numbered.FailsFresh (.cbOnFail index))
    (hreact : numbered.react pack (.cbOnFail index) = .ok numbered') :
    numbered'.Books := by
  obtain ⟨world', hworld, hnext⟩ := (Outcome.bind_eq_ok _ _ _).mp hreact
  obtain rfl := Except.ok.inj hnext
  have hwellFormed := hbooks.wellFormed.react (.cbOnFail index) hindex hworld
  have hagrees := hbooks.agrees
  cases hkey : numbered.world.failKey index with
  | none =>
      have hsame : world' = numbered.world := by
        simp only [StatsWorld.react, hkey] at hworld
        exact (Except.ok.inj hworld).symm
      have hnumbers : numbered.numbersAfter world' (.cbOnFail index) =
          numbered.numbers := by
        simp [numbersAfter, position, hkey]
      rw [hnumbers, hsame]
      exact hbooks.idle
  | some key =>
      obtain ⟨handler, hrestore, hsame⟩ :=
        StatsWorld.cbOnFail_returns hkey hworld
      have hhandler := RequestStatsHandler.restoreTransaction_eq hrestore
      have hcourier := RequestStatsHandler.restoreTransaction_courier hrestore
      cases hposition : numbered.world.handler.position key with
      | none =>
          have hnumbers : numbered.numbersAfter world' (.cbOnFail index) =
              numbered.numbers := by
            simp [numbersAfter, position, hkey, hposition]
          rw [hposition] at hhandler
          rw [hnumbers, hsame, hhandler]
          exact hbooks.idle
      | some place =>
          have hnumbers : numbered.numbersAfter world' (.cbOnFail index) =
              numbered.numbers.giveBack place := by
            simp [numbersAfter, position, hkey, hposition]
          have hlater : numbered.predates key = false :=
            hfresh key hkey (by rw [hposition]; rfl)
          obtain ⟨-, hstamped⟩ := hbooks.batch_stamped hposition
          rw [hposition] at hhandler hcourier
          refine ⟨hwellFormed, hagrees.keep ?_ ?_ ?_ ?_ ?_, ?_, ?_, ?_,
            onlyRecent_of ?_ hbooks.filed (by simp [builtBy])⟩
          · rw [hsame]
          · rw [hnumbers, hsame, Courier.map_giveBack, ← hagrees.records,
              ← Courier.map_giveBack]
            exact congrArg (Courier.map some) hcourier
          · rw [hsame]
            exact hagrees.file
          · rw [hnumbers]
            exact fun number hnumber => List.mem_append_left _
              ((numbered.numbers.held_giveBack place).mem_iff.mp hnumber)
          · exact fun number hnumber => List.mem_append_right _ hnumber
          · rw [hnumbers, hsame, hhandler]
            exact hbooks.stamped.erase place
          · rw [hsame]
            exact hbooks.recorded
          · rw [hsame]
            exact hbooks.created
          · rw [hnumbers]
            intro number hnumber
            obtain hold | hback := List.mem_append.mp hnumber
            · exact hbooks.queued number hold
            · refine Nat.le_of_not_lt fun hold => ?_
              rw [(hstamped number hback).mp hold] at hlater
              cases hlater

theorem Books.fail_stale (hbooks : numbered.Books) {index : Nat}
    (hstale : ¬ numbered.FailsFresh (.cbOnFail index))
    (hreact : numbered.react pack (.cbOnFail index) = .ok numbered') :
    ¬ numbered'.OnlyRecent := by
  obtain ⟨world', hworld, hnext⟩ := (Outcome.bind_eq_ok _ _ _).mp hreact
  obtain rfl := Except.ok.inj hnext
  intro hdeleted
  apply hstale
  intro key hkey hfound
  obtain ⟨place, hposition⟩ := Option.isSome_iff_exists.mp hfound
  obtain ⟨hfilled, hstamped⟩ := hbooks.batch_stamped hposition
  obtain ⟨number, hnumber⟩ := List.exists_mem_of_ne_nil _ hfilled
  have hnumbers : numbered.numbersAfter world' (.cbOnFail index) =
      numbered.numbers.giveBack place := by
    simp [numbersAfter, position, hkey, hposition]
  have hqueued : number ∈ (numbered.numbersAfter world'
      (.cbOnFail index)).queue := by
    rw [hnumbers]
    exact List.mem_append_right _ hnumber
  have hlater := hdeleted number
    (List.mem_append_left _ (List.mem_append_left _ hqueued))
  rw [Bool.eq_false_iff]
  intro hpredates
  have hearlier := (hstamped number hnumber).mpr hpredates
  exact absurd hearlier (Nat.not_lt_of_le hlater)

theorem Books.delete (hbooks : numbered.Books)
    (hreact : numbered.react pack .deleteAllData = .ok numbered') :
    numbered'.Books := by
  obtain ⟨world', hworld, hnext⟩ := (Outcome.bind_eq_ok _ _ _).mp hreact
  obtain rfl := Except.ok.inj hnext
  obtain rfl := Except.ok.inj hworld
  obtain ⟨⟨hqueued, hpending, hdistinct, hdrawn⟩, hissued, hasked, hbounded⟩ :=
    hbooks.wellFormed
  refine ⟨⟨⟨by simp, hpending, hdistinct, hdrawn⟩, hissued, hasked, hbounded⟩,
    hbooks.agrees.keep rfl ?_ rfl ?_ (by simp [filedAfter]), ?_,
    Nat.le_refl _, ?_, onlyRecent_of (by simp [numbersAfter])
      (by simp [filedAfter]) (by simp [builtBy])⟩
  · have hsent := congrArg Courier.sent hbooks.agrees.records
    simpa [numbersAfter, Courier.map, RequestStatsHandler.courier] using hsent
  · intro number hnumber
    simp only [numbersAfter, Courier.held, List.nil_append] at hnumber
    exact List.mem_append_left _ (List.mem_append_right _ hnumber)
  · intro place transaction batch htransaction hbatch number hnumber
    refine iff_of_true ?_ ?_
    · refine hbooks.agrees.held number (List.mem_append_right _ ?_)
      exact List.mem_flatten.mpr
        ⟨batch, List.mem_of_getElem? hbatch, hnumber⟩
    · have hbefore := hdrawn transaction (List.mem_of_getElem? htransaction)
      simpa [predates] using hbefore
  · rintro last ⟨⟩
    exact Int.le_refl _

theorem Books.rebuild (hbooks : numbered.Books) {newProcess : Bool}
    (hreact : numbered.react pack (.rebuild newProcess) = .ok numbered') :
    numbered'.Books := by
  obtain ⟨world', hworld, hnext⟩ := (Outcome.bind_eq_ok _ _ _).mp hreact
  obtain rfl := Except.ok.inj hnext
  have hwellFormed := hbooks.wellFormed.react (.rebuild newProcess) trivial
    hworld
  obtain ⟨-, -, hsame⟩ := (Outcome.bind_eq_ok _ _ _).mp hworld
  obtain rfl := Except.ok.inj hsame
  refine ⟨hwellFormed, hbooks.agrees.keep rfl ?_ hbooks.agrees.file ?_
    (fun number hnumber => List.mem_append_right _ hnumber), ?_,
    hbooks.recorded, ?_, onlyRecent_of hbooks.filed hbooks.filed
      (by simp [builtBy])⟩
  · have hfile := hbooks.agrees.file
    simpa [numbersAfter, Courier.map, RequestStatsHandler.courier,
      RequestStatsHandler.construct] using hfile
  · intro number hnumber
    simp only [numbersAfter, Courier.held, List.flatten_nil, List.append_nil]
      at hnumber
    exact List.mem_append_right _ hnumber
  · intro place transaction batch htransaction
    simp [RequestStatsHandler.construct] at htransaction
  · rintro last ⟨⟩

theorem Books.next (hbooks : numbered.Books)
    (hadmitted : numbered.Admitted event) (hfresh : numbered.FailsFresh event)
    (hreact : numbered.react pack event = .ok numbered') :
    numbered'.Books := by
  cases event with
  | deleteAllData => exact hbooks.delete hreact
  | rebuild newProcess => exact hbooks.rebuild hreact
  | addNewRequestData aRequestData =>
      exact hbooks.add (hadmitted.resolve_left (by simp)) hreact
  | requestsData count =>
      exact hbooks.request (hadmitted.resolve_left (by simp)) hreact
  | cbOnSuccess index =>
      exact hbooks.succeed (hadmitted.resolve_left (by simp)) hreact
  | cbOnFail index =>
      exact hbooks.fail (hadmitted.resolve_left (by simp)) hfresh hreact

theorem Books.final (hbooks : numbered.Books)
    (hbatch : numbered.packed.map some =
      numbered.built.map (numbered.world.recorded[·]?)) :
    numbered.DeletedForGood :=
  ⟨hbooks.agrees.queue, hbooks.agrees.file, hbatch, hbooks.deleted⟩

/--
Deleting the statistics is final in exactly the runs in which no failure
callback finds a transaction that was in flight at the last deletion.
-/
theorem deletion_final_iff {trail : List (NumberedWorld × StatsEvent)}
    (path : (system pack).Path Admitted trail numbered) :
    EventSystem.Throughout DeletedForGood trail numbered ↔
      EventSystem.Obeys FailsFresh trail := by
  refine path.throughout_iff_obeys (fun numbered => numbered.Books ∧
    numbered.packed.map some =
      numbered.built.map (numbered.world.recorded[·]?)) ?_ ?_ ?_
      fun _ hbooks => hbooks.1.final hbooks.2
  · rintro _ ⟨file, gID, rfl⟩
    exact ⟨start_books file gID, rfl⟩
  · intro numbered event numbered' hbooks hadmitted hfresh hstep
    have hreact := (Outcome.toOption_eq_some _ _).mp hstep
    exact ⟨hbooks.1.next hadmitted hfresh hreact,
      hbooks.1.agrees.batch hreact⟩
  · intro numbered event numbered' hbooks _ hstale hstep hdeleted
    have hreact := (Outcome.toOption_eq_some _ _).mp hstep
    cases event with
    | cbOnFail index =>
        exact hbooks.1.fail_stale hstale hreact hdeleted.recent
    | _ => exact absurd trivial hstale

end Numbers

section UploadInFlight

def deletedInFlight : List StatsEvent :=
  [.addNewRequestData ⟨[1]⟩, .requestsData 1, .addNewRequestData ⟨[2]⟩,
    .deleteAllData, .cbOnSuccess 0, .addNewRequestData ⟨[3]⟩, .requestsData 1,
    .cbOnFail 1, .requestsData 1]

theorem deletion_final_iff_delivered :
    ∃ trail numbered, (system fun _ => ⟨[]⟩).Path Admitted trail numbered ∧
      trail.map Prod.snd = deletedInFlight ∧
      EventSystem.Throughout DeletedForGood trail numbered ∧
      numbered.packed = [⟨[3]⟩] ∧ numbered.cutoff = 2 := by
  obtain ⟨trail, numbered, path, hfresh, hevents, hlast⟩ :=
    EventSystem.exists_run (system fun _ => ⟨[]⟩) Admitted FailsFresh
      (s := start none 0) deletedInFlight
      (fun numbered => numbered.packed = [⟨[3]⟩] ∧ numbered.cutoff = 2)
      ⟨none, 0, rfl⟩ (by decide)
  exact ⟨trail, numbered, path, hevents, (deletion_final_iff path).mpr hfresh,
    of_decide_eq_true hlast⟩

def failedAfterDeletion : NumberedWorld where
  world :=
    ⟨⟨[⟨[1]⟩], []⟩, 1, none, [⟨⟨some 1, some 1, ⟨[]⟩⟩, 1⟩], [⟨[1]⟩], []⟩
  numbers := ⟨[0], []⟩
  filed := []
  packed := []
  built := []
  cutoff := 1
  deletedAt := some 1

theorem failedAfterDeletion_restored :
    (system fun _ => ⟨[]⟩).Reachable Admitted failedAfterDeletion ∧
      failedAfterDeletion.world.handler.mRequestsDataVector = [⟨[1]⟩] ∧
      ¬ failedAfterDeletion.DeletedForGood := by
  refine ⟨?_, rfl, fun hdeleted => ?_⟩
  · exact EventSystem.Reachable.replay
      [.addNewRequestData ⟨[1]⟩, .requestsData 1, .deleteAllData, .cbOnFail 0]
      (.start ⟨none, 0, rfl⟩) rfl
  · exact absurd (hdeleted.recent 0 (by decide)) (by decide)

end UploadInFlight

end NumberedWorld

end RevSDK
