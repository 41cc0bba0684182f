import RevSDK.Quic.PriorityWriteScheduler

/-!
# The scheduler keeps one sorted queue

`Roster` says what the scheduler is for: a queue of ready streams, sorted by
priority, in which a stream is put behind or before those of its priority.
Whatever is called, the scheduler answers as the roster does.
-/

namespace RevSDK

open RevSDK.Foundation

@[ext]
structure Roster (ι : Type) where
  priority : ι → Option Nat := fun _ => none
  queue : List ι := []

inductive SchedulerCall (ι : Type) where
  | registerStream (streamId : ι) (priority : Nat)
  | unregisterStream (streamId : ι)
  | updateStreamPriority (streamId : ι) (priority : Nat)
  | markStreamReady (streamId : ι) (addToFront : Bool)
  | markStreamNotReady (streamId : ι)
  | popNextReadyStream

def Roster.rank {ι : Type} (roster : Roster ι) (streamId : ι) : Nat :=
  (roster.priority streamId).getD kV3LowestPriority

def PriorityWriteScheduler.roster {ι : Type}
    (scheduler : PriorityWriteScheduler ι) : Roster ι where
  priority streamId := (scheduler.streamInfos streamId).map StreamInfo.priority
  queue := flat scheduler.readyLists (kV3LowestPriority + 1)

/-- An update, unlike a registration, does not clamp the priority. -/
def SchedulerCall.Suits {ι : Type} : SchedulerCall ι → Prop
  | .updateStreamPriority _ priority => priority ≤ kV3LowestPriority
  | _ => True

section Calls

variable {ι : Type} [DecidableEq ι] [Zero ι]

namespace Roster

def prioritise (roster : Roster ι) (streamId : ι) (priority : Option Nat) :
    Roster ι :=
  { roster with
    priority := Function.update roster.priority streamId priority }

def remove (roster : Roster ι) (streamId : ι) : Roster ι :=
  { roster with queue := roster.queue.erase streamId }

def enqueue (roster : Roster ι) (streamId : ι) (addToFront : Bool) :
    Roster ι :=
  { roster with
    queue :=
      if addToFront then enqueueFront roster.rank streamId roster.queue
      else enqueueBack roster.rank streamId roster.queue }

def perform (roster : Roster ι) : SchedulerCall ι → Option ι × Roster ι
  | .registerStream streamId priority =>
      (none, if (roster.priority streamId).isSome then roster
        else roster.prioritise streamId
          (some (min priority kV3LowestPriority)))
  | .unregisterStream streamId =>
      (none, (roster.remove streamId).prioritise streamId none)
  | .updateStreamPriority streamId priority =>
      (none, if roster.priority streamId = none ∨
          roster.priority streamId = some priority then roster
        else if streamId ∈ roster.queue then
          ((roster.remove streamId).prioritise streamId
            (some priority)).enqueue streamId false
        else roster.prioritise streamId (some priority))
  | .markStreamReady streamId addToFront =>
      (none, if roster.priority streamId = none ∨ streamId ∈ roster.queue then
          roster
        else roster.enqueue streamId addToFront)
  | .markStreamNotReady streamId => (none, roster.remove streamId)
  | .popNextReadyStream =>
      (some (roster.queue.headD 0),
        { roster with queue := roster.queue.tail })

def run (roster : Roster ι) :
    List (SchedulerCall ι) → List (Option ι) × Roster ι
  | [] => ([], roster)
  | call :: calls =>
      let (reply, roster) := roster.perform call
      let (replies, roster) := run roster calls
      (reply :: replies, roster)

end Roster

namespace PriorityWriteScheduler

def perform (scheduler : PriorityWriteScheduler ι) :
    SchedulerCall ι → Outcome (Option ι × PriorityWriteScheduler ι)
  | .registerStream streamId priority =>
      return (none, scheduler.registerStream streamId priority)
  | .unregisterStream streamId => do
      return (none, ← scheduler.unregisterStream streamId)
  | .updateStreamPriority streamId priority => do
      return (none, ← scheduler.updateStreamPriority streamId priority)
  | .markStreamReady streamId addToFront => do
      return (none, ← scheduler.markStreamReady streamId addToFront)
  | .markStreamNotReady streamId => do
      return (none, ← scheduler.markStreamNotReady streamId)
  | .popNextReadyStream =>
      let (streamId, scheduler) := scheduler.popNextReadyStream
      return (some streamId, scheduler)

def run (scheduler : PriorityWriteScheduler ι) :
    List (SchedulerCall ι) →
      Outcome (List (Option ι) × PriorityWriteScheduler ι)
  | [] => return ([], scheduler)
  | call :: calls => do
      let (reply, scheduler) ← scheduler.perform call
      let (replies, scheduler) ← run scheduler calls
      return (reply :: replies, scheduler)

end PriorityWriteScheduler

end Calls

namespace Roster

section Queues

variable {ι : Type} [DecidableEq ι] {streamId : ι}

theorem remove_of_not_mem {roster : Roster ι}
    (h : streamId ∉ roster.queue) : roster.remove streamId = roster := by
  unfold Roster.remove
  rw [List.erase_of_not_mem h]

theorem prioritise_eq {roster : Roster ι} {priority : Option Nat}
    (h : roster.priority streamId = priority) :
    roster.prioritise streamId priority = roster := by
  unfold Roster.prioritise
  rw [← h, Function.update_eq_self]

variable [Zero ι]

theorem markStreamReady_spec {roster : Roster ι}
    (addToFront : Bool) (hknown : roster.priority streamId ≠ none) :
    (roster.perform (.markStreamReady streamId addToFront)).2.priority =
        roster.priority ∧
      (∀ other,
        other ∈ (roster.perform
          (.markStreamReady streamId addToFront)).2.queue ↔
            other ∈ roster.queue ∨ other = streamId) ∧
      roster.queue.length ≤ (roster.perform
        (.markStreamReady streamId addToFront)).2.queue.length := by
  rw [Roster.perform]
  dsimp only
  by_cases hmem : streamId ∈ roster.queue
  · rw [if_pos (.inr hmem)]
    refine ⟨rfl, fun other => ⟨.inl, fun h => h.elim id ?_⟩, Nat.le_refl _⟩
    rintro rfl
    exact hmem
  · rw [if_neg (by simp [hknown, hmem])]
    have hperm : (roster.enqueue streamId addToFront).queue.Perm
        (streamId :: roster.queue) := by
      unfold Roster.enqueue
      dsimp only
      split
      · exact enqueueFront_perm _ _ _
      · exact enqueueBack_perm _ _ _
    refine ⟨rfl, fun other => ?_, ?_⟩
    · rw [hperm.mem_iff, List.mem_cons, or_comm]
    · rw [hperm.length_eq, List.length_cons]
      exact Nat.le_succ _

end Queues

end Roster

namespace PriorityWriteScheduler

theorem clampPriority_eq :
    clampPriority priority = min priority kV3LowestPriority := by
  unfold clampPriority kV3HighestPriority kV3LowestPriority
  split
  · omega
  · split <;> omega

section Order

variable {ι : Type}

structure Kept (scheduler : PriorityWriteScheduler ι) : Prop where
  listed : ∀ priority streamId,
    streamId ∈ scheduler.readyLists priority ↔
      scheduler.streamInfos streamId = some ⟨priority, true⟩
  nodup : ∀ priority, (scheduler.readyLists priority).Nodup
  priority_le : ∀ streamId streamInfo,
    scheduler.streamInfos streamId = some streamInfo →
      streamInfo.priority ≤ kV3LowestPriority

variable {scheduler : PriorityWriteScheduler ι} {streamId : ι}
  {priority : Nat} {streamInfo : StreamInfo}

theorem Kept.ranked (h : scheduler.Kept) :
    Ranked scheduler.roster.rank scheduler.readyLists := by
  intro priority streamId hmem
  have hinfo := (h.listed priority streamId).mp hmem
  simp [Roster.rank, roster, hinfo]

theorem Kept.mem_queue (h : scheduler.Kept) :
    streamId ∈ scheduler.roster.queue ↔
      ∃ priority, scheduler.streamInfos streamId = some ⟨priority, true⟩ := by
  unfold roster
  rw [mem_flat]
  constructor
  · rintro ⟨priority, -, hmem⟩
    exact ⟨priority, (h.listed priority streamId).mp hmem⟩
  · rintro ⟨priority, hinfo⟩
    have := h.priority_le streamId _ hinfo
    exact ⟨priority, Nat.lt_succ_of_le this,
      (h.listed priority streamId).mpr hinfo⟩

theorem Kept.queue_nodup (h : scheduler.Kept) :
    scheduler.roster.queue.Nodup :=
  h.ranked.nodup h.nodup

theorem Kept.not_mem (h : scheduler.Kept)
    (hidle : streamId ∉ scheduler.roster.queue) (priority : Nat) :
    streamId ∉ scheduler.readyLists priority :=
  fun hmem => hidle (h.mem_queue.mpr ⟨priority, (h.listed _ _).mp hmem⟩)

theorem Kept.idle (h : scheduler.Kept) (streamId : ι)
    (hinfo : ∀ priority,
      scheduler.streamInfos streamId ≠ some ⟨priority, true⟩) :
    streamId ∉ scheduler.roster.queue := by
  intro hmem
  obtain ⟨priority, hready⟩ := h.mem_queue.mp hmem
  exact hinfo priority hready

theorem kept_new : (({} : PriorityWriteScheduler ι)).Kept where
  listed priority streamId := by simp
  nodup priority := List.nodup_nil
  priority_le streamId streamInfo hinfo := by simp at hinfo

theorem numReadyStreams_eq :
    scheduler.numReadyStreams = scheduler.roster.queue.length := by
  unfold numReadyStreams roster flat
  rw [List.length_flatMap]

theorem hasReadyStreams_eq :
    scheduler.hasReadyStreams = !scheduler.roster.queue.isEmpty := by
  unfold hasReadyStreams roster flat
  rw [Bool.eq_iff_iff, List.any_eq_true, Bool.not_eq_true',
    List.isEmpty_eq_false_iff]
  simp [List.flatMap_eq_nil_iff]

theorem Kept.hasHigherPriorityReadyStream (h : scheduler.Kept) :
    scheduler.hasHigherPriorityReadyStream streamId = true ↔
      scheduler.roster.priority streamId ≠ none ∧
      ∃ other ∈ scheduler.roster.queue,
        scheduler.roster.rank other < scheduler.roster.rank streamId := by
  have hranked := h.ranked
  unfold PriorityWriteScheduler.hasHigherPriorityReadyStream
  cases hinfo : scheduler.streamInfos streamId with
  | none => simp [roster, hinfo]
  | some streamInfo =>
      have hrank : scheduler.roster.rank streamId = streamInfo.priority := by
        simp [Roster.rank, roster, hinfo]
      have hle := h.priority_le streamId _ hinfo
      rw [hrank]
      simp only [List.any_eq_true, List.mem_range, Bool.not_eq_true',
        List.isEmpty_eq_false_iff]
      constructor
      · rintro ⟨priority, hlt, hlist⟩
        obtain ⟨other, hmem⟩ := List.exists_mem_of_ne_nil _ hlist
        refine ⟨by simp [roster, hinfo], other,
          mem_flat.mpr ⟨priority, by omega, hmem⟩, ?_⟩
        rwa [hranked priority other hmem]
      · rintro ⟨-, other, hmem, hlt⟩
        obtain ⟨priority, -, hmem⟩ := mem_flat.mp hmem
        rw [hranked priority other hmem] at hlt
        exact ⟨priority, hlt, List.ne_nil_of_mem hmem⟩

variable [DecidableEq ι]

theorem Kept.relist (h : scheduler.Kept) {entries : List ι}
    {info : Option StreamInfo}
    (hothers : ∀ other, other ≠ streamId →
      (other ∈ entries ↔ other ∈ scheduler.readyLists priority))
    (hlisted : ∀ place,
      streamId ∈ Function.update scheduler.readyLists priority entries place ↔
        info = some ⟨place, true⟩)
    (hnodup : entries.Nodup)
    (hle : ∀ streamInfo, info = some streamInfo →
      streamInfo.priority ≤ kV3LowestPriority) :
    ((scheduler.setReadyList priority entries).setStreamInfo streamId
      info).Kept where
  listed place other := by
    unfold PriorityWriteScheduler.setStreamInfo
      PriorityWriteScheduler.setReadyList
    dsimp only
    by_cases hsame : other = streamId
    · subst hsame
      rw [Function.update_self, hlisted]
    · rw [Function.update_of_ne hsame, ← h.listed]
      by_cases hplace : place = priority
      · subst hplace
        rw [Function.update_self, hothers other hsame]
      · rw [Function.update_of_ne hplace]
  nodup place := by
    unfold PriorityWriteScheduler.setStreamInfo
      PriorityWriteScheduler.setReadyList
    dsimp only
    by_cases hplace : place = priority
    · subst hplace
      rwa [Function.update_self]
    · rw [Function.update_of_ne hplace]
      exact h.nodup place
  priority_le other streamInfo hother := by
    unfold PriorityWriteScheduler.setStreamInfo at hother
    dsimp only at hother
    by_cases hsame : other = streamId
    · subst hsame
      rw [Function.update_self] at hother
      exact hle _ hother
    · rw [Function.update_of_ne hsame] at hother
      exact h.priority_le other streamInfo hother

theorem Kept.setStreamInfo (h : scheduler.Kept)
    (hidle : streamId ∉ scheduler.roster.queue) {info : Option StreamInfo}
    (hinfo : ∀ streamInfo, info = some streamInfo →
      streamInfo.ready = false ∧ streamInfo.priority ≤ kV3LowestPriority) :
    (scheduler.setStreamInfo streamId info).Kept := by
  have hlists : scheduler.setReadyList 0 (scheduler.readyLists 0) =
      scheduler := by
    unfold PriorityWriteScheduler.setReadyList
    rw [Function.update_eq_self]
  rw [← hlists]
  refine h.relist (fun _ _ => Iff.rfl) (fun place => ?_) (h.nodup 0)
    fun streamInfo heq => (hinfo streamInfo heq).2
  rw [Function.update_eq_self]
  refine iff_of_false (h.not_mem hidle place) fun hready => ?_
  have := (hinfo _ hready).1
  contradiction

def unlist (scheduler : PriorityWriteScheduler ι) (streamId : ι)
    (priority : Nat) (info : Option StreamInfo) : PriorityWriteScheduler ι :=
  (scheduler.setReadyList priority
    ((scheduler.readyLists priority).erase streamId)).setStreamInfo streamId
      info

def enlist (scheduler : PriorityWriteScheduler ι) (streamId : ι)
    (priority : Nat) (addToFront : Bool) : PriorityWriteScheduler ι :=
  (scheduler.setReadyList priority
    (if addToFront then streamId :: scheduler.readyLists priority
      else scheduler.readyLists priority ++ [streamId])).setStreamInfo streamId
        (some ⟨priority, true⟩)

theorem Kept.unlist (h : scheduler.Kept)
    (hready : scheduler.streamInfos streamId = some ⟨priority, true⟩)
    (info : Option StreamInfo)
    (hinfo : ∀ streamInfo, info = some streamInfo →
      streamInfo.ready = false ∧ streamInfo.priority ≤ kV3LowestPriority) :
    (scheduler.unlist streamId priority info).Kept ∧
      (scheduler.unlist streamId priority info).roster.queue =
        scheduler.roster.queue.erase streamId := by
  have hmem := (h.listed priority streamId).mpr hready
  have hrank : scheduler.roster.rank streamId = priority :=
    h.ranked priority streamId hmem
  have hle := h.priority_le streamId _ hready
  refine ⟨h.relist (fun other hother => List.mem_erase_of_ne hother)
    (fun place => ?_) ((h.nodup priority).erase streamId)
    (fun streamInfo heq => (hinfo streamInfo heq).2), ?_⟩
  · refine iff_of_false ?_ fun hnext => ?_
    · by_cases hplace : place = priority
      · subst hplace
        rw [Function.update_self]
        exact (h.nodup place).not_mem_erase
      · rw [Function.update_of_ne hplace, h.listed, hready]
        simpa using Ne.symm hplace
    · have := (hinfo _ hnext).1
      contradiction
  · subst hrank
    exact h.ranked.flat_erase (Nat.lt_succ_of_le hle) hmem

theorem rank_enlist (streamId : ι) (priority : Nat) (addToFront : Bool) :
    (scheduler.enlist streamId priority addToFront).roster.rank streamId =
      priority := by
  simp [Roster.rank, roster, PriorityWriteScheduler.enlist,
    PriorityWriteScheduler.setStreamInfo]

theorem Kept.ranked_enlist (h : scheduler.Kept)
    (hnone : ∀ place, streamId ∉ scheduler.readyLists place)
    (priority : Nat) (addToFront : Bool) :
    Ranked (scheduler.enlist streamId priority addToFront).roster.rank
      scheduler.readyLists := by
  intro place other hmem
  have hother : other ≠ streamId := fun hsame => hnone place (hsame ▸ hmem)
  rw [← h.ranked place other hmem]
  simp [Roster.rank, roster, PriorityWriteScheduler.enlist,
    PriorityWriteScheduler.setStreamInfo, hother,
    PriorityWriteScheduler.setReadyList]

theorem Kept.enlist (h : scheduler.Kept)
    (hidle : streamId ∉ scheduler.roster.queue)
    (hpriority : priority ≤ kV3LowestPriority) (addToFront : Bool) :
    (scheduler.enlist streamId priority addToFront).Kept ∧
      (scheduler.enlist streamId priority addToFront).roster.queue =
        if addToFront then
          enqueueFront
            (scheduler.enlist streamId priority addToFront).roster.rank
            streamId scheduler.roster.queue
        else
          enqueueBack
            (scheduler.enlist streamId priority addToFront).roster.rank
            streamId scheduler.roster.queue := by
  have hnone := h.not_mem hidle
  have hrank : (scheduler.enlist streamId priority addToFront).roster.rank
      streamId = priority := rank_enlist streamId priority addToFront
  have hranked := h.ranked_enlist hnone priority addToFront
  have hlist : ∀ other, other ∈ (if addToFront then
      streamId :: scheduler.readyLists priority
        else scheduler.readyLists priority ++ [streamId]) ↔
      other = streamId ∨ other ∈ scheduler.readyLists priority := by
    intro other
    split <;> simp [or_comm]
  refine ⟨h.relist (fun other hother => ?_) (fun place => ?_) ?_
    (by rintro _ ⟨⟩; exact hpriority), ?_⟩
  · rw [hlist]
    simp [hother]
  · by_cases hplace : place = priority
    · subst hplace
      rw [Function.update_self, hlist]
      simp
    · rw [Function.update_of_ne hplace]
      refine iff_of_false (hnone place) ?_
      simpa using Ne.symm hplace
  · have hnodup := List.nodup_cons.mpr ⟨hnone priority, h.nodup priority⟩
    split
    · exact hnodup
    · exact (List.perm_append_singleton _ _).nodup_iff.mpr hnodup
  · have hlt : (scheduler.enlist streamId priority addToFront).roster.rank
        streamId < kV3LowestPriority + 1 := by
      rw [hrank]
      exact Nat.lt_succ_of_le hpriority
    cases addToFront with
    | true =>
        have hpush := hranked.flat_pushFront hlt
        rw [hrank] at hpush
        exact hpush
    | false =>
        have hpush := hranked.flat_pushBack hlt
        rw [hrank] at hpush
        exact hpush

theorem roster_setStreamInfo (info : Option StreamInfo) :
    (scheduler.setStreamInfo streamId info).roster =
      scheduler.roster.prioritise streamId (info.map StreamInfo.priority) := by
  unfold roster Roster.prioritise PriorityWriteScheduler.setStreamInfo
  dsimp only
  congr 1
  exact Function.comp_update (Option.map StreamInfo.priority) _ _ _

theorem roster_unlist (info : Option StreamInfo) :
    (scheduler.unlist streamId priority info).roster.priority =
      (scheduler.roster.prioritise streamId
        (info.map StreamInfo.priority)).priority :=
  Function.comp_update (Option.map StreamInfo.priority) _ _ _

theorem roster_enlist (addToFront : Bool) :
    (scheduler.enlist streamId priority addToFront).roster.priority =
      (scheduler.roster.prioritise streamId (some priority)).priority :=
  Function.comp_update (Option.map StreamInfo.priority) _ _ _

theorem Kept.erase (h : scheduler.Kept)
    (hready : scheduler.streamInfos streamId = some ⟨priority, true⟩) :
    scheduler.erase streamId priority = .ok (scheduler.setReadyList priority
      ((scheduler.readyLists priority).erase streamId)) := by
  have hmem := (h.listed priority streamId).mpr hready
  unfold PriorityWriteScheduler.erase readyList
  rw [if_pos (h.priority_le streamId _ hready)]
  simp only [pure, Except.pure, Outcome.ok_bind]
  rw [List.contains_iff_mem.mpr hmem]
  rfl

theorem Kept.move (h : scheduler.Kept) {streamId : ι} {old priority : Nat}
    (hready : scheduler.streamInfos streamId = some ⟨old, true⟩)
    (hpriority : priority ≤ kV3LowestPriority) :
    ((scheduler.unlist streamId old (some ⟨priority, false⟩)).enlist streamId
        priority false).Kept ∧
      ((scheduler.unlist streamId old (some ⟨priority, false⟩)).enlist streamId
        priority false).roster =
        ((scheduler.roster.remove streamId).prioritise streamId
          (some priority)).enqueue streamId false := by
  obtain ⟨hkept, hqueue⟩ := h.unlist hready (some ⟨priority, false⟩)
    (by rintro _ ⟨⟩; exact ⟨rfl, hpriority⟩)
  obtain ⟨hlisted, hplace⟩ := hkept.enlist
    (by rw [hqueue]; exact h.queue_nodup.not_mem_erase) hpriority false
  have hrank : ((scheduler.unlist streamId old
      (some ⟨priority, false⟩)).enlist streamId priority
        false).roster.priority =
      ((scheduler.roster.remove streamId).prioritise streamId
        (some priority)).priority := by
    rw [roster_enlist]
    unfold Roster.prioritise
    dsimp only
    rw [roster_unlist]
    exact Function.update_idem _ _ _
  refine ⟨hlisted, Roster.ext hrank ?_⟩
  rw [hplace, hqueue]
  unfold Roster.rank
  rw [hrank]
  rfl

section Calls

variable [Zero ι]

theorem Kept.registerStream (h : scheduler.Kept) (streamId : ι)
    (priority : Nat) :
    (scheduler.registerStream streamId priority).Kept ∧
      (scheduler.registerStream streamId priority).roster =
        (scheduler.roster.perform (.registerStream streamId priority)).2 := by
  unfold PriorityWriteScheduler.registerStream Roster.perform
  dsimp only
  rw [show scheduler.roster.priority streamId =
    (scheduler.streamInfos streamId).map StreamInfo.priority from rfl]
  cases hinfo : scheduler.streamInfos streamId with
  | some streamInfo => exact ⟨h, rfl⟩
  | none =>
      rw [clampPriority_eq]
      refine ⟨h.setStreamInfo (h.idle streamId (by simp [hinfo])) ?_,
        roster_setStreamInfo _⟩
      rintro _ ⟨⟩
      exact ⟨rfl, Nat.min_le_right _ _⟩

theorem Kept.unregisterStream (h : scheduler.Kept) (streamId : ι) :
    ∃ next, scheduler.unregisterStream streamId = .ok next ∧ next.Kept ∧
      next.roster =
        (scheduler.roster.perform (.unregisterStream streamId)).2 := by
  unfold PriorityWriteScheduler.unregisterStream Roster.perform
  dsimp only
  cases hinfo : scheduler.streamInfos streamId with
  | none =>
      have hidle := h.idle streamId (by simp [hinfo])
      rw [Roster.remove_of_not_mem hidle]
      exact ⟨scheduler, rfl, h,
        (Roster.prioritise_eq (by simp [roster, hinfo])).symm⟩
  | some streamInfo =>
      obtain ⟨priority, ready⟩ := streamInfo
      cases ready with
      | true =>
          obtain ⟨hkept, hqueue⟩ := h.unlist hinfo none nofun
          refine ⟨scheduler.unlist streamId priority none, ?_, hkept,
            Roster.ext (roster_unlist none) hqueue⟩
          dsimp only
          rw [if_pos rfl, h.erase hinfo]
          rfl
      | false =>
          have hidle := h.idle streamId (by simp [hinfo])
          refine ⟨scheduler.setStreamInfo streamId none, rfl,
            h.setStreamInfo hidle nofun, ?_⟩
          rw [roster_setStreamInfo, Roster.remove_of_not_mem hidle]
          rfl

theorem Kept.markStreamReady (h : scheduler.Kept) (streamId : ι)
    (addToFront : Bool) :
    ∃ next, scheduler.markStreamReady streamId addToFront = .ok next ∧
      next.Kept ∧ next.roster = (scheduler.roster.perform
        (.markStreamReady streamId addToFront)).2 := by
  have hpriority : scheduler.roster.priority streamId =
    (scheduler.streamInfos streamId).map StreamInfo.priority := rfl
  unfold PriorityWriteScheduler.markStreamReady Roster.perform
  dsimp only
  cases hinfo : scheduler.streamInfos streamId with
  | none =>
      rw [hinfo] at hpriority
      exact ⟨scheduler, rfl, h, by rw [if_pos (.inl hpriority)]⟩
  | some streamInfo =>
      obtain ⟨priority, ready⟩ := streamInfo
      rw [hinfo] at hpriority
      cases ready with
      | true =>
          exact ⟨scheduler, rfl, h,
            by rw [if_pos (.inr (h.mem_queue.mpr ⟨priority, hinfo⟩))]⟩
      | false =>
          have hidle := h.idle streamId (by simp [hinfo])
          have hle := h.priority_le streamId _ hinfo
          obtain ⟨hkept, hqueue⟩ := h.enlist hidle hle addToFront
          have hsame : (scheduler.enlist streamId priority
              addToFront).roster.priority = scheduler.roster.priority := by
            rw [roster_enlist]
            exact congrArg Roster.priority (Roster.prioritise_eq hpriority)
          refine ⟨scheduler.enlist streamId priority addToFront, ?_, hkept, ?_⟩
          · dsimp only
            unfold readyList
            rw [if_neg Bool.false_ne_true, if_pos hle]
            rfl
          · rw [if_neg (by simp [hpriority, hidle])]
            refine Roster.ext hsame ?_
            rw [hqueue]
            unfold Roster.rank
            rw [hsame]
            rfl

theorem Kept.markStreamNotReady (h : scheduler.Kept) (streamId : ι) :
    ∃ next, scheduler.markStreamNotReady streamId = .ok next ∧ next.Kept ∧
      next.roster =
        (scheduler.roster.perform (.markStreamNotReady streamId)).2 := by
  unfold PriorityWriteScheduler.markStreamNotReady Roster.perform
  dsimp only
  cases hinfo : scheduler.streamInfos streamId with
  | none =>
      rw [Roster.remove_of_not_mem (h.idle streamId (by simp [hinfo]))]
      exact ⟨scheduler, rfl, h, rfl⟩
  | some streamInfo =>
      obtain ⟨priority, ready⟩ := streamInfo
      cases ready with
      | false =>
          rw [Roster.remove_of_not_mem (h.idle streamId (by simp [hinfo]))]
          exact ⟨scheduler, rfl, h, rfl⟩
      | true =>
          have hle := h.priority_le streamId _ hinfo
          obtain ⟨hkept, hqueue⟩ := h.unlist hinfo (some ⟨priority, false⟩)
            (by rintro _ ⟨⟩; exact ⟨rfl, hle⟩)
          refine ⟨scheduler.unlist streamId priority (some ⟨priority, false⟩),
            ?_, hkept, Roster.ext ?_ hqueue⟩
          · dsimp only
            rw [if_neg (by simp), h.erase hinfo]
            rfl
          · rw [roster_unlist, Roster.prioritise_eq (by simp [roster, hinfo])]
            rfl

theorem Kept.updateStreamPriority (h : scheduler.Kept) (streamId : ι)
    {priority : Nat} (hpriority : priority ≤ kV3LowestPriority) :
    ∃ next, scheduler.updateStreamPriority streamId priority = .ok next ∧
      next.Kept ∧ next.roster = (scheduler.roster.perform
        (.updateStreamPriority streamId priority)).2 := by
  have hknown : scheduler.roster.priority streamId =
    (scheduler.streamInfos streamId).map StreamInfo.priority := rfl
  unfold PriorityWriteScheduler.updateStreamPriority Roster.perform
  dsimp only
  cases hinfo : scheduler.streamInfos streamId with
  | none =>
      rw [hinfo] at hknown
      rw [if_pos (.inl hknown)]
      exact ⟨scheduler, rfl, h, rfl⟩
  | some streamInfo =>
      obtain ⟨old, ready⟩ := streamInfo
      rw [hinfo] at hknown
      dsimp only
      by_cases hsame : old = priority
      · rw [if_pos hsame, if_pos (.inr (hsame ▸ hknown))]
        exact ⟨scheduler, rfl, h, rfl⟩
      · rw [if_neg hsame, if_neg (show ¬(scheduler.roster.priority streamId =
          none ∨ scheduler.roster.priority streamId = some priority) by
            simp [hknown, hsame])]
        cases ready with
        | false =>
            have hidle := h.idle streamId (by simp [hinfo])
            rw [if_neg hidle]
            refine ⟨scheduler.setStreamInfo streamId (some ⟨priority, false⟩),
              rfl, h.setStreamInfo hidle ?_, roster_setStreamInfo _⟩
            rintro _ ⟨⟩
            exact ⟨rfl, hpriority⟩
        | true =>
            rw [if_pos (h.mem_queue.mpr ⟨old, hinfo⟩)]
            obtain ⟨hkept, hroster⟩ := h.move hinfo hpriority
            refine ⟨_, ?_, hkept, hroster⟩
            rw [if_pos rfl, h.erase hinfo]
            unfold readyList
            simp only [Outcome.ok_bind, if_pos hpriority, pure, Except.pure]
            unfold PriorityWriteScheduler.enlist
              PriorityWriteScheduler.unlist
              PriorityWriteScheduler.setStreamInfo
              PriorityWriteScheduler.setReadyList
            dsimp only
            rw [Function.update_idem, if_neg Bool.false_ne_true]

theorem Kept.popNextReadyStream (h : scheduler.Kept) :
    scheduler.popNextReadyStream.2.Kept ∧
      (some scheduler.popNextReadyStream.1,
        scheduler.popNextReadyStream.2.roster) =
          scheduler.roster.perform .popNextReadyStream := by
  unfold PriorityWriteScheduler.popNextReadyStream Roster.perform
  dsimp only
  split
  next hnone =>
    have hempty : scheduler.roster.queue = [] := by
      unfold roster flat
      rw [List.flatMap_eq_nil_iff]
      intro priority hmem
      have := List.find?_eq_none.mp hnone priority hmem
      simpa using this
    rw [hempty]
    exact ⟨h, Prod.ext rfl (Roster.ext rfl hempty)⟩
  next priority hfound =>
    obtain ⟨hready, hlt, hbefore⟩ := List.find?_range_eq_some.mp hfound
    split
    next hnil =>
      simp [hnil] at hready
    next streamId rest hlist =>
      have hinfo := (h.listed priority streamId).mp
        (hlist ▸ List.mem_cons_self)
      have hle := h.priority_le streamId _ hinfo
      obtain ⟨hkept, hqueue⟩ := h.unlist hinfo (some ⟨priority, false⟩)
        (by rintro _ ⟨⟩; exact ⟨rfl, hle⟩)
      have hnext : scheduler.unlist streamId priority
          (some ⟨priority, false⟩) = (scheduler.setReadyList priority
            rest).setStreamInfo streamId (some ⟨priority, false⟩) := by
        unfold PriorityWriteScheduler.unlist
        rw [hlist, List.erase_cons_head]
      have hhead : scheduler.roster.queue = streamId ::
          flat (Function.update scheduler.readyLists priority rest)
            (kV3LowestPriority + 1) :=
        flat_pop (List.mem_range.mp hlt)
          (fun place hplace => by simpa using hbefore place hplace) hlist
      rw [show (scheduler.setReadyList priority rest).streamInfos streamId =
        some ⟨priority, true⟩ from hinfo]
      dsimp only
      rw [← hnext]
      refine ⟨hkept, Prod.ext ?_ (Roster.ext ?_ ?_)⟩
      · rw [hhead]
        rfl
      · rw [roster_unlist, Roster.prioritise_eq (by simp [roster, hinfo])]
      · rw [hqueue, hhead, List.erase_cons_head]
        rfl

theorem Kept.perform (h : scheduler.Kept) {call : SchedulerCall ι}
    (hsuits : call.Suits) :
    ∃ next, scheduler.perform call =
        .ok ((scheduler.roster.perform call).1, next) ∧
      next.Kept ∧ next.roster = (scheduler.roster.perform call).2 := by
  cases call with
  | registerStream streamId priority =>
      obtain ⟨hkept, hroster⟩ := h.registerStream streamId priority
      exact ⟨_, rfl, hkept, hroster⟩
  | unregisterStream streamId =>
      obtain ⟨next, hdone, hnext⟩ := h.unregisterStream streamId
      refine ⟨next, ?_, hnext⟩
      rw [PriorityWriteScheduler.perform, hdone]
      rfl
  | updateStreamPriority streamId priority =>
      obtain ⟨next, hdone, hnext⟩ := h.updateStreamPriority streamId hsuits
      refine ⟨next, ?_, hnext⟩
      rw [PriorityWriteScheduler.perform, hdone]
      rfl
  | markStreamReady streamId addToFront =>
      obtain ⟨next, hdone, hnext⟩ := h.markStreamReady streamId addToFront
      refine ⟨next, ?_, hnext⟩
      rw [PriorityWriteScheduler.perform, hdone]
      rfl
  | markStreamNotReady streamId =>
      obtain ⟨next, hdone, hnext⟩ := h.markStreamNotReady streamId
      refine ⟨next, ?_, hnext⟩
      rw [PriorityWriteScheduler.perform, hdone]
      rfl
  | popNextReadyStream =>
      obtain ⟨hkept, hroster⟩ := h.popNextReadyStream
      rw [← hroster]
      exact ⟨_, rfl, hkept, rfl⟩

/-- A whole run, by induction on its calls. -/
theorem Kept.run (h : scheduler.Kept) {calls : List (SchedulerCall ι)}
    (hsuits : ∀ call ∈ calls, call.Suits) :
    ∃ next, scheduler.run calls =
        .ok ((scheduler.roster.run calls).1, next) ∧
      next.Kept ∧ next.roster = (scheduler.roster.run calls).2 := by
  induction calls generalizing scheduler with
  | nil => exact ⟨scheduler, rfl, h, rfl⟩
  | cons call calls ih =>
      rw [List.forall_mem_cons] at hsuits
      obtain ⟨middle, hdone, hmiddle, hroster⟩ := h.perform hsuits.1
      obtain ⟨next, hrest, hnext, hlast⟩ := ih hmiddle hsuits.2
      rw [hroster] at hrest hlast
      refine ⟨next, ?_, hnext, hlast⟩
      unfold PriorityWriteScheduler.run
      rw [hdone, Outcome.ok_bind]
      dsimp only
      rw [hrest]
      rfl

end Calls

end Order

end PriorityWriteScheduler

/--
Through any calls, the scheduler answers as a queue does that is sorted by
priority and holds each ready stream once; its questions are about that queue.
-/
theorem scheduler_keeps_order {ι : Type} [DecidableEq ι] [Zero ι]
    (calls : List (SchedulerCall ι)) (hsuits : ∀ call ∈ calls, call.Suits) :
    ∃ (scheduler : PriorityWriteScheduler ι) (roster : Roster ι),
      PriorityWriteScheduler.run {} calls =
        .ok ((Roster.run {} calls).1, scheduler) ∧
      (Roster.run {} calls).2 = roster ∧
      roster.queue.Nodup ∧
      roster.queue.Pairwise (roster.rank · ≤ roster.rank ·) ∧
      scheduler.numReadyStreams = roster.queue.length ∧
      scheduler.hasReadyStreams = !roster.queue.isEmpty ∧
      (∀ streamId,
        scheduler.getStreamPriority streamId = roster.rank streamId) ∧
      ∀ streamId, scheduler.hasHigherPriorityReadyStream streamId = true ↔
        roster.priority streamId ≠ none ∧
        ∃ other ∈ roster.queue, roster.rank other < roster.rank streamId := by
  have hnew : ({} : PriorityWriteScheduler ι).Kept :=
    PriorityWriteScheduler.kept_new
  obtain ⟨scheduler, hrun, hkept, hroster⟩ := hnew.run hsuits
  refine ⟨scheduler, scheduler.roster, hrun, hroster.symm, hkept.queue_nodup,
    hkept.ranked.pairwise, PriorityWriteScheduler.numReadyStreams_eq,
    PriorityWriteScheduler.hasReadyStreams_eq, fun streamId => ?_,
    fun streamId => hkept.hasHigherPriorityReadyStream⟩
  unfold PriorityWriteScheduler.getStreamPriority Roster.rank
  cases hinfo : scheduler.streamInfos streamId <;>
    simp [PriorityWriteScheduler.roster, hinfo]

/-- A stream is moved to another priority while it waits behind one of those. -/
theorem scheduler_keeps_order_moved :
    ∃ scheduler : PriorityWriteScheduler Nat,
      PriorityWriteScheduler.run {} [.registerStream 5 3, .registerStream 7 9,
        .registerStream 9 3, .markStreamReady 7 false, .markStreamReady 9 false,
        .markStreamReady 5 true, .updateStreamPriority 7 3,
        .popNextReadyStream, .popNextReadyStream] =
          .ok ([none, none, none, none, none, none, none, some 5, some 9],
            scheduler) ∧
      scheduler.numReadyStreams = 1 := by
  obtain ⟨scheduler, roster, hrun, hroster, -, -, hcount, -⟩ :=
    scheduler_keeps_order (show List (SchedulerCall Nat) from
      [.registerStream 5 3, .registerStream 7 9, .registerStream 9 3,
        .markStreamReady 7 false, .markStreamReady 9 false,
        .markStreamReady 5 true, .updateStreamPriority 7 3,
        .popNextReadyStream, .popNextReadyStream]) (by
      simp [SchedulerCall.Suits, kV3LowestPriority])
  subst hroster
  exact ⟨scheduler, hrun, hcount⟩

end RevSDK
