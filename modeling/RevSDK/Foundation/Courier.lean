import Mathlib.Data.List.Flatten
import Mathlib.Data.List.Nodup
import Mathlib.Data.List.Perm.Basic

/-!
# Couriers and their passes

A courier keeps a queue of items and the batches it has sent.  A batch that was
sent is settled or given back to the end of the queue.  In a pass the courier
sends one batch after the other from the front of its queue until the queue is
empty, while items join the queue and batches are settled or given back.
-/

namespace RevSDK.Foundation

universe u v

structure Courier (α : Type u) where
  queue : List α
  sent : List (List α)

namespace Courier

variable {α : Type u} {β : Type v}

def accept (courier : Courier α) (item : α) : Courier α :=
  { courier with queue := courier.queue ++ [item] }

def dispatch (courier : Courier α) (count : Nat) : Courier α where
  queue := courier.queue.drop count
  sent := courier.sent ++ [courier.queue.take count]

def batch (courier : Courier α) (index : Nat) : List α :=
  courier.sent[index]?.getD []

def settle (courier : Courier α) (index : Nat) : Courier α :=
  { courier with sent := courier.sent.eraseIdx index }

def giveBack (courier : Courier α) (index : Nat) : Courier α where
  queue := courier.queue ++ courier.batch index
  sent := courier.sent.eraseIdx index

def map (f : α → β) (courier : Courier α) : Courier β where
  queue := courier.queue.map f
  sent := courier.sent.map (List.map f)

def held (courier : Courier α) : List α :=
  courier.queue ++ courier.sent.flatten

section Maps

variable (f : α → β) (courier : Courier α)

theorem map_accept (item : α) :
    (courier.accept item).map f = (courier.map f).accept (f item) := by
  simp [map, accept]

theorem map_dispatch (count : Nat) :
    (courier.dispatch count).map f = (courier.map f).dispatch count := by
  simp [map, dispatch]

theorem map_settle (index : Nat) :
    (courier.settle index).map f = (courier.map f).settle index := by
  simp [map, settle, List.eraseIdx_map]

theorem map_giveBack (index : Nat) :
    (courier.giveBack index).map f = (courier.map f).giveBack index := by
  have hbatch : (courier.batch index).map f = (courier.map f).batch index := by
    unfold batch map
    rw [List.getElem?_map]
    cases courier.sent[index]? <;> rfl
  unfold giveBack
  rw [← hbatch]
  simp [map, List.eraseIdx_map]

theorem map_congr {f g : α → β} {courier : Courier α}
    (h : ∀ item ∈ courier.held, f item = g item) :
    courier.map f = courier.map g := by
  have hqueue : courier.queue.map f = courier.queue.map g :=
    List.map_congr_left fun item hitem => h item (List.mem_append_left _ hitem)
  have hsent : courier.sent.map (List.map f) =
      courier.sent.map (List.map g) := by
    refine List.map_congr_left fun batch hbatch => ?_
    refine List.map_congr_left fun item hitem => h item ?_
    exact List.mem_append_right _ (List.mem_flatten.mpr ⟨batch, hbatch, hitem⟩)
  simp [map, hqueue, hsent]

theorem accept_numbered {items : List α} {courier : Courier α}
    {numbers : Courier Nat}
    (hitems : courier.map some = numbers.map (items[·]?))
    (hheld : ∀ number ∈ numbers.held, number < items.length) (item : α) :
    (courier.accept item).map some =
      (numbers.accept items.length).map ((items ++ [item])[·]?) := by
  have hsame : numbers.map ((items ++ [item])[·]?) =
      numbers.map (items[·]?) :=
    map_congr fun number hnumber =>
      List.getElem?_append_left (hheld number hnumber)
  rw [map_accept, map_accept, hsame, hitems]
  simp

end Maps

section Holding

variable (courier : Courier α)

theorem batch_eq_or_mem (index : Nat) :
    courier.batch index = [] ∨ courier.batch index ∈ courier.sent := by
  unfold batch
  cases hbatch : courier.sent[index]? with
  | none => exact .inl rfl
  | some batch => exact .inr (List.mem_of_getElem? hbatch)

theorem mem_held_accept {courier : Courier α} {item other : α} :
    other ∈ (courier.accept item).held ↔
      other = item ∨ other ∈ courier.held := by
  have hperm : (courier.accept item).held.Perm (item :: courier.held) := by
    unfold accept held
    rw [List.append_assoc]
    exact List.perm_middle
  rw [hperm.mem_iff, List.mem_cons]

theorem held_dispatch (count : Nat) :
    (courier.dispatch count).held.Perm courier.held := by
  have hsplit : courier.held =
      courier.queue.take count ++ courier.queue.drop count ++
        courier.sent.flatten := by
    rw [List.take_append_drop]
    rfl
  have hafter : (courier.dispatch count).held =
      courier.queue.drop count ++
        (courier.sent.flatten ++ courier.queue.take count) := by
    unfold held dispatch
    rw [List.flatten_append, List.flatten_singleton]
  have hback : (courier.dispatch count).held.Perm
      (courier.queue.drop count ++
        (courier.queue.take count ++ courier.sent.flatten)) := by
    rw [hafter]
    exact List.perm_append_comm.append_left _
  rw [← List.append_assoc] at hback
  rw [hsplit]
  exact hback.trans (List.perm_append_comm.append_right _)

theorem dispatch_eq (count : Nat) :
    courier.dispatch (courier.queue.length -
      (courier.dispatch count).queue.length) = courier.dispatch count := by
  unfold dispatch
  rw [List.length_drop]
  by_cases hle : count ≤ courier.queue.length
  · rw [Nat.sub_sub_self hle]
  · have hlarge : courier.queue.length ≤ count := Nat.le_of_not_le hle
    rw [Nat.sub_eq_zero_of_le hlarge, Nat.sub_zero, List.take_length,
      List.drop_length, List.take_of_length_le hlarge,
      List.drop_eq_nil_of_le hlarge]

theorem dispatched {before after : Courier α} {taken count : Nat}
    (hpos : 0 < taken)
    (hafter : after =
      if before.queue.isEmpty then before else before.dispatch taken)
    (hcount : before.queue.length - after.queue.length = count) :
    (before.queue ≠ [] → 0 < count) ∧
      (after =
        if before.queue.isEmpty then before else before.dispatch count) ∧
      (after.sent.drop before.sent.length).flatten =
        before.queue.take count := by
  cases hqueue : before.queue with
  | nil =>
      rw [hqueue, List.isEmpty_nil, if_pos rfl] at hafter
      simp [hafter]
  | cons item items =>
      rw [hqueue, List.isEmpty_cons, if_neg (by decide)] at hafter
      have hsame : before.dispatch count = after := by
        rw [← hcount, hafter, dispatch_eq]
      refine ⟨fun _ => ?_, ?_, ?_⟩
      · have hdropped : after.queue.length = before.queue.length - taken := by
          rw [hafter, dispatch, List.length_drop]
        rw [hqueue, List.length_cons] at hcount hdropped
        omega
      · rw [List.isEmpty_cons, if_neg (by decide), hsame]
      · rw [← hsame, ← hqueue]
        simp [dispatch]

theorem held_settle (index : Nat) :
    (courier.settle index).held.Sublist courier.held :=
  (List.Sublist.flatten (List.eraseIdx_sublist ..)).append_left _

theorem held_giveBack (index : Nat) :
    (courier.giveBack index).held.Perm courier.held := by
  unfold held giveBack batch
  dsimp only
  cases hbatch : courier.sent[index]? with
  | none =>
      have hlarge := List.getElem?_eq_none_iff.mp hbatch
      rw [List.eraseIdx_of_length_le hlarge]
      simp
  | some batch =>
      obtain ⟨hindex, rfl⟩ := List.getElem?_eq_some_iff.mp hbatch
      have hperm : (courier.sent[index] :: courier.sent.eraseIdx index).Perm
          courier.sent := List.getElem_cons_eraseIdx_perm hindex
      have hflat := hperm.flatten
      rw [List.flatten_cons] at hflat
      rw [Option.getD_some, List.append_assoc]
      exact hflat.append_left _

end Holding

end Courier

/--
A pass with the batches it has sent, the number of items queued when it began,
the numbers that joined since and that earlier passes returned before its last
round, and whether another round follows.
-/
structure Pass (α : Type u) where
  courier : Courier α
  batches : List (List α)
  queued : Nat
  joined : Nat
  returned : Nat
  continues : Bool

namespace Pass

variable {α : Type u}

def start (courier : Courier α) : Pass α where
  courier := courier
  batches := []
  queued := courier.queue.length
  joined := 0
  returned := 0
  continues := true

def accept (pass : Pass α) (item : α) : Pass α :=
  { pass with
    courier := pass.courier.accept item
    joined := pass.joined + 1 }

def settle (pass : Pass α) (index : Nat) : Pass α :=
  { pass with courier := pass.courier.settle index }

def giveBack [DecidableEq α] (pass : Pass α) (index : Nat) : Pass α :=
  { pass with
    courier := pass.courier.giveBack index
    returned :=
      if pass.continues ∧ pass.courier.batch index ∉ pass.batches then
        pass.returned + (pass.courier.batch index).length
      else pass.returned }

def round (pass : Pass α) (count : Nat) : Pass α :=
  { pass with
    courier :=
      if pass.courier.queue.isEmpty then pass.courier
      else pass.courier.dispatch count
    batches := pass.batches ++ [pass.courier.queue.take count]
    continues := !(pass.courier.queue.drop count).isEmpty }

theorem round_continues (pass : Pass α) (count : Nat) :
    (pass.round count).continues =
      !(pass.round count).courier.queue.isEmpty := by
  unfold Pass.round Courier.dispatch
  dsimp only
  cases hqueue : pass.courier.queue with
  | nil => simp [hqueue]
  | cons item items => rfl

theorem held_round (pass : Pass α) (count : Nat) :
    (pass.round count).courier.held.Perm pass.courier.held := by
  unfold Pass.round
  dsimp only
  split
  · exact List.Perm.refl _
  · exact pass.courier.held_dispatch count

structure Sound (pass : Pass α) : Prop where
  nodup : pass.courier.held.Nodup
  once : pass.batches.flatten.Nodup
  apart : pass.continues = true →
    ∀ item ∈ pass.courier.queue, item ∉ pass.batches.flatten
  own : ∀ batch ∈ pass.courier.sent,
    batch ∈ pass.batches ∨ ∀ item ∈ batch, item ∉ pass.batches.flatten
  size : pass.batches.flatten.length +
    (if pass.continues then pass.courier.queue.length else 0) ≤
      pass.queued + pass.joined + pass.returned
  filled : (pass.batches = [[]] ∧ pass.continues = false) ∨
    ∀ batch ∈ pass.batches, batch ≠ []
  more : pass.continues = true →
    pass.batches = [] ∨ pass.courier.queue ≠ []

theorem Sound.start {courier : Courier α} (hnodup : courier.held.Nodup) :
    (Pass.start courier).Sound where
  nodup := hnodup
  once := List.nodup_nil
  apart := by simp [Pass.start]
  own := by simp [Pass.start]
  size := by simp [Pass.start]
  filled := by simp [Pass.start]
  more := by simp [Pass.start]

section Rounds

variable {pass : Pass α}

theorem Sound.accept (hsound : pass.Sound) {item : α}
    (hheld : item ∉ pass.courier.held) (hsent : item ∉ pass.batches.flatten) :
    (pass.accept item).Sound where
  nodup := by
    have hperm : (pass.accept item).courier.held.Perm
        (item :: pass.courier.held) := by
      unfold Pass.accept Courier.accept Courier.held
      rw [List.append_assoc]
      exact List.perm_middle
    rw [hperm.nodup_iff]
    exact List.nodup_cons.mpr ⟨hheld, hsound.nodup⟩
  once := hsound.once
  apart hcontinues other hother := by
    rcases List.mem_append.mp hother with hold | hnew
    · exact hsound.apart hcontinues other hold
    · obtain rfl := List.mem_singleton.mp hnew
      exact hsent
  own := hsound.own
  size := by
    have hsize := hsound.size
    unfold Pass.accept Courier.accept
    dsimp only
    rw [List.length_append, List.length_singleton]
    split at hsize <;> simp_all <;> omega
  filled := hsound.filled
  more hcontinues := .inr (by simp [Pass.accept, Courier.accept])

theorem Sound.settle (hsound : pass.Sound) (index : Nat) :
    (pass.settle index).Sound where
  nodup := (pass.courier.held_settle index).nodup hsound.nodup
  once := hsound.once
  apart := hsound.apart
  own batch hbatch := hsound.own batch (List.mem_of_mem_eraseIdx hbatch)
  size := hsound.size
  filled := hsound.filled
  more := hsound.more

theorem Sound.giveBack [DecidableEq α] (hsound : pass.Sound) {index : Nat}
    (hlate : pass.continues = true →
      pass.courier.batch index ∉ pass.batches) :
    (pass.giveBack index).Sound where
  nodup := (pass.courier.held_giveBack index).nodup_iff.mpr hsound.nodup
  once := hsound.once
  apart hcontinues item hitem := by
    rcases List.mem_append.mp hitem with hold | hback
    · exact hsound.apart hcontinues item hold
    · rcases pass.courier.batch_eq_or_mem index with hnil | hmem
      · simp [hnil] at hback
      · rcases hsound.own _ hmem with hown | hother
        · exact absurd hown (hlate hcontinues)
        · exact hother item hback
  own batch hbatch := hsound.own batch (List.mem_of_mem_eraseIdx hbatch)
  size := by
    have hsize := hsound.size
    unfold Pass.giveBack Courier.giveBack
    dsimp only
    cases hcontinues : pass.continues with
    | true =>
        rw [hcontinues, if_pos rfl] at hsize
        rw [if_pos rfl, if_pos ⟨rfl, hlate hcontinues⟩, List.length_append]
        omega
    | false =>
        rw [hcontinues, if_neg (by decide)] at hsize
        rw [if_neg (by decide), if_neg (by simp)]
        exact hsize
  filled := hsound.filled
  more hcontinues := by
    rcases hsound.more hcontinues with hnone | hqueue
    · exact .inl hnone
    · exact .inr (List.append_ne_nil_of_left_ne_nil hqueue _)

theorem flatten_round (pass : Pass α) (count : Nat) :
    (pass.round count).batches.flatten =
      pass.batches.flatten ++ pass.courier.queue.take count := by
  simp [Pass.round]

theorem Sound.round_nil (hsound : pass.Sound)
    (hcontinues : pass.continues = true) (hempty : pass.courier.queue = [])
    (count : Nat) : (pass.round count).Sound := by
  have hnone : pass.batches = [] :=
    (hsound.more hcontinues).resolve_right (not_not.mpr hempty)
  have hround : pass.round count =
      { pass with batches := [[]], continues := false } := by
    simp [Pass.round, hempty, hnone]
  rw [hround]
  exact {
    nodup := hsound.nodup
    once := by simp
    apart := by simp
    own := by simp
    size := by simp
    filled := .inl ⟨rfl, rfl⟩
    more := by simp }

theorem Sound.remaining (hsound : pass.Sound)
    (hcontinues : pass.continues = true) {count : Nat} {item : α}
    (hitem : item ∈ pass.courier.queue.drop count) :
    item ∉ (pass.round count).batches.flatten := by
  rw [flatten_round, List.mem_append, not_or]
  refine ⟨hsound.apart hcontinues item (List.mem_of_mem_drop hitem),
    fun htaken => ?_⟩
  have hsplit : pass.courier.queue.Nodup :=
    hsound.nodup.sublist (List.sublist_append_left _ _)
  rw [← List.take_append_drop count pass.courier.queue,
    List.nodup_append] at hsplit
  exact hsplit.2.2 item htaken item hitem rfl

theorem Sound.own_round (hsound : pass.Sound) {count : Nat} {batch : List α}
    (hbatch : batch ∈ pass.courier.sent) :
    batch ∈ (pass.round count).batches ∨
      ∀ item ∈ batch, item ∉ (pass.round count).batches.flatten := by
  rcases hsound.own batch hbatch with hown | hother
  · exact .inl (List.mem_append_left _ hown)
  · refine .inr fun item hitem => ?_
    rw [flatten_round, List.mem_append, not_or]
    refine ⟨hother item hitem, fun htaken => ?_⟩
    have hnodup := List.nodup_append.mp hsound.nodup
    exact hnodup.2.2 item (List.mem_of_mem_take htaken) item
      (List.mem_flatten.mpr ⟨batch, hbatch, hitem⟩) rfl

theorem Sound.round_cons (hsound : pass.Sound)
    (hcontinues : pass.continues = true) (hnonempty : pass.courier.queue ≠ [])
    {count : Nat} (hcount : 0 < count) : (pass.round count).Sound := by
  have hcourier : (pass.round count).courier = pass.courier.dispatch count := by
    simp [Pass.round, hnonempty]
  have hqueue : (pass.round count).courier.queue =
      pass.courier.queue.drop count := by
    rw [hcourier]
    rfl
  constructor
  case nodup => exact (held_round pass count).nodup_iff.mpr hsound.nodup
  case once =>
    have hqueueNodup : pass.courier.queue.Nodup :=
      hsound.nodup.sublist (List.sublist_append_left _ _)
    rw [flatten_round]
    refine List.nodup_append.mpr ⟨hsound.once,
      hqueueNodup.sublist (List.take_sublist _ _), ?_⟩
    rintro item hsent _ htaken rfl
    exact hsound.apart hcontinues item (List.mem_of_mem_take htaken) hsent
  case apart =>
    rintro - item hitem
    rw [hqueue] at hitem
    exact hsound.remaining hcontinues hitem
  case own =>
    intro batch hbatch
    rw [hcourier] at hbatch
    rcases List.mem_append.mp hbatch with hold | hnew
    · exact hsound.own_round hold
    · exact .inl (List.mem_append_right _ hnew)
  case size =>
    have hsize := hsound.size
    have htotal : (pass.courier.queue.take count).length +
        (pass.courier.queue.drop count).length =
          pass.courier.queue.length := by
      rw [← List.length_append, List.take_append_drop]
    rw [if_pos hcontinues] at hsize
    rw [flatten_round, hqueue, List.length_append]
    change _ ≤ pass.queued + pass.joined + pass.returned
    split <;> omega
  case filled =>
    right
    intro batch hbatch
    rcases List.mem_append.mp hbatch with hold | hnew
    · rcases hsound.filled with ⟨-, hclosed⟩ | hfilled
      · simp [hcontinues] at hclosed
      · exact hfilled batch hold
    · rw [List.mem_singleton.mp hnew, ne_eq, List.take_eq_nil_iff, not_or]
      exact ⟨Nat.ne_of_gt hcount, hnonempty⟩
  case more =>
    intro hmore
    right
    rw [hqueue]
    simpa [Pass.round] using hmore

theorem Sound.round (hsound : pass.Sound) (hcontinues : pass.continues = true)
    {count : Nat} (hcount : pass.courier.queue ≠ [] → 0 < count) :
    (pass.round count).Sound := by
  by_cases hempty : pass.courier.queue = []
  · exact hsound.round_nil hcontinues hempty count
  · exact hsound.round_cons hcontinues hempty (hcount hempty)

theorem Sound.length_le (hsound : pass.Sound) :
    pass.batches.length ≤
      max 1 (pass.queued + pass.joined + pass.returned) := by
  rcases hsound.filled with ⟨hsingle, -⟩ | hfilled
  · rw [hsingle]
    exact Nat.le_max_left _ _
  · have hcount : pass.batches.length ≤ pass.batches.flatten.length := by
      rw [List.length_flatten]
      generalize pass.batches = batches at hfilled
      induction batches with
      | nil => simp
      | cons batch batches ih =>
          obtain ⟨hfirst, hrest⟩ := List.forall_mem_cons.mp hfilled
          have hpos := List.length_pos_iff.mpr hfirst
          have hlength := ih hrest
          rw [List.map_cons, List.sum_cons, List.length_cons]
          omega
    have hsize := hsound.size
    omega

end Rounds

end Pass

end RevSDK.Foundation
