import Mathlib.Data.List.Basic
import Mathlib.Data.List.Range
import Mathlib.Order.Interval.Finset.Nat

/-!
# Reassembly of a stream

Pieces of a stream arrive in any order, each with its offset, and are handed
out from the front.  `content` is what has arrived; the offsets below
`consumed` have been handed out, or skipped.  A reader that always takes what
stands at the front gets the stream from its start.
-/

namespace RevSDK.Foundation

universe u

structure Reassembly (α : Type u) where
  content : Nat → Option α
  consumed : Nat

variable {α : Type u}

/-- `data` is what `content` has from `offset` on. -/
def Holds (content : Nat → Option α) (offset : Nat) (data : List α) : Prop :=
  ∀ index < data.length, content (offset + index) = data[index]?

instance [DecidableEq α] (content : Nat → Option α) (offset : Nat)
    (data : List α) : Decidable (Holds content offset data) :=
  inferInstanceAs (Decidable (∀ index < data.length, _))

section Holding

variable {content : Nat → Option α} {offset : Nat}
  {data first second : List α}

@[simp] theorem holds_nil : Holds content offset [] := by
  simp [Holds]

theorem holds_append :
    Holds content offset (first ++ second) ↔
      Holds content offset first ∧
        Holds content (offset + first.length) second := by
  constructor
  · intro h
    refine ⟨fun index hindex => ?_, fun index hindex => ?_⟩
    · rw [h index (by simp; omega), List.getElem?_append_left hindex]
    · rw [Nat.add_assoc, h (first.length + index) (by simpa using hindex),
        List.getElem?_append_right (by omega)]
      simp
  · rintro ⟨hfirst, hsecond⟩ index hindex
    by_cases hlt : index < first.length
    · rw [hfirst index hlt, List.getElem?_append_left hlt]
    · obtain ⟨rest, rfl⟩ := Nat.exists_eq_add_of_le (Nat.not_lt.mp hlt)
      rw [← Nat.add_assoc, hsecond rest (by simpa using hindex),
        List.getElem?_append_right (by omega)]
      simp

theorem Holds.take (h : Holds content offset data) (count : Nat) :
    Holds content offset (data.take count) := by
  rw [← List.take_append_drop count data] at h
  exact (holds_append.mp h).1

theorem Holds.drop (h : Holds content offset data) {count : Nat}
    (hcount : count ≤ data.length) :
    Holds content (offset + count) (data.drop count) := by
  rw [← List.take_append_drop count data] at h
  have hlength : (data.take count).length = count := by
    rw [List.length_take]
    omega
  have hsecond := (holds_append.mp h).2
  rwa [hlength] at hsecond

theorem Holds.isSome (h : Holds content offset data) {index : Nat}
    (hindex : index < data.length) : (content (offset + index)).isSome := by
  rw [h index hindex, List.getElem?_eq_getElem hindex]
  rfl

theorem Holds.isPrefix (hfirst : Holds content offset first)
    (hsecond : Holds content offset second)
    (hle : first.length ≤ second.length) : first <+: second := by
  refine List.prefix_iff_getElem?.mpr fun index hindex => ?_
  rw [← hsecond index (by omega), hfirst index hindex,
    List.getElem?_eq_getElem hindex]

theorem Holds.unique (hfirst : Holds content offset first)
    (hsecond : Holds content offset second)
    (hlength : first.length = second.length) : first = second :=
  (hfirst.isPrefix hsecond hlength.le).eq_of_length hlength

end Holding

namespace Reassembly

def start : Reassembly α := ⟨fun _ => none, 0⟩

def Settled (state : Reassembly α) (offset : Nat) : Prop :=
  offset < state.consumed ∨ (state.content offset).isSome

def Fresh (state : Reassembly α) (offset size : Nat) : Prop :=
  ∀ index < size, ¬ state.Settled (offset + index)

/-- The piece is not cut: all of it is settled, or nothing. -/
def Whole (state : Reassembly α) (offset size : Nat) : Prop :=
  state.Fresh offset size ∨ ∀ index < size, state.Settled (offset + index)

def arrive (state : Reassembly α) (offset : Nat) (data : List α) :
    Reassembly α :=
  { state with
    content := fun position =>
      if offset ≤ position ∧ position < offset + data.length then
        data[position - offset]?
      else state.content position }

def consume (state : Reassembly α) (count : Nat) : Reassembly α :=
  { state with consumed := state.consumed + count }

/-- Everything below `offset` counts as handed out; the rest is forgotten. -/
def skipTo (state : Reassembly α) (offset : Nat) : Reassembly α where
  consumed := offset
  content position :=
    if position < offset then state.content position else none

def Readable (state : Reassembly α) (count : Nat) : Prop :=
  ∀ index < count, (state.content (state.consumed + index)).isSome

def Front (state : Reassembly α) (count : Nat) : Prop :=
  state.Readable count ∧ state.content (state.consumed + count) = none

def waiting (state : Reassembly α) (limit : Nat) : Finset Nat :=
  (Finset.range limit).filter fun offset =>
    state.consumed ≤ offset ∧ (state.content offset).isSome

structure Grows (state next : Reassembly α) : Prop where
  consumed : state.consumed ≤ next.consumed
  settled : ∀ offset, state.Settled offset → next.Settled offset

structure Ends (state : Reassembly α) (finish : Nat) : Prop where
  consumed_le : state.consumed ≤ finish
  settled_lt : ∀ offset, state.Settled offset → offset < finish
  reached : finish = state.consumed ∨ state.Settled (finish - 1)

section Laws

variable {state : Reassembly α} {offset count other : Nat} {data : List α}

@[simp] theorem arrive_consumed :
    (state.arrive offset data).consumed = state.consumed := rfl

@[simp] theorem consume_consumed :
    (state.consume count).consumed = state.consumed + count := rfl

@[simp] theorem consume_content :
    (state.consume count).content = state.content := rfl

@[simp] theorem skipTo_consumed : (state.skipTo offset).consumed = offset := rfl

theorem consume_consume (first second : Nat) :
    (state.consume first).consume second =
      state.consume (first + second) := by
  simp [consume, Nat.add_assoc]

theorem settled_arrive (position : Nat) :
    (state.arrive offset data).Settled position ↔
      state.Settled position ∨
        offset ≤ position ∧ position < offset + data.length := by
  unfold Settled arrive
  dsimp only
  split
  next hinside =>
    have : (data[position - offset]?).isSome := by
      rw [List.getElem?_eq_getElem (by omega)]
      rfl
    simp [this, hinside]
  next houtside => simp [houtside]

theorem settled_skipTo {position : Nat} :
    (state.skipTo offset).Settled position ↔ position < offset := by
  unfold Settled skipTo
  dsimp only
  split <;> simp_all

theorem settled_consume (hreadable : state.Readable count) (position : Nat) :
    (state.consume count).Settled position ↔ state.Settled position := by
  simp only [Settled, consume_consumed, consume_content]
  constructor
  · rintro (hlt | hsome)
    · by_cases hbefore : position < state.consumed
      · exact .inl hbefore
      · right
        have := hreadable (position - state.consumed) (by omega)
        rwa [Nat.add_sub_cancel' (Nat.not_lt.mp hbefore)] at this
    · exact .inr hsome
  · rintro (hlt | hsome)
    · exact .inl (by omega)
    · exact .inr hsome

theorem Grows.refl : Grows state state := ⟨Nat.le_refl _, fun _ => id⟩

theorem Grows.trans {next last : Reassembly α} (hfirst : Grows state next)
    (hsecond : Grows next last) : Grows state last :=
  ⟨Nat.le_trans hfirst.consumed hsecond.consumed,
    fun offset hsettled => hsecond.settled _ (hfirst.settled offset hsettled)⟩

theorem grows_arrive : Grows state (state.arrive offset data) :=
  ⟨Nat.le_refl _, fun position hsettled =>
    (settled_arrive position).mpr (.inl hsettled)⟩

theorem Readable.grows (h : state.Readable count) :
    Grows state (state.consume count) :=
  ⟨Nat.le_add_right _ _, fun position => (settled_consume h position).mpr⟩

theorem grows_skipTo {finish : Nat} (hle : state.consumed ≤ finish)
    (hlt : ∀ offset, state.Settled offset → offset < finish) :
    Grows state (state.skipTo finish) :=
  ⟨hle, fun position hsettled => settled_skipTo.mpr (hlt position hsettled)⟩

theorem Whole.consume {size : Nat} (h : state.Whole offset size)
    (hreadable : state.Readable count) :
    (state.consume count).Whole offset size := by
  simpa only [Whole, Fresh, settled_consume hreadable] using h

theorem Whole.arrive {other size : Nat} (h : state.Whole other size)
    (hapart : offset < other + size → other < offset + data.length →
      offset = other ∧ data.length = size) :
    (state.arrive offset data).Whole other size := by
  by_cases hshare : offset < other + size ∧ other < offset + data.length
  · obtain ⟨rfl, rfl⟩ := hapart hshare.1 hshare.2
    exact .inr fun index hindex => (settled_arrive _).mpr
      (.inr ⟨Nat.le_add_right _ _, by omega⟩)
  · refine Or.imp ?_ ?_ h
    · intro hfresh index hindex
      rw [settled_arrive, not_or]
      exact ⟨hfresh index hindex, by omega⟩
    · intro hall index hindex
      exact (settled_arrive _).mpr (.inl (hall index hindex))

theorem Whole.skipTo {finish size : Nat} (h : state.Whole offset size)
    (hends : state.Ends finish) : (state.skipTo finish).Whole offset size := by
  have hle := hends.consumed_le
  simp only [Whole, Fresh, settled_skipTo]
  rcases h with hfresh | hall
  · by_cases hbehind : finish ≤ offset
    · exact .inl fun index _ => by omega
    · refine .inr fun index hindex => ?_
      by_contra hbeyond
      rcases hends.reached with rfl | hlast
      · exact hfresh 0 (by omega) (.inl (by omega))
      · refine hfresh (finish - 1 - offset) (by omega) ?_
        rwa [show offset + (finish - 1 - offset) = finish - 1 by omega]
  · exact .inr fun index hindex => hends.settled_lt _ (hall index hindex)

theorem Readable.mono (h : state.Readable count) (hle : other ≤ count) :
    state.Readable other :=
  fun index hindex => h index (by omega)

theorem Readable.add_le {limit : Nat} (h : state.Readable count)
    (hbounded : ∀ offset, state.Settled offset → offset < limit) :
    state.consumed + count ≤ limit := by
  by_contra hlt
  refine absurd (hbounded limit ?_) (Nat.lt_irrefl _)
  by_cases hread : limit < state.consumed
  · exact .inl hread
  · have := h (limit - state.consumed) (by omega)
    rw [Nat.add_sub_cancel' (Nat.not_lt.mp hread)] at this
    exact .inr this

theorem Readable.le_front (h : state.Readable count)
    (hfront : state.Front other) : count ≤ other := by
  by_contra hlt
  have := h other (by omega)
  simp [hfront.2] at this

theorem Front.unique (hfirst : state.Front count)
    (hsecond : state.Front other) : count = other :=
  Nat.le_antisymm (hfirst.1.le_front hsecond) (hsecond.1.le_front hfirst)

theorem Front.consume (h : state.Front count) (other : Nat)
    (hle : other ≤ count) :
    (state.consume other).Front (count - other) := by
  refine ⟨fun index hindex => ?_, ?_⟩
  · rw [consume_content, consume_consumed, Nat.add_assoc]
    exact h.1 _ (by omega)
  · rw [consume_content, consume_consumed, Nat.add_assoc,
      Nat.add_sub_cancel' hle]
    exact h.2

theorem Holds.readable (h : Holds state.content state.consumed data) :
    state.Readable data.length :=
  fun _ hindex => Foundation.Holds.isSome h hindex

theorem start_skipTo : (start : Reassembly α).skipTo 0 = start := by
  simp [skipTo, start]

theorem mem_waiting {limit position : Nat} :
    position ∈ state.waiting limit ↔ position < limit ∧
      state.consumed ≤ position ∧ (state.content position).isSome := by
  unfold waiting
  rw [Finset.mem_filter, Finset.mem_range]

theorem card_waiting_arrive {limit : Nat}
    (hfresh : state.Fresh offset data.length)
    (hfinish : offset + data.length ≤ limit) :
    ((state.arrive offset data).waiting limit).card =
      (state.waiting limit).card + data.length := by
  have hunion : (state.arrive offset data).waiting limit =
      state.waiting limit ∪ Finset.Ico offset (offset + data.length) := by
    ext position
    have hiff : (state.arrive offset data).Settled position ↔ _ :=
      settled_arrive position
    simp only [mem_waiting, Settled, arrive_consumed, Finset.mem_union,
      Finset.mem_Ico] at hiff ⊢
    constructor
    · rintro ⟨hlt, hunread, hsome⟩
      rcases hiff.mp (.inr hsome) with (hread | hold) | hinside
      · omega
      · exact .inl ⟨hlt, hunread, hold⟩
      · exact .inr hinside
    · have hpiece := hfresh (position - offset)
      simp only [Settled, not_or] at hpiece
      rintro (⟨hlt, hunread, hsome⟩ | hinside)
      · exact ⟨hlt, hunread,
          (hiff.mpr (.inl (.inr hsome))).resolve_left (by omega)⟩
      · have := (hpiece (by omega)).1
        exact ⟨by omega, by omega,
          (hiff.mpr (.inr hinside)).resolve_left (by omega)⟩
  have hdisjoint : Disjoint (state.waiting limit)
      (Finset.Ico offset (offset + data.length)) := by
    rw [Finset.disjoint_left]
    intro position hwaits hinside
    rw [Finset.mem_Ico] at hinside
    have hsome := (mem_waiting.mp hwaits).2.2
    have hnot := hfresh (position - offset) (by omega)
    rw [Nat.add_sub_cancel' hinside.1] at hnot
    exact hnot (.inr hsome)
  rw [hunion, Finset.card_union_of_disjoint hdisjoint, Nat.card_Ico,
    Nat.add_sub_cancel_left]

theorem card_waiting_consume {limit : Nat} (h : state.Readable count)
    (hbounded : ∀ offset, state.Settled offset → offset < limit) :
    ((state.consume count).waiting limit).card =
      (state.waiting limit).card - count := by
  have hle := h.add_le hbounded
  have hread : (state.consume count).waiting limit =
      state.waiting limit \
        Finset.Ico state.consumed (state.consumed + count) := by
    ext position
    simp only [mem_waiting, consume_consumed, consume_content,
      Finset.mem_sdiff, Finset.mem_Ico]
    constructor
    · rintro ⟨hlt, hunread, hsome⟩
      exact ⟨⟨hlt, by omega, hsome⟩, by omega⟩
    · rintro ⟨⟨hlt, hunread, hsome⟩, houtside⟩
      exact ⟨hlt, by omega, hsome⟩
  have hsubset : Finset.Ico state.consumed (state.consumed + count) ⊆
      state.waiting limit := by
    intro position hinside
    rw [Finset.mem_Ico] at hinside
    have hsome := h (position - state.consumed) (by omega)
    rw [Nat.add_sub_cancel' hinside.1] at hsome
    exact mem_waiting.mpr ⟨by omega, hinside.1, hsome⟩
  rw [hread, Finset.card_sdiff_of_subset hsubset, Nat.card_Ico,
    Nat.add_sub_cancel_left]

theorem waiting_skipTo (limit : Nat) :
    (state.skipTo offset).waiting limit = ∅ := by
  refine Finset.eq_empty_of_forall_notMem fun position hwaits => ?_
  obtain ⟨-, hunread, hsome⟩ := mem_waiting.mp hwaits
  rw [skipTo_consumed] at hunread
  simp [skipTo, Nat.not_lt.mpr hunread] at hsome

theorem card_waiting_le {limit : Nat} {room : Nat}
    (hbounded : ∀ offset, state.Settled offset →
      offset < state.consumed + room) :
    (state.waiting limit).card ≤ room := by
  have hsubset : state.waiting limit ⊆
      Finset.Ico state.consumed (state.consumed + room) := by
    intro position hwaits
    obtain ⟨-, hunread, hsome⟩ := mem_waiting.mp hwaits
    exact Finset.mem_Ico.mpr ⟨hunread, hbounded position (.inr hsome)⟩
  have := Finset.card_le_card hsubset
  rwa [Nat.card_Ico, Nat.add_sub_cancel_left] at this

end Laws

/-! ## A reader of one stream -/

/-- What has arrived are pieces of `stream`, and `output` has been read. -/
structure InOrder (stream : Nat → α) (state : Reassembly α)
    (output : List α) : Prop where
  pieces : ∀ offset element, state.content offset = some element →
    element = stream offset
  read : output = (List.range state.consumed).map stream

section Reading

variable {stream : Nat → α} {state : Reassembly α} {offset : Nat}
  {output data : List α}

theorem inOrder_start : InOrder stream start [] where
  pieces := nofun
  read := rfl

theorem InOrder.arrive (h : InOrder stream state output)
    (hpiece : Holds (some ∘ stream) offset data) :
    InOrder stream (state.arrive offset data) output where
  pieces position element hcontent := by
    unfold Reassembly.arrive at hcontent
    dsimp only at hcontent
    split at hcontent
    next hinside =>
      have hheld := hpiece (position - offset) (by omega)
      rw [Nat.add_sub_cancel' hinside.1, hcontent] at hheld
      simpa using hheld.symm
    next => exact h.pieces position element hcontent
  read := h.read

theorem InOrder.consume (h : InOrder stream state output)
    (hdata : Holds state.content state.consumed data) :
    InOrder stream (state.consume data.length) (output ++ data) where
  pieces := h.pieces
  read := by
    rw [consume_consumed, List.range_add, List.map_append, h.read]
    congr 1
    refine List.ext_getElem? fun index => ?_
    by_cases hindex : index < data.length
    · have hheld := hdata index hindex
      rw [List.getElem?_eq_getElem hindex] at hheld ⊢
      simp [hindex, h.pieces _ _ hheld]
    · rw [List.getElem?_eq_none (by omega),
        List.getElem?_eq_none (by simp; omega)]

theorem InOrder.congr {stream' : Nat → α} (h : InOrder stream state output)
    (hsame : ∀ offset, state.Settled offset → stream offset = stream' offset) :
    InOrder stream' state output where
  pieces position element hcontent := by
    rw [← hsame position (.inr (by rw [hcontent]; rfl))]
    exact h.pieces position element hcontent
  read := by
    rw [h.read]
    refine List.map_congr_left fun offset hmem => ?_
    exact hsame offset (.inl (List.mem_range.mp hmem))

theorem InOrder.eq_take {written : List α} {filler : α}
    (h : InOrder (written.getD · filler) state output)
    (hle : state.consumed ≤ written.length) :
    output = written.take state.consumed := by
  rw [h.read]
  refine List.ext_getElem? fun index => ?_
  by_cases hindex : index < state.consumed
  · rw [List.getElem?_take_of_lt hindex, List.getElem?_map,
      List.getElem?_range hindex, Option.map_some,
      List.getD_eq_getElem?_getD, List.getElem?_eq_getElem (by omega)]
    rfl
  · rw [List.getElem?_eq_none (by simp; omega),
      List.getElem?_eq_none (by simp; omega)]

theorem InOrder.forget (h : InOrder stream state output) :
    InOrder stream (state.skipTo state.consumed) output where
  pieces position element hcontent := by
    unfold skipTo at hcontent
    dsimp only at hcontent
    split at hcontent
    · exact h.pieces position element hcontent
    · contradiction
  read := h.read

end Reading

end Reassembly

end RevSDK.Foundation
