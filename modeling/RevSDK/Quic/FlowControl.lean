import RevSDK.Quic.QuicFlowController

/-!
# What a flow controller keeps

The sending half never counts more than it was granted; the receiving half
keeps its grant between half a window and a window ahead of what was consumed.
-/

namespace RevSDK

variable {controller : QuicFlowController} {bytes : Nat}

structure Granting (controller : QuicFlowController) : Prop where
  two_le : 2 ≤ controller.receiveWindowSize
  size_le : controller.receiveWindowSize ≤ controller.receiveWindowSizeLimit
  low : controller.bytesConsumed + controller.receiveWindowSize / 2 ≤
    controller.receiveWindowOffset
  high : controller.receiveWindowOffset ≤
    controller.bytesConsumed + controller.receiveWindowSize

structure SameOutside (controller next : QuicFlowController) : Prop where
  id : next.id = controller.id
  bytesSent : next.bytesSent = controller.bytesSent
  sendWindowOffset : next.sendWindowOffset = controller.sendWindowOffset
  highest : next.highestReceivedByteOffset =
    controller.highestReceivedByteOffset
  limit : next.receiveWindowSizeLimit = controller.receiveWindowSizeLimit

inductive Regranted (controller next : QuicFlowController) :
    List TransportCall → Prop
  | same : next.receiveWindowOffset = controller.receiveWindowOffset →
      Regranted controller next []
  | more : controller.receiveWindowOffset ≤ next.receiveWindowOffset →
      Regranted controller next
        [.sendWindowUpdate controller.id next.receiveWindowOffset]

namespace QuicFlowController

theorem maybeIncreaseMaxWindowSize_spec (controller : QuicFlowController)
    (timing : QuicTiming)
    (hsize : controller.receiveWindowSize ≤ controller.receiveWindowSizeLimit)
    (hlimit : controller.receiveWindowSizeLimit +
      controller.receiveWindowSizeLimit < maxStreamOffset) :
    ∃ size time,
      controller.maybeIncreaseMaxWindowSize timing = { controller with
        receiveWindowSize := size, prevWindowUpdateTime := time } ∧
      controller.receiveWindowSize ≤ size ∧
      size ≤ controller.receiveWindowSizeLimit := by
  unfold maybeIncreaseMaxWindowSize
  dsimp only
  split
  · exact ⟨_, _, rfl, Nat.le_refl _, hsize⟩
  split
  · exact ⟨_, _, rfl, Nat.le_refl _, hsize⟩
  split
  · exact ⟨_, _, rfl, Nat.le_refl _, hsize⟩
  split
  · exact ⟨_, _, rfl, Nat.le_refl _, hsize⟩
  split
  · exact ⟨_, _, rfl, Nat.le_refl _, hsize⟩
  · rw [offsetSum_eq (by omega)]
    exact ⟨_, _, rfl, by omega, by omega⟩

theorem addBytesConsumed_spec (h : Granting controller) (timing : QuicTiming)
    (hbytes : controller.bytesConsumed + bytes ≤
      controller.receiveWindowOffset)
    (hlimit : controller.bytesConsumed + bytes +
      controller.receiveWindowSizeLimit + controller.receiveWindowSizeLimit <
        maxStreamOffset) :
    ∃ next calls,
      controller.addBytesConsumed timing bytes = (next, calls) ∧
      Granting next ∧ SameOutside controller next ∧
      next.bytesConsumed = controller.bytesConsumed + bytes ∧
      Regranted controller next calls := by
  obtain ⟨htwo, hsize, hlow, hhigh⟩ := h
  unfold addBytesConsumed maybeSendWindowUpdate windowUpdateThreshold
  dsimp only
  rw [offsetSum_eq (by omega), offsetDifference_eq hbytes (by omega)]
  split
  next henough =>
    exact ⟨_, _, rfl, ⟨htwo, hsize, by dsimp only; omega,
      by dsimp only; omega⟩, ⟨rfl, rfl, rfl, rfl, rfl⟩, rfl, .same rfl⟩
  next hlittle =>
    obtain ⟨size, time, hincrease, hmore, hless⟩ :=
      maybeIncreaseMaxWindowSize_spec { controller with
        bytesConsumed := controller.bytesConsumed + bytes } timing hsize
        (by dsimp only; omega)
    rw [hincrease]
    dsimp only at hmore hless ⊢
    rw [offsetDifference_eq (by omega) (by omega), offsetSum_eq (by omega)]
    exact ⟨_, _, rfl, ⟨by dsimp only; omega, hless, by dsimp only; omega,
      by dsimp only; omega⟩, ⟨rfl, rfl, rfl, rfl, rfl⟩, rfl,
      .more (by dsimp only; omega)⟩

theorem addBytesSent_eq (controller : QuicFlowController) (bytes : Nat)
    (hwindow : controller.bytesSent + bytes ≤
      controller.sendWindowOffset)
    (hlimit : controller.sendWindowOffset < maxStreamOffset) :
    controller.addBytesSent bytes =
      ({ controller with bytesSent := controller.bytesSent + bytes }, []) := by
  unfold addBytesSent
  rw [offsetSum_eq (by omega), if_neg (by omega)]

theorem sendWindowSize_eq (hwindow : controller.bytesSent ≤
      controller.sendWindowOffset) :
    controller.sendWindowSize =
      controller.sendWindowOffset - controller.bytesSent := by
  unfold sendWindowSize
  rw [if_neg (by omega)]

theorem isBlocked_iff (hwindow : controller.bytesSent ≤
      controller.sendWindowOffset) :
    controller.isBlocked = true ↔
      controller.bytesSent = controller.sendWindowOffset := by
  unfold isBlocked
  rw [sendWindowSize_eq hwindow, decide_eq_true_eq]
  omega

theorem maybeSendBlocked_spec :
    ∃ last calls, controller.maybeSendBlocked =
      ({ controller with lastBlockedSendWindowOffset := last }, calls) ∧
      (calls = [] ∨ calls = [.sendBlocked controller.id]) := by
  unfold maybeSendBlocked
  split
  · exact ⟨_, _, rfl, .inr rfl⟩
  · exact ⟨_, _, rfl, .inl rfl⟩

end QuicFlowController

end RevSDK
