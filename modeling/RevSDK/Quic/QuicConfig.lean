import Mathlib.Data.Nat.Digits.Defs
import RevSDK.Quic.StreamConversation

/-!
# The windows of the hellos

Each end says in its hello how much it lets the other send at first, on a
stream and on the connection.  The flow controllers of a conversation begin
with these windows.
-/

namespace RevSDK

inductive QuicTag where
  | kSFCW
  | kCFCW
  deriving DecidableEq, Repr

def QuicTag.tagToString : QuicTag → String
  | kSFCW => "SFCW"
  | kCFCW => "CFCW"

inductive HelloErrorCode where
  | cryptoMessageParameterNotFound
  | invalidCryptoMessageParameter
  deriving DecidableEq, Repr

structure CryptoHandshakeMessage where
  tagValueMap : QuicTag → Option (List UInt8) := fun _ => none

namespace CryptoHandshakeMessage

variable {message : CryptoHandshakeMessage} {tag other : QuicTag}
  {value : UInt32}

/-- The raw contents of a value in the memory of a little-endian machine. -/
def setValue (message : CryptoHandshakeMessage) (tag : QuicTag)
    (value : UInt32) : CryptoHandshakeMessage where
  tagValueMap := Function.update message.tagValueMap tag
    (some ((List.range 4).map fun index =>
      UInt8.ofNat (value.toNat / 256 ^ index)))

def getUint32 (message : CryptoHandshakeMessage) (tag : QuicTag) :
    Except HelloErrorCode UInt32 :=
  match message.tagValueMap tag with
  | none => .error .cryptoMessageParameterNotFound
  | some bytes =>
      if bytes.length ≠ 4 then .error .invalidCryptoMessageParameter
      else .ok (.ofNat (Nat.ofDigits 256 (bytes.map UInt8.toNat)))

@[simp]
theorem getUint32_setValue :
    (message.setValue tag value).getUint32 tag = .ok value := by
  have hlt := value.toNat_lt
  have hdigits : Nat.ofDigits 256 (((List.range 4).map fun index =>
      UInt8.ofNat (value.toNat / 256 ^ index)).map UInt8.toNat) =
        value.toNat := by
    simp [List.range_succ, Nat.ofDigits_cons]
    omega
  simp only [getUint32, setValue, Function.update_self, List.length_map,
    List.length_range, ne_eq, not_true_eq_false, if_false, hdigits,
    UInt32.ofNat_toNat]

@[simp]
theorem getUint32_setValue_of_ne (hne : other ≠ tag) :
    (message.setValue tag value).getUint32 other =
      message.getUint32 other := by
  simp only [getUint32, setValue, Function.update_of_ne hne]

end CryptoHandshakeMessage

/-- The `QuicFixedUint32` of a window, which a hello may leave out. -/
structure InitialWindow (tag : QuicTag) where
  sendValue : UInt32
  receiveValue : Option UInt32 := none
  least_le : kMinimumFlowControlSendWindow ≤ sendValue.toNat

namespace InitialWindow

variable {tag : QuicTag}

/-- A window below the least is taken for the least. -/
def setSendValue (window : InitialWindow tag) (windowBytes : UInt32) :
    InitialWindow tag where
  sendValue :=
    if windowBytes.toNat < kMinimumFlowControlSendWindow then
      .ofNat kMinimumFlowControlSendWindow
    else windowBytes
  receiveValue := window.receiveValue
  least_le := by
    split
    · decide
    · exact Nat.le_of_not_lt ‹_›

@[simp]
theorem toNat_setSendValue (window : InitialWindow tag)
    (windowBytes : UInt32) :
    (window.setSendValue windowBytes).sendValue.toNat =
      max kMinimumFlowControlSendWindow windowBytes.toNat := by
  unfold setSendValue
  dsimp only
  split
  · exact (Nat.max_eq_left (Nat.le_of_lt ‹_›)).symm
  · exact (Nat.max_eq_right (Nat.le_of_not_lt ‹_›)).symm

/-- `GetUint32` clears the value of a parameter that it does not find. -/
def processPeerHello (window : InitialWindow tag)
    (peerHello : CryptoHandshakeMessage) :
    Except (HelloErrorCode × String) (InitialWindow tag) :=
  match peerHello.getUint32 tag with
  | .error .cryptoMessageParameterNotFound =>
      .ok { window with receiveValue := window.receiveValue.map fun _ => 0 }
  | .error error => .error (error, "Bad " ++ tag.tagToString)
  | .ok value => .ok { window with receiveValue := some value }

end InitialWindow

structure QuicConfig where
  initialStreamFlowControlWindowBytes : InitialWindow .kSFCW
  initialSessionFlowControlWindowBytes : InitialWindow .kCFCW

namespace QuicConfig

variable {config peer negotiated : QuicConfig}

def setDefaults : QuicConfig where
  initialStreamFlowControlWindowBytes :=
    { sendValue := .ofNat kMinimumFlowControlSendWindow
      least_le := by decide }
  initialSessionFlowControlWindowBytes :=
    { sendValue := .ofNat kMinimumFlowControlSendWindow
      least_le := by decide }

def setInitialStreamFlowControlWindowToSend (config : QuicConfig)
    (windowBytes : UInt32) : QuicConfig :=
  { config with
    initialStreamFlowControlWindowBytes :=
      config.initialStreamFlowControlWindowBytes.setSendValue windowBytes }

def setInitialSessionFlowControlWindowToSend (config : QuicConfig)
    (windowBytes : UInt32) : QuicConfig :=
  { config with
    initialSessionFlowControlWindowBytes :=
      config.initialSessionFlowControlWindowBytes.setSendValue windowBytes }

def toHandshakeMessage (config : QuicConfig) : CryptoHandshakeMessage :=
  let message := CryptoHandshakeMessage.setValue {} .kSFCW
    config.initialStreamFlowControlWindowBytes.sendValue
  message.setValue .kCFCW
    config.initialSessionFlowControlWindowBytes.sendValue

def processPeerHello (config : QuicConfig)
    (peerHello : CryptoHandshakeMessage) :
    Except (HelloErrorCode × String) QuicConfig := do
  let initialStreamFlowControlWindowBytes ←
    config.initialStreamFlowControlWindowBytes.processPeerHello peerHello
  let initialSessionFlowControlWindowBytes ←
    config.initialSessionFlowControlWindowBytes.processPeerHello peerHello
  return { initialStreamFlowControlWindowBytes,
           initialSessionFlowControlWindowBytes }

def getReceivedFlowControlWindow (config : QuicConfig) : Nat :=
  match config.initialStreamFlowControlWindowBytes.receiveValue with
  | some window => window.toNat
  | none => kMinimumFlowControlSendWindow

/-- The connection is closed with `QUIC_FLOW_CONTROL_INVALID_WINDOW`. -/
def onNewSessionFlowControlWindow (controller : QuicFlowController)
    (newWindow : Nat) : Except String QuicFlowController :=
  if newWindow < kMinimumFlowControlSendWindow then
    .error "New connection window too low"
  else .ok (controller.updateSendWindowOffset newWindow).2

/--
The connection has its controller before the hello comes, and is told of the
window then; a stream is made when it has come.
-/
def flowController (config : QuicConfig) (id : Nat) :
    Except String QuicFlowController :=
  if id = kConnectionLevelId then
    let controller := .new id kMinimumFlowControlSendWindow
      config.initialSessionFlowControlWindowBytes.sendValue.toNat false
    match config.initialSessionFlowControlWindowBytes.receiveValue with
    | some window => onNewSessionFlowControlWindow controller window.toNat
    | none => .ok controller
  else
    .ok (.new id config.getReceivedFlowControlWindow
      config.initialStreamFlowControlWindowBytes.sendValue.toNat false)

def window (config : QuicConfig) (id : Nat) : Nat :=
  if id = kConnectionLevelId then
    config.initialSessionFlowControlWindowBytes.sendValue.toNat
  else config.initialStreamFlowControlWindowBytes.sendValue.toNat

theorem least_le_window (config : QuicConfig) (id : Nat) :
    kMinimumFlowControlSendWindow ≤ config.window id := by
  unfold window
  split
  · exact config.initialSessionFlowControlWindowBytes.least_le
  · exact config.initialStreamFlowControlWindowBytes.least_le

theorem processPeerHello_toHandshakeMessage (config peer : QuicConfig) :
    config.processPeerHello peer.toHandshakeMessage = .ok
      { initialStreamFlowControlWindowBytes :=
          { config.initialStreamFlowControlWindowBytes with
            receiveValue :=
              some peer.initialStreamFlowControlWindowBytes.sendValue }
        initialSessionFlowControlWindowBytes :=
          { config.initialSessionFlowControlWindowBytes with
            receiveValue :=
              some peer.initialSessionFlowControlWindowBytes.sendValue } } := by
  have hstream : peer.toHandshakeMessage.getUint32 .kSFCW =
      .ok peer.initialStreamFlowControlWindowBytes.sendValue := by
    unfold toHandshakeMessage
    rw [CryptoHandshakeMessage.getUint32_setValue_of_ne (by decide),
      CryptoHandshakeMessage.getUint32_setValue]
  have hsession : peer.toHandshakeMessage.getUint32 .kCFCW =
      .ok peer.initialSessionFlowControlWindowBytes.sendValue :=
    CryptoHandshakeMessage.getUint32_setValue
  simp only [processPeerHello, InitialWindow.processPeerHello, hstream,
    hsession]
  rfl

theorem flowController_processPeerHello
    (hhello : config.processPeerHello peer.toHandshakeMessage = .ok negotiated)
    (id : Nat) :
    negotiated.flowController id =
      .ok (.new id (peer.window id) (config.window id) false) := by
  have hleast := peer.least_le_window id
  rw [processPeerHello_toHandshakeMessage, Except.ok.injEq] at hhello
  subst hhello
  unfold window at hleast
  unfold flowController window
  by_cases hid : id = kConnectionLevelId
  · rw [if_pos hid] at hleast
    simp only [if_pos hid]
    unfold onNewSessionFlowControlWindow
    rw [if_neg (Nat.not_lt.mpr hleast)]
    congr 1
    -- The least window is either enlarged or what the peer has sent.
    unfold QuicFlowController.updateSendWindowOffset QuicFlowController.new
    dsimp only
    split
    · rw [Nat.le_antisymm ‹_› hleast]
    · rfl
  · simp only [if_neg hid]
    rfl

theorem flowController_isOk_iff (config : QuicConfig) (id : Nat) :
    (∃ controller, config.flowController id = .ok controller) ↔
      (id = kConnectionLevelId → ∀ window,
        config.initialSessionFlowControlWindowBytes.receiveValue =
          some window → kMinimumFlowControlSendWindow ≤ window.toNat) := by
  unfold flowController
  by_cases hid : id = kConnectionLevelId
  · simp only [if_pos hid]
    cases config.initialSessionFlowControlWindowBytes.receiveValue with
    | none => simp
    | some window =>
        unfold onNewSessionFlowControlWindow
        by_cases hlt : window.toNat < kMinimumFlowControlSendWindow
        · simp [hid, hlt]
        · simp [hid, hlt, Nat.le_of_not_lt hlt]
  · simp [hid]

end QuicConfig

def Terms.negotiated (reader : QuicConfig) (activated : List (Nat × Nat))
    (limit : Nat)
    (data : ∀ stream ∈ activated, stream.1 ≠ kConnectionLevelId ∧
      stream.1 ≠ kCryptoStreamId ∧ stream.1 ≠ kHeadersStreamId)
    (window_le : ∀ id, reader.window id ≤
      if id = kConnectionLevelId then kSessionReceiveWindowLimit
      else kStreamReceiveWindowLimit)
    (limit_lt : limit + 3 * kSessionReceiveWindowLimit < maxStreamOffset) :
    Terms where
  activated
  limit
  sendWindow := reader.window
  receiveWindow := reader.window
  autoTune := false
  data
  granted _ := Nat.le_refl _
  two_le id := Nat.le_trans (by decide) (reader.least_le_window id)
  receiveWindow_le := window_le
  limit_lt

theorem Terms.flowController_negotiated
    {writer reader writes reads : QuicConfig}
    {activated : List (Nat × Nat)} {limit : Nat}
    (hwrites : writer.processPeerHello reader.toHandshakeMessage = .ok writes)
    (hreads : reader.processPeerHello writer.toHandshakeMessage = .ok reads)
    (data : ∀ stream ∈ activated, stream.1 ≠ kConnectionLevelId ∧
      stream.1 ≠ kCryptoStreamId ∧ stream.1 ≠ kHeadersStreamId)
    (window_le : ∀ id, reader.window id ≤
      if id = kConnectionLevelId then kSessionReceiveWindowLimit
      else kStreamReceiveWindowLimit)
    (limit_lt : limit + 3 * kSessionReceiveWindowLimit < maxStreamOffset)
    (id : Nat) :
    ∃ sending receiving,
      writes.flowController id = .ok sending ∧
      reads.flowController id = .ok receiving ∧
      (negotiated reader activated limit data window_le
        limit_lt).flowController id =
          { receiving with sendWindowOffset := sending.sendWindowOffset } ∧
      (negotiated reader activated limit data window_le
        limit_lt).flowController id =
          { sending with
            receiveWindowOffset := receiving.receiveWindowOffset
            receiveWindowSize := receiving.receiveWindowSize } :=
  ⟨_, _, QuicConfig.flowController_processPeerHello hwrites id,
    QuicConfig.flowController_processPeerHello hreads id, rfl, rfl⟩

def kInitialReceiveWindowSize : UInt32 := 10 * 1024 * 1024

/-- The configuration of every `QUICSession`. -/
def QUICSession.mConfig : QuicConfig :=
  ((QuicConfig.setDefaults.setInitialSessionFlowControlWindowToSend
    kInitialReceiveWindowSize).setInitialStreamFlowControlWindowToSend
    kInitialReceiveWindowSize).setInitialStreamFlowControlWindowToSend
    kInitialReceiveWindowSize

theorem QUICSession.mConfig_window (id : Nat) :
    QUICSession.mConfig.window id = kInitialReceiveWindowSize.toNat := by
  have hmax : max kMinimumFlowControlSendWindow
      kInitialReceiveWindowSize.toNat = kInitialReceiveWindowSize.toNat := by
    decide
  unfold QuicConfig.window QUICSession.mConfig
  simp only [QuicConfig.setInitialStreamFlowControlWindowToSend,
    QuicConfig.setInitialSessionFlowControlWindowToSend,
    InitialWindow.toNat_setSendValue, hmax, ite_self]

theorem QUICSession.mConfig_window_le (id : Nat) :
    QUICSession.mConfig.window id ≤
      if id = kConnectionLevelId then kSessionReceiveWindowLimit
      else kStreamReceiveWindowLimit := by
  rw [QUICSession.mConfig_window]
  split <;> decide

end RevSDK
