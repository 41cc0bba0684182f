import RevSDK.Debug.RSLog

/-!
# Logged texts

The calls of the log that pass a text built from runtime strings, with the
fragments each of them joins, and the calls of a QUIC connection that dump all
headers of a request or a response through `%s`.
-/

namespace RevSDK

open Foundation Foundation.Printf

def kLogTagSDKLastMile : Nat := 2
def kLogTagProtocolAvailability : Nat := 4
def kLogTagSDKInerception : Nat := 5
def kLogTagQUICRequest : Nat := 20

inductive Fragment where
  | fixed (text : String)
  | runtime (text : List UInt8)

def Fragment.bytes : Fragment → List UInt8
  | .fixed text => bytesOf text
  | .runtime text => text

def decimal (value : Int) : List UInt8 :=
  (if value < 0 then [byte '-'] else []) ++ digitsIn 10 value.natAbs

inductive PrebuiltCall where
  | testRequestByURL (lg : List UInt8)
  | performReques (aURL : List UInt8)
  | p_startWithRequest (rest : List UInt8)
  | startLoading (absoluteString : List UInt8)
  | handleTestResults (mAvailableProtocols : List (List UInt8))
  | sortProtocols (front : List UInt8)
  | bestProtocol (protocolName : List UInt8)
  | pickedInitial (initialTransportProtocol : List UInt8)
  | onConfigurationApplied (mAvailableProtocols : List (List UInt8))
  | onTestResult (ProtocolID : List UInt8) (aSuccess : Bool)
  | logRequest (aProtocolID : List UInt8) (Code interval percent : Int)

namespace PrebuiltCall

def listed (protocols : List (List UInt8)) : List Fragment :=
  protocols.flatMap fun it => [.runtime it, .fixed ", "]

def fragments : PrebuiltCall → List Fragment
  | .testRequestByURL lg =>
      [.fixed "All http heades of request:: ", .runtime lg]
  | .performReques aURL =>
      [.fixed "...request processed, headers set, sending to ", .runtime aURL]
  | .p_startWithRequest rest =>
      [.fixed "rest starts from invalid symbol ", .runtime rest]
  | .startLoading absoluteString =>
      [.fixed "Operation mode off failed on URL ", .runtime absoluteString]
  | .handleTestResults mAvailableProtocols =>
      .fixed "ProtocolSelector:: finished testing. Available protocols:: " ::
        listed mAvailableProtocols
  | .sortProtocols front =>
      [.fixed "ProtocolSelector:: picked protocol : : ", .runtime front]
  | .bestProtocol protocolName =>
      [.runtime protocolName, .fixed " Protcol name is being used"]
  | .pickedInitial initialTransportProtocol =>
      [.fixed "ProtocolSelector:: picked initial protocol : ",
        .runtime initialTransportProtocol]
  | .onConfigurationApplied mAvailableProtocols =>
      .fixed
        "ProtocolSelector:: Configuration applied. Available protocols:: " ::
        listed mAvailableProtocols
  | .onTestResult ProtocolID aSuccess =>
      [.fixed "Got a responce on a test request, ", .runtime ProtocolID,
        .fixed " is ",
        .fixed (if aSuccess then "available" else " not available")]
  | .logRequest aProtocolID Code interval percent =>
      [.runtime aProtocolID, .fixed " | Request failed (",
        .runtime (decimal Code),
        .fixed "); percent of failed requests in last ",
        .runtime (decimal interval), .fixed " sec :: ",
        .runtime (decimal percent)]

def level : PrebuiltCall → Level
  | .p_startWithRequest _ | .startLoading _ => .error
  | .logRequest .. => .warning
  | _ => .info

def aTag : PrebuiltCall → Nat
  | .p_startWithRequest _ => kLogTagQUICRequest
  | .startLoading _ => kLogTagSDKInerception
  | .logRequest .. => kLogTagProtocolAvailability
  | _ => kLogTagSDKLastMile

def text (call : PrebuiltCall) : List UInt8 :=
  call.fragments.flatMap Fragment.bytes

def logCall (call : PrebuiltCall) : LogCall :=
  { level := call.level, aTag := call.aTag, aFormat := some call.text
    aArgs := [] }

end PrebuiltCall

namespace QUICConnection

def headerLines (headers : List (List UInt8 × List UInt8)) : List UInt8 :=
  headers.flatMap fun (name, value) =>
    name ++ bytesOf ": " ++ value ++ bytesOf "\n"

def requestDump (mTS : Int) (url method : List UInt8) (bodySize : Int)
    (headers : List (List UInt8 × List UInt8)) : List UInt8 :=
  bytesOf "timestamp = " ++ decimal mTS ++
    bytesOf "url = " ++ url ++ bytesOf "\n" ++
    bytesOf "method = " ++ method ++ bytesOf "\n" ++
    bytesOf "body-size = " ++ decimal bodySize ++
    bytesOf "headers = \n" ++ headerLines headers

def requestCall (mId : Int) (dump : List UInt8) : LogCall :=
  { level := .info, aTag := kLogTagQUICRequest
    aFormat := some (bytesOf "Request #%d\n%s")
    aArgs := [.int mId, .text dump] }

end QUICConnection

/-- No percent sign is written in the source. -/
def Fragment.plain : Fragment → Bool
  | .fixed text => !(bytesOf text).contains percentSign
  | .runtime _ => true

theorem PrebuiltCall.fragments_plain (call : PrebuiltCall) :
    call.fragments.all Fragment.plain = true := by
  have hprotocolsPlain (protocols : List (List UInt8)) :
      (listed protocols).all Fragment.plain = true := by
    rw [listed, List.all_flatMap, List.all_eq_true]
    exact fun _ _ => rfl
  cases call with
  | handleTestResults protocols | onConfigurationApplied protocols =>
      exact Bool.and_eq_true_iff.mpr ⟨by decide, hprotocolsPlain protocols⟩
  | onTestResult _ aSuccess => cases aSuccess <;> rfl
  | _ => rfl

theorem PrebuiltCall.text_plain_iff (call : PrebuiltCall) :
    percentSign ∉ call.text ↔
      ∀ text, .runtime text ∈ call.fragments → percentSign ∉ text := by
  have hfixedPlain := List.all_eq_true.mp call.fragments_plain
  constructor
  · intro hplain text hfound hsign
    exact hplain (List.mem_flatMap.mpr ⟨.runtime text, hfound, hsign⟩)
  · intro hruntimePlain hsign
    obtain ⟨fragment, hfound, hsign⟩ := List.mem_flatMap.mp hsign
    cases fragment with
    | fixed text =>
        have hplain := hfixedPlain _ hfound
        simp [Fragment.plain] at hplain
        exact hplain hsign
    | runtime text => exact hruntimePlain text hfound hsign

theorem cText_of_whole (text : List UInt8) (hwhole : 0 ∉ text) :
    cText text = text := by
  refine List.takeWhile_eq_self_iff.mpr fun next hnext => ?_
  exact bne_iff_ne.mpr fun isEnd => hwhole (isEnd ▸ hnext)

theorem PrebuiltCall.printsFaithfully_iff (call : PrebuiltCall) (log : Log)
    (floatText : FloatText) (hwhole : 0 ∉ call.text) :
    call.logCall.PrintsFaithfully log floatText ↔
      (∀ text, .runtime text ∈ call.fragments → percentSign ∉ text) ∧
        call.text.length < mBufferSize := by
  rw [call.logCall.prebuilt_iff log floatText call.text rfl rfl,
    cText_of_whole call.text hwhole, call.text_plain_iff]

namespace QUICConnection

theorem requestCall_format :
    parse .text {} (cText (bytesOf "Request #%d\n%s")) =
      some ((bytesOf "Request #").map .literal ++
        [.directive { conversion := byte 'd' } .int, .literal (byte '\n'),
          .directive { conversion := byte 's' } .text]) := by
  decide

theorem requestCall_length (mId : Int) (dump : List UInt8)
    (floatText : FloatText) :
    printedLength floatText (cText (bytesOf "Request #%d\n%s"))
        [.int mId, .text dump] =
      printedLength floatText (bytesOf "%d") [.int mId] +
        (cText dump).length + 10 := by
  have hnumber : parse .text {} (bytesOf "%d") =
      some [.directive { conversion := byte 'd' } .int] := by decide
  have hwhole : (Directive.item { conversion := byte 's' } floatText none none
      (.text dump)).length = (cText dump).length := by
    simp [Directive.item, Item.length, Directive.field]
  simp only [printedLength, printed, requestCall_format, hnumber,
    Option.bind_some]
  simp [items, Directive.take, Amount.take, Argument.kind, bytesOf, hwhole]
  omega

theorem requestCall_iff (mId : Int) (dump : List UInt8) (log : Log)
    (floatText : FloatText) :
    (requestCall mId dump).PrintsFaithfully log floatText ↔
      printedLength floatText (bytesOf "%d") [.int mId] +
        (cText dump).length + 10 < mBufferSize := by
  have hsupplied : Supplied (cText (bytesOf "Request #%d\n%s"))
      [.int mId, .text dump] := ⟨_, requestCall_format, [], rfl⟩
  rw [← requestCall_length mId dump floatText,
    (requestCall mId dump).supplied_iff log floatText _ rfl
      (List.cons_ne_nil _ _)]
  exact and_iff_right hsupplied

theorem length_headerLines_le (mTS : Int) (url method : List UInt8)
    (bodySize : Int) (headers : List (List UInt8 × List UInt8)) :
    (headerLines headers).length ≤
      (requestDump mTS url method bodySize headers).length := by
  rw [requestDump, List.length_append]
  exact Nat.le_add_left _ _

theorem requestCall_overflows (mId mTS : Int) (url method : List UInt8)
    (bodySize : Int) (headers : List (List UInt8 × List UInt8)) (log : Log)
    (floatText : FloatText)
    (hwhole : 0 ∉ requestDump mTS url method bodySize headers)
    (hlong : mBufferSize ≤ (headerLines headers).length) :
    ¬ (requestCall mId (requestDump mTS url method bodySize headers)
      ).PrintsFaithfully log floatText := by
  rw [requestCall_iff, cText_of_whole _ hwhole]
  have hdump := length_headerLines_le mTS url method bodySize headers
  omega

end QUICConnection

theorem LogCall.printsFaithfully_iff_harmless (call : LogCall) (log : Log)
    (floatText : FloatText) :
    call.PrintsFaithfully log floatText ↔ call.Harmless floatText := by
  unfold Harmless
  cases htext : call.aFormat with
  | none =>
      refine iff_of_true ⟨-1, [], ?_, ?_⟩ ?_
      · rw [run_eq, htext]
        rfl
      · intro text hsome
        rw [htext] at hsome
        cases hsome
      · intro text hsome
        cases hsome
  | some text =>
      simp only [Option.some.injEq, forall_eq']
      split
      next halone => exact call.prebuilt_iff log floatText text htext halone
      next hsupplied =>
        exact call.supplied_iff log floatText text htext hsupplied

/-- `%20d` in a URL reads an argument that was not passed. -/
theorem escapedURL_not_printed :
    ¬ (PrebuiltCall.startLoading (bytesOf "http://example.com/a%20d")
      ).logCall.PrintsFaithfully ⟨0, []⟩ (fun _ _ _ => ([], [])) := by
  rw [LogCall.prebuilt_iff _ _ _ _ rfl rfl]
  exact fun harmless => harmless.1 (by decide)

end RevSDK
