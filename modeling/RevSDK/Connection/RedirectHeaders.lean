import RevSDK.Connection.EdgeConnection
import RevSDK.Connection.URLReading

/-!
# Header blocks that ask for a redirection

A response with the code 301 or 302 should be redirected to its `Location`, in
whatever case the name is written, and any other response handed on.  The code
looks the name up as it is spelled, and asserts that it is there.
-/

namespace RevSDK

open RevSDK.Foundation

def QUICConnection.requestFor (platform : URLPlatform)
    (connection : QUICConnection) (location : String) :
    Outcome (Option Request) := do
  let request := connection.mRequest
  let url := correctURLIfNeeded platform location request.mOriginalScheme
  match ← decomposeURL platform connection.mURL url with
  | none => return none
  | some ⟨host, path, scheme⟩ =>
      return some { request with
        mURL := url
        mHost := host
        mPath := path
        mRest := path
        mOriginalScheme := scheme }

/-- Names of header fields are compared without case. -/
def isLocation (name : String) : Bool := name.toLower == "location"

structure AsksRedirect (connection : QUICConnection) (aCode : Int) : Prop where
  code : aCode = 301 ∨ aCode = 302
  depth : connection.mDepth < 10

def LocatedAt (platform : URLPlatform) (connection : QUICConnection)
    (aHeaders : SpdyHeaderBlock) (newRequest : Request) : Prop :=
  ∃ field ∈ aHeaders, isLocation field.1 = true ∧
    connection.requestFor platform field.2 = .ok (some newRequest)

def QUICConnection.receivedResponse (connection : QUICConnection)
    (aHeaders : SpdyHeaderBlock) (aCode : Int) : Response :=
  ⟨connection.mURL, responseHeaders aHeaders, aCode⟩

inductive CallDue (platform : URLPlatform) (connection : QUICConnection)
    (aHeaders : SpdyHeaderBlock) (aCode : Int) : ConnectionCall → Prop
  | redirected (newRequest : Request) (hasks : AsksRedirect connection aCode)
      (hlocated : LocatedAt platform connection aHeaders newRequest) :
      CallDue platform connection aHeaders aCode
        (.connectionWasRedirected newRequest
          (connection.receivedResponse aHeaders aCode))
  | delivered (hnot : AsksRedirect connection aCode →
        ∀ newRequest, ¬ LocatedAt platform connection aHeaders newRequest) :
      CallDue platform connection aHeaders aCode
        (.connectionDidReceiveResponse
          (connection.receivedResponse aHeaders aCode))

/-- The response is handled, with exactly the call that is due. -/
def HandlesResponse (platform : URLPlatform) (connection : QUICConnection)
    (aHeaders : SpdyHeaderBlock) (aCode : Int) : Prop :=
  ∃ connection' call,
    connection.quicSessionDidReceiveResponse platform aHeaders aCode =
        .ok (connection', [call]) ∧
      CallDue platform connection aHeaders aCode call

/-- The field that the code looks up is there, reading it raises nothing, and
it is usable if any location is. -/
def FindsLocation (platform : URLPlatform) (connection : QUICConnection)
    (aHeaders : SpdyHeaderBlock) : Prop :=
  ∃ location, aHeaders.lookup "Location" = some location ∧
    ((∃ newRequest,
        connection.requestFor platform location = .ok (some newRequest)) ∨
      connection.requestFor platform location = .ok none ∧
        ∀ newRequest, ¬ LocatedAt platform connection aHeaders newRequest)

section Redirects

variable {platform : URLPlatform} {connection : QUICConnection}
  {aHeaders : SpdyHeaderBlock} {aCode : Int}

theorem redirection_eq (platform : URLPlatform) (connection : QUICConnection)
    (aHeaders : SpdyHeaderBlock) :
    connection.redirection platform aHeaders =
      match aHeaders.lookup "Location" with
      | none => .error (.assertionFailed "false")
      | some location => connection.requestFor platform location := rfl

theorem receiveResponse_of_asks (hasks : AsksRedirect connection aCode)
    (hfirst : connection.mRedirect = none) :
    connection.quicSessionDidReceiveResponse platform aHeaders aCode =
      (connection.redirection platform aHeaders).bind fun
        | none => .ok (connection.deliverResponse aHeaders aCode)
        | some newRequest =>
            .ok ({ connection with mRedirect := some (connection.mDepth + 1) },
              [.connectionWasRedirected newRequest
                (connection.receivedResponse aHeaders aCode)]) := by
  have hguard : (connection.mRedirect.isNone && (aCode == 301 || aCode == 302)
      && connection.mDepth < 10) = true := by
    rcases hasks.code with hcode | hcode <;>
      simp [hfirst, hcode, hasks.depth]
  unfold QUICConnection.quicSessionDidReceiveResponse
  rw [if_pos hguard]
  cases connection.redirection platform aHeaders with
  | error fault => rfl
  | ok newRequest => cases newRequest <;> rfl

theorem receiveResponse_otherwise
    (hnot : AsksRedirect connection aCode → connection.mRedirect ≠ none) :
    connection.quicSessionDidReceiveResponse platform aHeaders aCode =
      .ok (connection.deliverResponse aHeaders aCode) := by
  unfold QUICConnection.quicSessionDidReceiveResponse
  split
  next hguard =>
    simp only [Bool.and_eq_true, Bool.or_eq_true, beq_iff_eq,
      decide_eq_true_eq, Option.isNone_iff_eq_none] at hguard
    obtain ⟨⟨hfirst, hcode⟩, hdepth⟩ := hguard
    exact absurd hfirst (hnot ⟨hcode, hdepth⟩)
  next => rfl

theorem locatedAt_of_lookup {location : String} {newRequest : Request}
    (hlookup : aHeaders.lookup "Location" = some location)
    (hrequest : connection.requestFor platform location =
      .ok (some newRequest)) :
    LocatedAt platform connection aHeaders newRequest := by
  have hname : isLocation "Location" = true := by decide +kernel
  obtain ⟨before, after, rfl, -⟩ := List.lookup_eq_some_iff.mp hlookup
  exact ⟨("Location", location), by simp, hname, hrequest⟩

theorem deliver_callDue_iff :
    (∃ connection' call, Except.ok (connection.deliverResponse aHeaders aCode) =
        (.ok (connection', [call]) : Outcome _) ∧
      CallDue platform connection aHeaders aCode call) ↔
    (AsksRedirect connection aCode →
      ∀ newRequest, ¬ LocatedAt platform connection aHeaders newRequest) := by
  constructor
  · rintro ⟨connection', call, hdelivered, hdue⟩
    obtain ⟨-, hcalls⟩ := Prod.mk.inj (Except.ok.inj hdelivered)
    obtain ⟨rfl, -⟩ := List.cons.inj hcalls
    cases hdue with
    | delivered hnot => exact hnot
  · intro hnot
    exact ⟨_, _, rfl, .delivered hnot⟩

/--
A response that asks for a redirection is handled exactly if, on a connection
not redirected yet, the name is spelled `Location`, its value can be read, and
another spelling does not hide a usable one.
-/
theorem handlesResponse_iff (platform : URLPlatform)
    (connection : QUICConnection) (aHeaders : SpdyHeaderBlock) (aCode : Int) :
    HandlesResponse platform connection aHeaders aCode ↔
      (AsksRedirect connection aCode →
        connection.mRedirect = none ∧
            FindsLocation platform connection aHeaders ∨
          connection.mRedirect ≠ none ∧
            ∀ newRequest,
              ¬ LocatedAt platform connection aHeaders newRequest) := by
  unfold HandlesResponse
  by_cases hasks : AsksRedirect connection aCode
  · by_cases hfirst : connection.mRedirect = none
    · rw [receiveResponse_of_asks hasks hfirst, redirection_eq]
      simp only [hasks, hfirst, forall_const, true_and, ne_eq, not_true,
        false_and, or_false, FindsLocation]
      cases hlookup : aHeaders.lookup "Location" with
      | none => simp [Except.bind]
      | some location =>
          simp only [Option.some.injEq, exists_eq_left']
          cases hrequest : connection.requestFor platform location with
          | error fault => simp [Except.bind]
          | ok result =>
              cases result with
              | none =>
                  have hdue := @deliver_callDue_iff platform connection
                    aHeaders aCode
                  exact hdue.trans (by simp [hasks])
              | some newRequest =>
                  have hlocated := locatedAt_of_lookup hlookup hrequest
                  refine iff_of_true ⟨_, _, rfl, .redirected _ hasks hlocated⟩
                    (.inl ⟨newRequest, rfl⟩)
    · rw [receiveResponse_otherwise fun _ => hfirst, deliver_callDue_iff]
      simp [hfirst]
  · rw [receiveResponse_otherwise fun h => absurd h hasks,
      deliver_callDue_iff]
    simp [hasks]

/-- In HTTP/2 the names of fields are written in lower case. -/
theorem lowercaseLocation_not_handled :
    ¬ HandlesResponse referencePlatform
      { mURL := "https://example.com/"
        mRequest :=
          { mMethod := "GET"
            mOriginalURL := "https://example.com/"
            mURL := "https://example.com/"
            mHeaders := []
            mBody := ⟨[]⟩ } }
      [(":status", "301"), ("location", "https://example.org/")] 301 := by
  rintro ⟨connection', call, hhandled, -⟩
  cases hhandled

end Redirects

end RevSDK
