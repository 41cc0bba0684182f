import RevSDK.Connection.ConnectionEnds

/-!
# The anchors of a QUIC connection

A started connection keeps itself alive by `mAnchor0`, and by `mAnchor1` as
well once it follows a redirection; each is a reference to the connection
itself, or empty.  `mRedirect` is never started, so the callbacks that release
`mAnchor1` on its behalf are never made.
-/

namespace RevSDK

open RevSDK.Foundation
open RevSDK.Foundation.EventSystem

structure AnchoredConnection where
  connection : QUICConnection
  mAnchor0 : Bool := false
  mAnchor1 : Bool := false
  ended : Bool := false

def redirectCode (aCode : Int) : Bool := aCode == 301 || aCode == 302

def QUICStreamEvent.redirects : QUICStreamEvent → Bool
  | .quicSessionDidReceiveResponse _ aCode => redirectCode aCode
  | _ => false

namespace AnchoredConnection

def startWithRequest (base : Connection) (depth : Nat) (aRequest : Request) :
    AnchoredConnection :=
  { connection :=
      { (QUICConnection.startWithRequest base aRequest).1 with
        mDepth := depth }
    mAnchor0 := true }

/-- The second anchor is set before the target is read. -/
def quicSessionDidReceiveResponse (platform : URLPlatform)
    (anchored : AnchoredConnection) (aHeaders : SpdyHeaderBlock)
    (aCode : Int) : Outcome (AnchoredConnection × List ConnectionCall) := do
  let connection := anchored.connection
  let mAnchor1 :=
    if connection.mRedirect.isNone && redirectCode aCode &&
        connection.mDepth < 10 then anchored.mAnchor0
    else anchored.mAnchor1
  let (connection, calls) ←
    connection.quicSessionDidReceiveResponse platform aHeaders aCode
  return ({ anchored with connection := connection, mAnchor1 := mAnchor1 },
    calls)

/-- A redirected connection returns before its anchor is reset. -/
def release (anchored : AnchoredConnection) (connection : QUICConnection) :
    AnchoredConnection :=
  { anchored with
    connection := connection
    mAnchor0 := connection.mRedirect.isSome && anchored.mAnchor0
    ended := true }

def quicSessionDidFinish (anchored : AnchoredConnection) (now : Int) :
    Outcome (AnchoredConnection × List ConnectionCall) := do
  let (connection, calls) ← anchored.connection.quicSessionDidFinish now
  return (anchored.release connection, calls)

def quicSessionDidFail (anchored : AnchoredConnection) (error : Error) :
    AnchoredConnection × List ConnectionCall :=
  let (connection, calls) := anchored.connection.quicSessionDidFail error
  (anchored.release connection, calls)

def react (platform : URLPlatform) (anchored : AnchoredConnection) :
    QUICStreamEvent → Outcome (AnchoredConnection × List ConnectionCall)
  | .quicSessionDidReceiveResponse aHeaders aCode =>
      anchored.quicSessionDidReceiveResponse platform aHeaders aCode
  | .quicSessionDidReceiveData aData =>
      let (connection, calls) :=
        anchored.connection.quicSessionDidReceiveData aData
      .ok ({ anchored with connection := connection }, calls)
  | .quicSessionDidFinish now => anchored.quicSessionDidFinish now
  | .quicSessionDidFail error => .ok (anchored.quicSessionDidFail error)

def system (platform : URLPlatform) :
    EventSystem AnchoredConnection QUICStreamEvent where
  initial anchored := ∃ base depth aRequest,
    anchored = startWithRequest base depth aRequest
  step anchored event :=
    (anchored.react platform event).toOption.map Prod.fst

/-- A stream has no events after it has ended. -/
def Running (anchored : AnchoredConnection) (_ : QUICStreamEvent) : Prop :=
  anchored.ended = false

/-- After its end the connection holds no reference to itself. -/
def Released (anchored : AnchoredConnection) : Prop :=
  anchored.ended = true →
    anchored.mAnchor0 = false ∧ anchored.mAnchor1 = false

/-! ## What holds the anchors -/

section Stream

variable {platform : URLPlatform} {connection connection' : QUICConnection}
  {calls : List ConnectionCall}

theorem response_redirects {aHeaders : SpdyHeaderBlock} {aCode : Int}
    (hreact : connection.quicSessionDidReceiveResponse platform aHeaders
      aCode = .ok (connection', calls)) :
    connection'.mDepth = connection.mDepth ∧
      (connection'.mRedirect.isSome = true →
        connection.mRedirect.isSome = true ∨
          (connection.mRedirect.isNone && redirectCode aCode &&
            connection.mDepth < 10) = true) := by
  unfold QUICConnection.quicSessionDidReceiveResponse at hreact
  split at hreact
  next hfollows =>
    obtain ⟨target, -, hreact⟩ := (Outcome.bind_eq_ok _ _ _).mp hreact
    cases target with
    | none =>
        obtain ⟨rfl, -⟩ := Prod.mk.inj (Except.ok.inj hreact)
        exact ⟨rfl, .inl⟩
    | some newRequest =>
        obtain ⟨rfl, -⟩ := Prod.mk.inj (Except.ok.inj hreact)
        exact ⟨rfl, fun _ => .inr hfollows⟩
  next =>
    obtain ⟨rfl, -⟩ := Prod.mk.inj (Except.ok.inj hreact)
    exact ⟨rfl, .inl⟩

theorem data_keeps (connection : QUICConnection) (aData : Data) :
    ∃ calls, connection.quicSessionDidReceiveData aData =
      (connection, calls) := by
  unfold QUICConnection.quicSessionDidReceiveData
  split <;> exact ⟨_, rfl⟩

theorem fail_keeps (connection : QUICConnection) (error : Error) :
    ∃ calls, connection.quicSessionDidFail error = (connection, calls) := by
  unfold QUICConnection.quicSessionDidFail
  split <;> exact ⟨_, rfl⟩

theorem finish_keeps {now : Int}
    (hfinish : connection.quicSessionDidFinish now = .ok (connection', calls)) :
    connection'.mDepth = connection.mDepth ∧
      connection'.mRedirect = connection.mRedirect := by
  obtain ⟨base, -, hfinish⟩ := (Outcome.bind_eq_ok _ _ _).mp hfinish
  dsimp only at hfinish
  split at hfinish <;>
    obtain ⟨rfl, -⟩ := Prod.mk.inj (Except.ok.inj hfinish) <;>
    exact ⟨rfl, rfl⟩

end Stream

section Runs

variable {platform : URLPlatform} {anchored anchored' : AnchoredConnection}
  {event : QUICStreamEvent}
  {trail : List (AnchoredConnection × QUICStreamEvent)}

def Moved (trail : List (AnchoredConnection × QUICStreamEvent))
    (anchored : AnchoredConnection) : Prop :=
  anchored.connection.mDepth < 10 ∧
    ∃ visit ∈ trail, visit.2.redirects = true

structure Anchored (trail : List (AnchoredConnection × QUICStreamEvent))
    (anchored : AnchoredConnection) : Prop where
  running : anchored.ended = false → anchored.mAnchor0 = true
  ended : anchored.ended = true →
    anchored.mAnchor0 = anchored.connection.mRedirect.isSome
  moved : anchored.mAnchor1 = true ↔ Moved trail anchored
  redirected : anchored.connection.mRedirect.isSome = true →
    anchored.mAnchor1 = true

theorem moved_snoc (hdepth : anchored'.connection.mDepth =
      anchored.connection.mDepth) :
    Moved (trail ++ [(anchored, event)]) anchored' ↔
      Moved trail anchored ∨
        (event.redirects = true ∧ anchored.connection.mDepth < 10) := by
  simp only [Moved, hdepth, List.mem_append, List.mem_singleton, or_and_right,
    exists_or, exists_eq_left]
  rw [and_or_left, and_comm (b := event.redirects = true)]

theorem moved_snoc_of_keeps (hdepth : anchored'.connection.mDepth =
      anchored.connection.mDepth) (hstays : event.redirects = false) :
    Moved (trail ++ [(anchored, event)]) anchored' ↔ Moved trail anchored := by
  rw [moved_snoc hdepth, hstays]
  simp

theorem anchored_release {connection : QUICConnection}
    (hanchored : Anchored trail anchored) (hrunning : anchored.ended = false)
    (hdepth : connection.mDepth = anchored.connection.mDepth)
    (hredirect : connection.mRedirect = anchored.connection.mRedirect)
    (hstays : event.redirects = false) :
    Anchored (trail ++ [(anchored, event)]) (anchored.release connection) where
  running hopen := by contradiction
  ended _ := by simp [release, hanchored.running hrunning]
  moved := by
    rw [moved_snoc_of_keeps hdepth hstays]
    exact hanchored.moved
  redirected hsome := hanchored.redirected (hredirect ▸ hsome)

theorem anchored_response {aHeaders : SpdyHeaderBlock} {aCode : Int}
    {calls : List ConnectionCall} (hanchored : Anchored trail anchored)
    (hrunning : anchored.ended = false)
    (hreact : anchored.quicSessionDidReceiveResponse platform aHeaders aCode =
      .ok (anchored', calls)) :
    Anchored
      (trail ++ [(anchored, .quicSessionDidReceiveResponse aHeaders aCode)])
      anchored' := by
  obtain ⟨⟨connection, made⟩, hresponse, hreact⟩ :=
    (Outcome.bind_eq_ok _ _ _).mp hreact
  obtain ⟨rfl, -⟩ := Prod.mk.inj (Except.ok.inj hreact)
  obtain ⟨hdepth, hredirect⟩ := response_redirects hresponse
  have hheld := hanchored.running hrunning
  have hsome := hanchored.redirected
  have hmoved := hanchored.moved
  constructor
  · exact fun _ => hheld
  · intro hended
    rw [hrunning] at hended
    contradiction
  · rw [moved_snoc (by exact hdepth), ← hmoved]
    dsimp only [QUICStreamEvent.redirects]
    split
    next hfollows =>
      simp only [Bool.and_eq_true, decide_eq_true_eq] at hfollows
      exact iff_of_true hheld (.inr ⟨hfollows.1.2, hfollows.2⟩)
    next hstays =>
      -- Either it does not ask for a redirection, or one was followed before.
      refine ⟨.inl, ?_⟩
      rintro (hbefore | ⟨hcode, hshallow⟩)
      · exact hbefore
      · refine hsome (Option.isSome_iff_ne_none.mpr ?_)
        simpa [hcode, hshallow] using hstays
  · intro hafter
    rcases hredirect hafter with hbefore | hfollows
    · dsimp only
      split
      · exact hheld
      · exact hsome hbefore
    · simpa [hfollows] using hheld

theorem anchored_react {calls : List ConnectionCall}
    (hanchored : Anchored trail anchored) (hrunning : anchored.ended = false)
    (hreact : anchored.react platform event = .ok (anchored', calls)) :
    Anchored (trail ++ [(anchored, event)]) anchored' := by
  cases event with
  | quicSessionDidReceiveResponse aHeaders aCode =>
      exact anchored_response hanchored hrunning hreact
  | quicSessionDidReceiveData aData =>
      obtain ⟨made, hsame⟩ := data_keeps anchored.connection aData
      simp only [react, hsame] at hreact
      obtain ⟨rfl, -⟩ := Prod.mk.inj (Except.ok.inj hreact)
      refine ⟨hanchored.running, hanchored.ended, ?_, hanchored.redirected⟩
      rw [moved_snoc_of_keeps rfl rfl]
      exact hanchored.moved
  | quicSessionDidFinish now =>
      obtain ⟨⟨connection, made⟩, hfinish, hreact⟩ :=
        (Outcome.bind_eq_ok _ _ _).mp hreact
      obtain ⟨rfl, -⟩ := Prod.mk.inj (Except.ok.inj hreact)
      obtain ⟨hdepth, hredirect⟩ := finish_keeps hfinish
      exact anchored_release hanchored hrunning hdepth hredirect rfl
  | quicSessionDidFail error =>
      obtain ⟨made, hsame⟩ := fail_keeps anchored.connection error
      simp only [react, quicSessionDidFail, hsame] at hreact
      obtain ⟨rfl, -⟩ := Prod.mk.inj (Except.ok.inj hreact)
      exact anchored_release hanchored hrunning rfl rfl rfl

theorem path_anchored
    (path : (system platform).Path Running trail anchored) :
    Anchored trail anchored := by
  induction path with
  | start hstart =>
      obtain ⟨base, depth, aRequest, rfl⟩ := hstart
      constructor <;> simp [startWithRequest, QUICConnection.startWithRequest,
        Moved]
  | next path hrunning hstep ih =>
      obtain ⟨⟨after, calls⟩, hreact, rfl⟩ := Option.map_eq_some_iff.mp hstep
      exact anchored_react ih hrunning
        ((Outcome.toOption_eq_some _ _).mp hreact)

/--
A connection that has ended holds itself exactly if it was started less than
ten redirections deep and has had a response with the code of a redirection.
-/
theorem released_iff_unmoved
    (path : (system platform).Path Running trail anchored) :
    anchored.Released ↔ (anchored.ended = true →
      10 ≤ anchored.connection.mDepth ∨
        ∀ visit ∈ trail, visit.2.redirects = false) := by
  have hanchored := path_anchored path
  have hunmoved : ¬ Moved trail anchored ↔
      10 ≤ anchored.connection.mDepth ∨
        ∀ visit ∈ trail, visit.2.redirects = false := by
    simp only [Moved, not_and_or, not_lt, not_exists, Bool.not_eq_true,
      ← imp_iff_not_or]
  rw [← hunmoved, ← hanchored.moved]
  refine imp_congr_right fun hended => ?_
  rw [Bool.not_eq_true]
  refine ⟨And.right, fun hempty => ⟨?_, hempty⟩⟩
  rw [hanchored.ended hended, ← Bool.not_eq_true]
  intro hsome
  have hheld := hanchored.redirected hsome
  rw [hempty] at hheld
  contradiction

end Runs

section FollowedRedirection

def oneSite : URLPlatform where
  URLWithString text := some ⟨text, some "https", some "b.com", some "/"⟩
  initWithString_relativeToURL _ _ := none
  componentsWithString _ := some ⟨some "https", some "b.com", "/"⟩
  URL _ := some ⟨"https://b.com/", some "https", some "b.com", some "/"⟩

def anyRequest : Request where
  mMethod := "GET"
  mOriginalURL := "https://a.com/"
  mURL := "https://a.com/"
  mHeaders := []
  mBody := ⟨[]⟩
  mHost := "a.com"
  mOriginalScheme := "https"

def movedTo : QUICStreamEvent :=
  .quicSessionDidReceiveResponse [("Location", "https://b.com/")] 302

theorem started_path :
    (system oneSite).Path Running [] (startWithRequest {} 0 anyRequest) :=
  .start ⟨{}, 0, anyRequest, rfl⟩

/-- After its end the redirected connection still holds itself twice. -/
theorem followedRedirection_not_released :
    ∃ trail anchored, (system oneSite).Path Running trail anchored ∧
      anchored.ended = true ∧ anchored.mAnchor0 = true ∧
      anchored.mAnchor1 = true ∧ ¬ anchored.Released := by
  have hmoved := started_path.next (e := movedTo) rfl rfl
  have hfinished := hmoved.next
    (e := QUICStreamEvent.quicSessionDidFinish 1) rfl rfl
  refine ⟨_, _, hfinished, rfl, rfl, rfl, ?_⟩
  intro hreleased
  have hempty := (hreleased rfl).2
  contradiction

theorem released_iff_unmoved_finished :
    ∃ trail anchored, (system oneSite).Path Running trail anchored ∧
      anchored.ended = true ∧ anchored.Released := by
  have hfinished := started_path.next
    (e := QUICStreamEvent.quicSessionDidFinish 1) rfl rfl
  refine ⟨_, _, hfinished, rfl, (released_iff_unmoved hfinished).mpr ?_⟩
  intro _
  right
  simp [QUICStreamEvent.redirects]

end FollowedRedirection

end AnchoredConnection

end RevSDK
