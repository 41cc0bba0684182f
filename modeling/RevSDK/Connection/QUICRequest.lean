import RevSDK.Connection.EdgeConnection

/-!
# Starting a request over QUIC

`p_startWithRequest` makes the header block of a request and a view of its
body, which the queued task hands to the stream when it runs.  The view is a
pointer and a length; memory stands as the mapped bytes from the pointer on,
once when the view is made and once when it is read.
-/

namespace RevSDK

open RevSDK.Foundation

inductive BodyPointer where
  | content
  | emptyLiteral
  deriving DecidableEq

structure StringPiece where
  ptr : BodyPointer
  length : Nat
  deriving DecidableEq

/-- What the queued task of a request has captured. -/
structure SessionTask where
  headers : SpdyHeaderBlock
  body : StringPiece
  deriving DecidableEq

inductive StreamWrite where
  | writeHeaders (headers : SpdyHeaderBlock) (fin : Bool)
  | writeOrBufferData (body : List UInt8) (fin : Bool)
  deriving DecidableEq

def assignHeader (name value : String) : SpdyHeaderBlock → SpdyHeaderBlock
  | [] => [(name, value)]
  | field :: rest =>
      if field.1 = name then (name, value) :: rest
      else field :: assignHeader name value rest

namespace StringPiece

def strlen (memory : List UInt8) : Outcome Nat :=
  if 0 ∈ memory then .ok (memory.idxOf 0)
  else .error (.undefinedBehaviour "strlen")

def ofBody (aBody : Data) (behind : List UInt8) : Outcome StringPiece :=
  if aBody.isEmpty then .ok ⟨.emptyLiteral, 0⟩
  else do
    let length ← strlen (aBody.bytes ++ behind)
    return ⟨.content, length⟩

def read (piece : StringPiece) (memory : List UInt8) :
    Outcome (List UInt8) :=
  match piece.ptr with
  | .emptyLiteral => .ok []
  | .content =>
      if piece.length ≤ memory.length then .ok (memory.take piece.length)
      else .error (.undefinedBehaviour "read behind the mapped memory")

end StringPiece

namespace QUICConnection

def sentPath (rest : String) : String :=
  if rest.isEmpty then "/"
  else if rest.toList.head? != some '/' then "/" ++ rest
  else rest

def headerBlock (aRequest : Request) : SpdyHeaderBlock :=
  let headers : SpdyHeaderBlock := []
  let headers := assignHeader ":authority" aRequest.mHost headers
  let headers := assignHeader ":method" aRequest.mMethod headers
  let headers := assignHeader ":path" (sentPath aRequest.mRest) headers
  let headers := assignHeader ":scheme" "https" headers
  let headers := assignHeader "accept-encoding" "identity" headers
  let headers := aRequest.mHeaders.foldl
    (fun headers i => assignHeader i.1 i.2 headers) headers
  let headers := assignHeader "X-Rev-Host" aRequest.mHost headers
  assignHeader "X-Rev-Proto" aRequest.mOriginalScheme headers

/-- `behind` is the mapped memory behind the bytes of the body. -/
def p_startWithRequest (aRequest : Request) (behind : List UInt8) :
    Outcome SessionTask := do
  assertion (!(sentPath aRequest.mRest).isEmpty) "rest.size() != 0"
  let body ← StringPiece.ofBody aRequest.mBody behind
  return ⟨headerBlock aRequest, body⟩

end QUICConnection

/-- `QuicSpdyClientStream::SendRequest`. -/
def QuicSpdyClientStream.sendRequest (headers : SpdyHeaderBlock)
    (body : List UInt8) (fin : Bool) : List StreamWrite :=
  let sendFinWithHeaders := fin && body.isEmpty
  .writeHeaders headers sendFinWithHeaders ::
    if body.isEmpty then [] else [.writeOrBufferData body fin]

/-- The queued task, once it has its stream; the body is read only now. -/
def SessionTask.run (task : SessionTask) (memory : List UInt8) :
    Outcome (List StreamWrite) := do
  let body ← task.body.read memory
  return QuicSpdyClientStream.sendRequest task.headers body true

theorem QUICConnection.sentPath_head (rest : String) :
    (sentPath rest).toList.head? = some '/' := by
  unfold sentPath
  split
  · rfl
  · split
    · rw [String.toList_append]
      rfl
    next hslash => simpa using hslash

theorem p_startWithRequest_eq (aRequest : Request) (behind : List UInt8) :
    QUICConnection.p_startWithRequest aRequest behind =
      (StringPiece.ofBody aRequest.mBody behind).map fun body =>
        ⟨QUICConnection.headerBlock aRequest, body⟩ := by
  have hpath : (QUICConnection.sentPath aRequest.mRest).isEmpty = false := by
    have hhead := QUICConnection.sentPath_head aRequest.mRest
    by_contra hempty
    rw [Bool.not_eq_false, String.isEmpty_iff] at hempty
    rw [hempty] at hhead
    cases hhead
  unfold QUICConnection.p_startWithRequest
  rw [hpath]
  cases StringPiece.ofBody aRequest.mBody behind <;> rfl

/-! ## Fields of the header block -/

section Fields

variable {name other : String} (value : String) (headers : SpdyHeaderBlock)

theorem lookup_assignHeader_self :
    (assignHeader name value headers).lookup name = some value := by
  induction headers with
  | nil => simp [assignHeader]
  | cons field headers ih =>
      unfold assignHeader
      split
      · simp
      next hfield =>
        rw [List.lookup_cons, beq_false_of_ne (Ne.symm hfield)]
        exact ih

theorem lookup_assignHeader_of_ne (hne : other ≠ name) :
    (assignHeader name value headers).lookup other = headers.lookup other := by
  induction headers with
  | nil => simp [assignHeader, List.lookup_cons, beq_false_of_ne hne]
  | cons field headers ih =>
      unfold assignHeader
      split
      next hfield =>
        subst hfield
        rw [List.lookup_cons, List.lookup_cons, beq_false_of_ne hne]
      · rw [List.lookup_cons, List.lookup_cons, ih]

theorem lookup_foldl_assignHeader (fields : List (String × String)) :
    (fields.foldl (fun headers i => assignHeader i.1 i.2 headers)
        headers).lookup name =
      (fields.reverse.lookup name).or (headers.lookup name) := by
  induction fields generalizing headers with
  | nil => simp
  | cons field fields ih =>
      obtain ⟨other, content⟩ := field
      rw [List.foldl_cons, ih, List.reverse_cons, List.lookup_append]
      by_cases hfield : name = other
      · subst hfield
        simp [lookup_assignHeader_self]
      · rw [lookup_assignHeader_of_ne _ _ hfield]
        simp [List.lookup_cons, beq_false_of_ne hfield]

theorem lookup_headerBlock_path (aRequest : Request) :
    (QUICConnection.headerBlock aRequest).lookup ":path" =
      some ((aRequest.mHeaders.reverse.lookup ":path").getD
        (QUICConnection.sentPath aRequest.mRest)) := by
  unfold QUICConnection.headerBlock
  dsimp only
  rw [lookup_assignHeader_of_ne _ _ (by decide),
    lookup_assignHeader_of_ne _ _ (by decide), lookup_foldl_assignHeader,
    lookup_assignHeader_of_ne _ _ (by decide),
    lookup_assignHeader_of_ne _ _ (by decide), lookup_assignHeader_self]
  cases aRequest.mHeaders.reverse.lookup ":path" <;> rfl

end Fields

end RevSDK
