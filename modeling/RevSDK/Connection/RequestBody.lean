import RevSDK.Connection.QUICRequest
import RevSDK.DataStorage.RequestsFile

/-!
# The body of a request

The view of a QUIC body is as long as a C string: it ends at the first NUL
byte, of the body or of what lies behind it.
-/

namespace RevSDK

open RevSDK.Foundation

def HTTPBodyOf (aData : Data) : Data :=
  ((DataStorage.NSDataFromData aData).map StoredData.data).getD ⟨[]⟩

/-- The queued task and the standard transport both take the body as it is. -/
def SentIntact (aRequest : Request) (behind memory : List UInt8) : Prop :=
  (∃ task, QUICConnection.p_startWithRequest aRequest behind = .ok task ∧
    task.body.read memory = .ok aRequest.mBody.bytes) ∧
  HTTPBodyOf aRequest.mBody = aRequest.mBody

/-- The body is a C string, and stands in memory still when it is read. -/
structure ReadsAsCString (aBody : Data) (behind memory : List UInt8) :
    Prop where
  nulFree : 0 ∉ aBody.bytes
  terminated : behind.head? = some 0
  kept : memory.take aBody.length = aBody.bytes

theorem HTTPBodyOf_eq (aData : Data) : HTTPBodyOf aData = aData := by
  unfold HTTPBodyOf DataStorage.NSDataFromData
  by_cases hempty : aData.length = 0
  · have hbytes : aData.bytes = [] := List.length_eq_zero_iff.mp hempty
    rw [dif_pos hempty, Option.map_none, Option.getD_none, ← hbytes]
  · rw [dif_neg hempty, Option.map_some, Option.getD_some]

theorem HTTPBody_URLRequestFromRequest (platform : URLPlatform)
    (aRequest : Request) :
    (URLRequestFromRequest platform aRequest).HTTPBody =
      HTTPBodyOf aRequest.mBody :=
  (HTTPBodyOf_eq aRequest.mBody).symm

section Strings

variable {body behind memory : List UInt8}

theorem strlen_eq_length_iff :
    StringPiece.strlen (body ++ behind) = .ok body.length ↔
      0 ∉ body ∧ behind.head? = some 0 := by
  unfold StringPiece.strlen
  constructor
  · intro hlength
    split at hlength
    next hmem =>
      have hidx := Except.ok.inj hlength
      have hbody : 0 ∉ body := by
        intro hin
        rw [List.idxOf_append_of_mem hin] at hidx
        exact absurd (List.idxOf_lt_length_iff.mpr hin) (by omega)
      refine ⟨hbody, ?_⟩
      rw [List.idxOf_append_of_notMem hbody] at hidx
      cases behind with
      | nil => simp [hbody] at hmem
      | cons first behind =>
          have hzero : List.idxOf 0 (first :: behind) = 0 := by omega
          rw [List.idxOf_cons] at hzero
          cases hfirst : first == 0 with
          | true => simpa using hfirst
          | false => simp [hfirst] at hzero
    next => cases hlength
  · rintro ⟨hbody, hfirst⟩
    cases behind with
    | nil => cases hfirst
    | cons first behind =>
        obtain rfl : first = 0 := Option.some.inj hfirst
        rw [if_pos (by simp), List.idxOf_append_of_notMem hbody]
        simp

end Strings

section Body

variable {aRequest : Request} {behind memory : List UInt8}

theorem sentBody_content (hbody : aRequest.mBody.isEmpty = false) :
    (∃ task, QUICConnection.p_startWithRequest aRequest behind = .ok task ∧
      task.body.read memory = .ok aRequest.mBody.bytes) ↔
    ∃ length, StringPiece.strlen (aRequest.mBody.bytes ++ behind) =
        .ok length ∧ length ≤ memory.length ∧
      memory.take length = aRequest.mBody.bytes := by
  rw [p_startWithRequest_eq, StringPiece.ofBody, hbody,
    if_neg (by decide)]
  cases StringPiece.strlen (aRequest.mBody.bytes ++ behind) with
  | error fault =>
      constructor
      · rintro ⟨task, htask, -⟩
        cases htask
      · rintro ⟨length, hlength, -⟩
        cases hlength
  | ok length =>
      constructor
      · rintro ⟨task, htask, hread⟩
        obtain rfl := Except.ok.inj htask
        unfold StringPiece.read at hread
        dsimp only at hread
        split at hread
        next hmapped => exact ⟨length, rfl, hmapped, Except.ok.inj hread⟩
        next => cases hread
      · rintro ⟨length', hlength, hmapped, htake⟩
        obtain rfl := Except.ok.inj hlength
        refine ⟨_, rfl, ?_⟩
        unfold StringPiece.read
        dsimp only
        rw [if_pos hmapped, htake]

/--
The body is sent intact exactly if it is empty, or is a C string as it stands
in memory and stands there until the task runs.
-/
theorem sentIntact_iff_readsAsCString (aRequest : Request)
    (behind memory : List UInt8) :
    SentIntact aRequest behind memory ↔
      aRequest.mBody.isEmpty = true ∨
        ReadsAsCString aRequest.mBody behind memory := by
  unfold SentIntact
  rw [and_iff_left (HTTPBodyOf_eq aRequest.mBody)]
  cases hbody : aRequest.mBody.isEmpty with
  | true =>
      have hbytes : aRequest.mBody.bytes = [] := by
        simpa [Data.isEmpty] using hbody
      refine iff_of_true ?_ (.inl rfl)
      rw [p_startWithRequest_eq, StringPiece.ofBody, if_pos hbody, hbytes]
      exact ⟨_, rfl, rfl⟩
  | false =>
      rw [sentBody_content hbody]
      constructor
      · rintro ⟨length, hstrlen, hmapped, htake⟩
        obtain rfl : length = aRequest.mBody.bytes.length := by
          rw [← htake, List.length_take, Nat.min_eq_left hmapped]
        obtain ⟨hfree, hend⟩ := strlen_eq_length_iff.mp hstrlen
        exact .inr ⟨hfree, hend, htake⟩
      · rintro (hempty | ⟨hfree, hend, hkept⟩)
        · contradiction
        · refine ⟨_, strlen_eq_length_iff.mpr ⟨hfree, hend⟩, ?_, hkept⟩
          have hlength := congrArg List.length hkept
          rw [List.length_take] at hlength
          unfold Data.length at hlength
          omega

end Body

section EmbeddedNul

def nulBody : Request where
  mMethod := "POST"
  mOriginalURL := "https://example.com/"
  mURL := "https://example.com/"
  mHeaders := []
  mBody := ⟨[97, 0, 98]⟩
  mHost := "example.com"
  mRest := "/"

/-- The memory is what it should be, but the view ends at the NUL. -/
theorem embeddedNul_not_intact :
    ¬ SentIntact nulBody [0] [97, 0, 98, 0] := by
  rintro ⟨⟨task, htask, hread⟩, -⟩
  have hview : QUICConnection.p_startWithRequest nulBody [0] =
      .ok ⟨QUICConnection.headerBlock nulBody, ⟨.content, 1⟩⟩ := rfl
  obtain rfl := Except.ok.inj (hview.symm.trans htask)
  exact absurd hread (by decide)

end EmbeddedNul

end RevSDK
