import RevSDK.Model.ConfigurationPersistence
import RevSDK.Stats.LogEvents
import RevSDK.Stats.RecordCourier

/-!
# The records in the body of a report

A record goes into the body as a document in a document: one library writes
the batch as an array of texts, the other one reads the array and then each
text, and skips what is no text or no document.
-/

namespace RevSDK

open RevSDK.Foundation

def Data.toString (data : Data) : List UInt8 := data.bytes

def utf8 (text : String) : List UInt8 :=
  text.toList.flatMap String.utf8EncodeChar

section JSONUtils

-- `Json::StyledWriter::write` of an array of texts
variable (write : List (List UInt8) → List UInt8)

def jsonDataFromValue (aValue : List (List UInt8)) : Data := ⟨write aValue⟩

def jsonDataFromDataVector (aDataVector : List Data) : Data :=
  jsonDataFromValue write (aDataVector.map Data.toString)

end JSONUtils

/--
`NSJSONSerialization` reads what the writer has written of texts without NUL,
and the texts are encoded in UTF-8.
-/
structure ReadsWritten (platform : StatsPlatform)
    (write : List (List UInt8) → List UInt8) : Prop where
  packs : platform.jsonDataFromDataVector = jsonDataFromDataVector write
  inverse : ∀ texts : List String, (∀ text ∈ texts, NulFree text) →
    platform.JSONObjectWithData ⟨write (texts.map utf8)⟩ =
      some (.array (texts.map .string))
  encodes : ∀ text, platform.dataUsingEncoding text = ⟨utf8 text⟩

/-- The text of an object, as `dataFromRequestsDictionary` makes it. -/
def IsRecord (platform : StatsPlatform) (record : Data) : Prop :=
  ∃ text members, NulFree text ∧ record = ⟨utf8 text⟩ ∧
    platform.JSONObjectWithData record = some (.object members)

/-- The document in the body holds the parsed records and nothing else. -/
def HoldsRecords (platform : StatsPlatform) (sd : PropertyList)
    (batch : List Data) : Prop :=
  ∃ requests, sd.lookup "requests" = some (.array requests) ∧
    List.Forall₂ (fun record object =>
      platform.JSONObjectWithData record = some object) batch requests

/--
The batch of a report: the front of the queue and the records of the
transaction that its callbacks name, or nothing if the queue is empty.
-/
def IsBatch (handler handler' : RequestStatsHandler)
    (statsData : ReportTransactionHanle) (batch : List Data) : Prop :=
  (batch = [] ∧ handler.mRequestsDataVector = [] ∧ handler' = handler ∧
      statsData.cbOnSuccess = none) ∨
    ∃ key, batch ≠ [] ∧ statsData.cbOnSuccess = some key ∧
      statsData.cbOnFail = some key ∧
      handler.mRequestsDataVector = batch ++ handler'.mRequestsDataVector ∧
      handler'.mSentData = handler.mSentData ++ [⟨key, batch⟩]

section Proofs

variable {platform : StatsPlatform} {write : List (List UInt8) → List UInt8}

/-! ## Two levels of documents -/

theorem filterMap_texts (hreads : ReadsWritten platform write)
    {texts : List String} {batch : List Data}
    (hbatch : batch = texts.map fun text => ⟨utf8 text⟩)
    (hobjects : ∀ record ∈ batch, ∃ object,
      platform.JSONObjectWithData record = some object) :
    List.Forall₂ (fun record object =>
        platform.JSONObjectWithData record = some object) batch
      ((texts.map Json.string).filterMap fun str =>
        match str with
        | .string text =>
            platform.JSONObjectWithData (platform.dataUsingEncoding text)
        | _ => none) := by
  subst hbatch
  induction texts with
  | nil => exact .nil
  | cons text texts ih =>
      rw [List.map_cons] at hobjects
      obtain ⟨⟨object, hobject⟩, hrest⟩ := List.forall_mem_cons.mp hobjects
      rw [List.map_cons, List.map_cons, List.filterMap_cons]
      dsimp only
      rw [hreads.encodes, hobject]
      exact .cons hobject (ih hrest)

theorem exists_texts {batch : List Data}
    (hrecords : ∀ record ∈ batch, IsRecord platform record) :
    ∃ texts : List String, (∀ text ∈ texts, NulFree text) ∧
      batch = texts.map fun text => ⟨utf8 text⟩ := by
  induction batch with
  | nil => exact ⟨[], by simp, rfl⟩
  | cons record batch ih =>
      obtain ⟨⟨text, members, hfree, hrecord, -⟩, hrest⟩ :=
        List.forall_mem_cons.mp hrecords
      obtain ⟨texts, htexts, hbatch⟩ := ih hrest
      exact ⟨text :: texts, List.forall_mem_cons.mpr ⟨hfree, htexts⟩, by
        rw [List.map_cons, hrecord, hbatch]⟩

theorem requestObjects_packed (hreads : ReadsWritten platform write)
    {batch : List Data}
    (hrecords : ∀ record ∈ batch, IsRecord platform record) :
    List.Forall₂ (fun record object =>
        platform.JSONObjectWithData record = some object) batch
      (NativeStatsHandler.requestObjects platform
        (platform.jsonDataFromDataVector batch)) := by
  obtain ⟨texts, htexts, hbatch⟩ := exists_texts hrecords
  have hread : platform.JSONObjectWithData
      (platform.jsonDataFromDataVector batch) =
        some (.array (texts.map .string)) := by
    rw [hreads.packs, ← hreads.inverse texts htexts, hbatch]
    unfold jsonDataFromDataVector jsonDataFromValue
    rw [List.map_map]
    rfl
  unfold NativeStatsHandler.requestObjects
  rw [hread]
  refine filterMap_texts hreads hbatch fun record hrecord => ?_
  obtain ⟨_, members, -, -, hobject⟩ := hrecords record hrecord
  exact ⟨.object members, hobject⟩

theorem allData_requests (surroundings : Surroundings) (file : EventsFile)
    (aRequestsData : Data) (handler : StatsHandler) (aAppName : String) :
    (NativeStatsHandler.allData platform surroundings file aRequestsData
        (handler.stringMap surroundings aAppName)).1.lookup "requests" =
      some (.array
        (NativeStatsHandler.requestObjects platform aRequestsData)) := by
  have hother : ∀ i ∈ handler.stringMap surroundings aAppName,
      "requests" ≠ cString i.1 := by
    intro i hi
    simp only [StatsHandler.stringMap, List.mem_cons, List.not_mem_nil,
      or_false] at hi
    rcases hi with rfl | rfl | rfl | rfl
    · show "requests" ≠ cString kAppNameKey
      decide
    · show "requests" ≠ cString kSDKKeyKey
      decide
    · show "requests" ≠ cString kSDKVersionKey
      decide
    · show "requests" ≠ cString kAppVersionKey
      decide
  exact LogWorld.lookup_setObjects hother _

/-! ## The batch of a report -/

theorem requestsData_isBatch {pack : List Data → Data}
    {handler handler' : RequestStatsHandler}
    {gID gID' count : Int} {requestsData : ReportTransactionHanle}
    (hreturns : handler.requestsData pack gID count =
      .ok (requestsData, handler', gID')) :
    ∃ batch, requestsData.Buffer = pack batch ∧
      IsBatch handler handler' requestsData batch := by
  cases hqueue : handler.mRequestsDataVector.isEmpty with
  | true =>
      have hempty := List.isEmpty_iff.mp hqueue
      rw [RequestStatsHandler.requestsData_empty _ _ _ _ hempty] at hreturns
      cases Except.ok.inj hreturns
      exact ⟨[], rfl, .inl ⟨rfl, hempty, rfl, rfl⟩⟩
  | false =>
      obtain ⟨taken, hpos, rfl, rfl, rfl⟩ :=
        RequestStatsHandler.requestsData_eq hqueue hreturns
      refine ⟨_, rfl, .inr ⟨gID + 1, ?_, rfl, rfl,
        (List.take_append_drop ..).symm, rfl⟩⟩
      have hne : handler.mRequestsDataVector ≠ [] := by
        simpa using hqueue
      rw [ne_eq, List.take_eq_nil_iff, not_or]
      exact ⟨Nat.ne_of_gt hpos, hne⟩

theorem requestsData_returns (pack : List Data → Data)
    {handler : RequestStatsHandler} (gID : Int)
    (hfilled : ∀ slot ∈ handler.mSentData, slot.PendingData ≠ [])
    {count : Int} (hcount : RequestStatsHandler.ValidCount count) :
    ∃ result, handler.requestsData pack gID count = .ok result := by
  by_cases hqueue : handler.mRequestsDataVector = []
  · exact ⟨_, RequestStatsHandler.requestsData_empty pack handler gID count
      hqueue⟩
  · exact ⟨_, RequestStatsHandler.requestsData_filled pack gID hfilled hcount
      hqueue⟩

/--
A report that is built holds the parsed records of its batch, one for one and
in their order; on slots that are filled and a count that is valid it is
built.
-/
theorem createSendTransaction_holdsRecords
    (hreads : ReadsWritten platform write) (surroundings : Surroundings)
    (handler : StatsHandler) (gID : Int) (file : EventsFile)
    (aRequestCount : Int) (aAppName : String) :
    ((∀ slot ∈ handler.mRequestStatsHandler.mSentData, slot.PendingData ≠ []) →
      RequestStatsHandler.ValidCount aRequestCount →
      ∃ result, handler.createSendTransaction platform surroundings gID file
        aRequestCount aAppName = .ok result) ∧
    ∀ statsData sd handler' gID' file',
      handler.createSendTransaction platform surroundings gID file aRequestCount
          aAppName = .ok (statsData, sd, handler', gID', file') →
      ∃ batch,
        IsBatch handler.mRequestStatsHandler handler'.mRequestStatsHandler
            statsData batch ∧
          statsData.Buffer = platform.dataWithJSONObject (.object sd) ∧
          ((∀ record ∈ batch, IsRecord platform record) →
            HoldsRecords platform sd batch) := by
  refine ⟨fun hfilled hcount => ?_, ?_⟩
  · obtain ⟨taken, htaken⟩ := requestsData_returns
      platform.jsonDataFromDataVector gID hfilled hcount
    exact ⟨_, (Outcome.bind_eq_ok _ _ _).mpr ⟨taken, htaken, rfl⟩⟩
  · intro statsData sd handler' gID' file' hreturns
    obtain ⟨requestsData, requests, hrequests, rfl, rfl, hall⟩ :=
      StatsHandler.createSendTransaction_spec platform hreturns
    obtain ⟨batch, hbuffer, hbatch⟩ := requestsData_isBatch hrequests
    refine ⟨batch, hbatch, rfl, fun hrecords => ?_⟩
    refine ⟨_, ?_, requestObjects_packed hreads hrecords⟩
    have hsd := congrArg Prod.fst hall
    dsimp only at hsd
    rw [hsd, allData_requests, hbuffer]

end Proofs

/-! ## A writer and its reader -/

/-- Quotes and backslashes are written behind a backslash. -/
def valueToQuotedString (text : List UInt8) : List UInt8 :=
  34 :: (text.flatMap fun byte =>
    if byte = 34 ∨ byte = 92 then [92, byte] else [byte]) ++ [34]

def writeTexts : List (List UInt8) → List UInt8
  | [] => [91, 93, 10]
  | first :: rest =>
      91 :: 32 :: valueToQuotedString first ++
        rest.flatMap (fun text => 44 :: 32 :: valueToQuotedString text) ++
          [32, 93, 10]

inductive ReaderState where
  | outside
  | inside (text : List UInt8)
  | escaped (text : List UInt8)

def readTexts : ReaderState → List UInt8 → List (List UInt8)
  | _, [] => []
  | .outside, byte :: rest =>
      readTexts (if byte = 34 then .inside [] else .outside) rest
  | .inside text, byte :: rest =>
      if byte = 34 then text :: readTexts .outside rest
      else if byte = 92 then readTexts (.escaped text) rest
      else readTexts (.inside (text ++ [byte])) rest
  | .escaped text, byte :: rest => readTexts (.inside (text ++ [byte])) rest

def decodeUtf8 (bytes : List UInt8) : String :=
  match bytes.toByteArray.utf8Decode? with
  | some chars => String.ofList chars.toList
  | none => ""

def emptyRecord : Data := ⟨[123, 125]⟩

def quotedRecord : Data := ⟨[123, 34, 97, 34, 58, 34, 92, 34, 34, 125]⟩

def parseTexts (data : Data) : Option Json :=
  match data.bytes with
  | 91 :: rest =>
      some (.array ((readTexts .outside rest).map fun text =>
        .string (decodeUtf8 text)))
  | _ =>
      if data = emptyRecord then some (.object [])
      else if data = quotedRecord then some (.object [("a", .string "\"")])
      else none

def writerPlatform : StatsPlatform where
  jsonDataFromDataVector := jsonDataFromDataVector writeTexts
  JSONObjectWithData := parseTexts
  dataWithJSONObject _ := ⟨[123, 125]⟩
  dataUsingEncoding text := ⟨utf8 text⟩
  wholeText _ := ""

theorem decodeUtf8_utf8 (text : String) : decodeUtf8 (utf8 text) = text := by
  have hencoded : (utf8 text).toByteArray = text.toList.utf8Encode := rfl
  rw [decodeUtf8, hencoded, List.utf8Decode?_utf8Encode]
  simp

theorem readTexts_inside (read text rest : List UInt8) :
    readTexts (.inside read) ((text.flatMap fun byte =>
        if byte = 34 ∨ byte = 92 then [92, byte] else [byte]) ++ 34 :: rest) =
      (read ++ text) :: readTexts .outside rest := by
  induction text generalizing read with
  | nil => simp [readTexts]
  | cons byte text ih =>
      rw [List.flatMap_cons, List.append_assoc]
      by_cases hescape : byte = 34 ∨ byte = 92
      · rw [if_pos hescape]
        have hstep := ih (read ++ [byte])
        rw [List.append_assoc] at hstep
        exact hstep
      · rw [if_neg hescape]
        have hstep := ih (read ++ [byte])
        rw [List.append_assoc] at hstep
        obtain ⟨hquote, hbackslash⟩ := not_or.mp hescape
        rw [List.singleton_append, readTexts, if_neg hquote,
          if_neg hbackslash]
        exact hstep

theorem readTexts_quoted (text rest : List UInt8) :
    readTexts .outside (valueToQuotedString text ++ rest) =
      text :: readTexts .outside rest := by
  rw [valueToQuotedString, List.cons_append, List.cons_append,
    List.append_assoc, readTexts, if_pos rfl]
  exact readTexts_inside [] text rest

theorem readTexts_rest (texts : List (List UInt8)) :
    readTexts .outside
        (texts.flatMap (fun text => 44 :: 32 :: valueToQuotedString text) ++
          [32, 93, 10]) = texts := by
  induction texts with
  | nil => rfl
  | cons text texts ih =>
      rw [List.flatMap_cons, List.append_assoc, List.cons_append,
        List.cons_append, readTexts, if_neg (by decide), readTexts,
        if_neg (by decide), readTexts_quoted, ih]

theorem parseTexts_writeTexts (texts : List (List UInt8)) :
    parseTexts ⟨writeTexts texts⟩ =
      some (.array (texts.map fun text => .string (decodeUtf8 text))) := by
  cases texts with
  | nil => rfl
  | cons first rest =>
      have hread : readTexts .outside (32 :: (valueToQuotedString first ++
          (rest.flatMap (fun text => 44 :: 32 :: valueToQuotedString text) ++
            [32, 93, 10]))) = first :: rest := by
        rw [readTexts, if_neg (by decide), readTexts_quoted, readTexts_rest]
      have hwritten : writeTexts (first :: rest) =
          91 :: 32 :: (valueToQuotedString first ++
            (rest.flatMap (fun text => 44 :: 32 :: valueToQuotedString text) ++
              [32, 93, 10])) := by
        simp only [writeTexts, List.cons_append, List.append_assoc]
      rw [hwritten]
      exact congrArg (fun texts : List (List UInt8) =>
        some (Json.array (texts.map fun text => .string (decodeUtf8 text))))
        hread

theorem writerPlatform_readsWritten :
    ReadsWritten writerPlatform writeTexts where
  packs := rfl
  inverse texts _ := by
    change parseTexts _ = _
    rw [parseTexts_writeTexts, List.map_map]
    refine congrArg (fun elements => some (Json.array elements))
      (List.map_congr_left fun text _ => ?_)
    exact congrArg Json.string (decodeUtf8_utf8 text)
  encodes _ := rfl

def twoRecords : StatsHandler where
  mSDKKey := "key"
  mRequestStatsHandler := ⟨[quotedRecord, emptyRecord], []⟩

theorem createSendTransaction_holdsRecords_two :
    ∃ statsData sd file',
      twoRecords.createSendTransaction writerPlatform nowhere 0 none 500 "app" =
          .ok (statsData, sd,
            ⟨"key", ⟨[], [⟨1, [quotedRecord, emptyRecord]⟩]⟩⟩, 1, file') ∧
        HoldsRecords writerPlatform sd [quotedRecord, emptyRecord] := by
  refine ⟨_, _, _, rfl, ?_⟩
  obtain ⟨batch, hbatch, -, hholds⟩ := (createSendTransaction_holdsRecords
    writerPlatform_readsWritten nowhere twoRecords 0 none 500 "app").2 _ _ _ _ _
      rfl
  have htwo : batch = [quotedRecord, emptyRecord] := by
    rcases hbatch with ⟨-, hempty, -⟩ | ⟨key, -, -, -, hqueue, -⟩
    · cases hempty
    · rw [← List.append_nil batch]
      exact hqueue.symm
  rw [← htwo]
  refine hholds fun record hrecord => ?_
  rw [htwo] at hrecord
  rcases List.mem_pair.mp hrecord with rfl | rfl
  · exact ⟨"\x7b\"a\":\"\\\"\"\x7d", _, by decide, rfl, rfl⟩
  · exact ⟨"\x7b\x7d", [], by decide, rfl, rfl⟩

end RevSDK
