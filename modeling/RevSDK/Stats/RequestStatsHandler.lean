import RevSDK.DataStorage.RequestsFile
import RevSDK.Stats.ReportTransaction

/-!
# The handler of request statistics

`RequestStatsHandler` keeps the records to upload in `mRequestsDataVector` and
the records of started uploads in `mSentData`.  The two callbacks of an upload
are lambdas that capture nothing but the number of its transaction and call
`deleteTransaction` or `restoreTransaction` with it; a handle holds the
captured number, or `none` for a null `std::function`.
`jsonDataFromDataVector` packs a batch for the upload; the handler does not
look into the result.
-/

namespace RevSDK

open RevSDK.Foundation

structure ReportTransactionHanle where
  cbOnSuccess : Option Int
  cbOnFail : Option Int
  Buffer : Data
  deriving DecidableEq, Repr

structure RequestStatsHandler where
  mRequestsDataVector : List Data
  mSentData : List Transaction
  deriving DecidableEq, Repr

/-- Conversion to `size_t`. -/
def toSizeT (value : Int) : Nat := (value % 2 ^ 64).toNat

/-- Conversion to `int32_t`. -/
def toInt32 (value : Int) : Int := value.bmod (2 ^ 32)

namespace RequestStatsHandler

open DataStorage

def construct (file : RequestsFile) : RequestStatsHandler :=
  { mRequestsDataVector := loadRequestsData file, mSentData := [] }

/-- `~RequestStatsHandler`, which destroys the slots of `mSentData`. -/
def destroy (handler : RequestStatsHandler) : Outcome Unit :=
  handler.mSentData.forM Transaction.destroy

def addNewRequestData (handler : RequestStatsHandler) (file : RequestsFile)
    (aRequestData : Data) : Outcome (RequestStatsHandler × RequestsFile) := do
  let file' ← saveRequestData file aRequestData
  return ({ handler with
    mRequestsDataVector := handler.mRequestsDataVector ++ [aRequestData] },
    file')

/-- Iterators are positions: `begin()` is 0 and `end()` is the size. -/
def createTransaction (handler : RequestStatsHandler) (gID : Int)
    (aReqestsCountPerTransact : Int) :
    Outcome (Transaction × RequestStatsHandler × Int) := do
  let (inst, gID') := Transaction.create gID
  let size := handler.mRequestsDataVector.length
  assertion (size != 0) "mRequestsDataVector.size()"
  -- The comparison is unsigned: a negative count is larger than every size.
  let offset :=
    if toSizeT aReqestsCountPerTransact > size then toInt32 size
    else aReqestsCountPerTransact
  if offset < 0 ∨ offset > size then
    .error (.undefinedBehaviour "iterator out of range")
  else do
    let insEnd := offset.toNat
    assertion (toSizeT offset != size || insEnd == size)
      "insEnd == mRequestsDataVector.end()"
    let filled := { inst with
      PendingData := handler.mRequestsDataVector.take insEnd }
    assertion (filled.PendingData.length != 0) "inst.PendingData.size()"
    -- The return value is a copy, after which the local is destroyed.
    filled.destroy
    return (filled.copy,
      { handler with
        mRequestsDataVector := handler.mRequestsDataVector.drop insEnd },
      gID')

def requestsData (jsonDataFromDataVector : List Data → Data)
    (handler : RequestStatsHandler) (gID : Int) (aRequestCount : Int) :
    Outcome (ReportTransactionHanle × RequestStatsHandler × Int) := do
  let jsonData := jsonDataFromDataVector handler.mRequestsDataVector
  if handler.mRequestsDataVector.isEmpty then
    return ({ cbOnSuccess := none, cbOnFail := none, Buffer := jsonData },
      handler, gID)
  else do
    let (transaction, handler', gID') ←
      createTransaction handler gID aRequestCount
    let mSentData ← pushBack handler'.mSentData transaction
    -- The temporary is destroyed at the end of the full expression.
    transaction.destroy
    let back := mSentData.getLastD transaction
    return ({
      cbOnSuccess := some back.ID
      cbOnFail := some back.ID
      Buffer := jsonDataFromDataVector back.PendingData },
      { handler' with mSentData := mSentData }, gID')

def restoreTransaction (handler : RequestStatsHandler) (key : Int) :
    Outcome RequestStatsHandler :=
  match handler.mSentData.findIdx? (fun it => key == it.ID) with
  | none => .ok handler
  | some index => do
      let pending := (handler.mSentData[index]?.map (·.PendingData)).getD []
      let mSentData ← eraseAt handler.mSentData index
      return {
        mRequestsDataVector := handler.mRequestsDataVector ++ pending
        mSentData := mSentData }

/-- The private `deleteRequestsData`: the file is rewritten from the queue. -/
def deleteRequestsData (handler : RequestStatsHandler) (file : RequestsFile) :
    Outcome RequestsFile :=
  let file' := DataStorage.deleteRequestsData file
  if handler.mRequestsDataVector.length > 0 then
    saveRequestDataVec file' handler.mRequestsDataVector
  else .ok file'

def deleteTransaction (handler : RequestStatsHandler) (file : RequestsFile)
    (key : Int) : Outcome (RequestStatsHandler × RequestsFile) := do
  let mSentData ←
    match handler.mSentData.findIdx? (fun it => key == it.ID) with
    | none => .ok handler.mSentData
    | some index => eraseAt handler.mSentData index
  let handler' := { handler with mSentData := mSentData }
  let file' ← deleteRequestsData handler' file
  return (handler', file')

def deleteAllData (handler : RequestStatsHandler) (file : RequestsFile) :
    Outcome (RequestStatsHandler × RequestsFile) := do
  let handler' := { handler with mRequestsDataVector := [] }
  let file' ← deleteRequestsData handler' file
  return (handler', file')

def requestsCount (handler : RequestStatsHandler) : Nat :=
  handler.mRequestsDataVector.length

def hasData (handler : RequestStatsHandler) : Bool :=
  !handler.mRequestsDataVector.isEmpty

end RequestStatsHandler

end RevSDK
