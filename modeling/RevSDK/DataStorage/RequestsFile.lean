import RevSDK.Connection.Data
import RevSDK.Foundation.Outcome

/-!
# The requests file

The file under `kRSRequestDataStorageKey` is a property list with an array of
`NSData` objects.  Every object in it comes from `NSDataFromData`, which has no
object for an empty buffer.  Reads, writes and deletes are taken to succeed.
-/

namespace RevSDK

open RevSDK.Foundation

/-- An `NSData` object that `NSDataFromData` can return. -/
structure StoredData where
  data : Data
  nonempty : data.length ≠ 0
  deriving DecidableEq

abbrev RequestsFile := Option (List StoredData)

namespace DataStorage

def NSDataFromData (aData : Data) : Option StoredData :=
  if h : aData.length = 0 then none else some ⟨aData, h⟩

/-- `[array addObject:data]`, which raises for `nil`. -/
def addObject (array : List StoredData) (aData : Data) :
    Outcome (List StoredData) :=
  match NSDataFromData aData with
  | none => .error (.exceptionRaised "NSInvalidArgumentException")
  | some data => .ok (array ++ [data])

def saveRequestData (file : RequestsFile) (aRequestData : Data) :
    Outcome RequestsFile := do
  let mutableDataArray ← addObject (file.getD []) aRequestData
  return some mutableDataArray

def saveRequestDataVec (file : RequestsFile) (aRequestDataVec : List Data) :
    Outcome RequestsFile := do
  let mutableDataArray ← aRequestDataVec.foldlM addObject (file.getD [])
  return some mutableDataArray

def loadRequestsData (file : RequestsFile) : List Data :=
  (file.getD []).map StoredData.data

def deleteRequestsData (_ : RequestsFile) : RequestsFile := none

theorem addObject_eq_ok (array : List StoredData) (aData : Data)
    (h : aData.length ≠ 0) :
    addObject array aData = .ok (array ++ [⟨aData, h⟩]) := by
  simp [addObject, NSDataFromData, h]

theorem saveRequestData_spec (file : RequestsFile) (aRequestData : Data)
    (h : aRequestData.length ≠ 0) :
    ∃ file', saveRequestData file aRequestData = .ok file' ∧
      loadRequestsData file' = loadRequestsData file ++ [aRequestData] := by
  refine ⟨some (file.getD [] ++ [⟨aRequestData, h⟩]), ?_, ?_⟩
  · simp [saveRequestData, addObject_eq_ok _ _ h, pure, Except.pure]
  · simp [loadRequestsData]

theorem foldlM_addObject_spec (array : List StoredData) (records : List Data)
    (h : ∀ record ∈ records, record.length ≠ 0) :
    ∃ array', records.foldlM addObject array = .ok array' ∧
      array'.map StoredData.data = array.map StoredData.data ++ records := by
  induction records generalizing array with
  | nil => exact ⟨array, rfl, by simp⟩
  | cons record records ih =>
      have hrecord := h record (by simp)
      obtain ⟨array', hfold, hdata⟩ :=
        ih (array ++ [⟨record, hrecord⟩]) fun r hr => h r (by simp [hr])
      refine ⟨array', ?_, ?_⟩
      · rw [List.foldlM_cons, addObject_eq_ok _ _ hrecord]
        exact hfold
      · simpa using hdata

theorem saveRequestDataVec_spec (file : RequestsFile) (records : List Data)
    (h : ∀ record ∈ records, record.length ≠ 0) :
    ∃ file', saveRequestDataVec file records = .ok file' ∧
      loadRequestsData file' = loadRequestsData file ++ records := by
  obtain ⟨array', hfold, hdata⟩ :=
    foldlM_addObject_spec (file.getD []) records h
  refine ⟨some array', ?_, ?_⟩
  · simp [saveRequestDataVec, hfold, pure, Except.pure]
  · simpa [loadRequestsData] using hdata

theorem loadRequestsData_nonempty (file : RequestsFile) :
    ∀ record ∈ loadRequestsData file, record.length ≠ 0 := by
  intro record hrecord
  obtain ⟨stored, -, rfl⟩ := List.mem_map.mp hrecord
  exact stored.nonempty

@[simp] theorem loadRequestsData_delete (file : RequestsFile) :
    loadRequestsData (deleteRequestsData file) = [] := rfl

end DataStorage

end RevSDK
