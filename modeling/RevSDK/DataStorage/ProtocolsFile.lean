import RevSDK.Model.ConfigurationPersistence

/-!
# The file of the available protocols

The file under `kRSLastMileDataStorageKey` is a property list with an array of
`NSString` objects.  Reads and writes are taken to succeed, and to keep what
was written.
-/

namespace RevSDK

open RevSDK.Foundation

/-- `none` is a missing file. -/
abbrev ProtocolsFile := Option Json

namespace DataStorage

/-- The old array is read, but the new one starts empty. -/
def saveAvailableProtocols (_ : ProtocolsFile) (aVec : List String) :
    ProtocolsFile :=
  some (NSArrayFromVector aVec)

def restoreAvailableProtocols (file : ProtocolsFile) :
    Outcome (List String) :=
  match file with
  | none => .ok []
  | some requestDataArray => vectorFromNSArray (some requestDataArray)

theorem restore_saveAvailableProtocols (file : ProtocolsFile)
    {aVec : List String} (hnames : ∀ name ∈ aVec, NulFree name) :
    restoreAvailableProtocols (saveAvailableProtocols file aVec) = .ok aVec :=
  vectorFromNSArray_of_nulFree hnames

end DataStorage

end RevSDK
