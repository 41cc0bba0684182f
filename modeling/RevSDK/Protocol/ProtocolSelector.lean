import RevSDK.Foundation.RemoveIf
import RevSDK.Protocol.Protocol
import RevSDK.Utils.Configuration

/-!
# The protocol selector

`ProtocolSelector` keeps the protocol in use and the names of the protocols
that the last test found available.  `firstInit` is the static flag of
`onConfigurationApplied`, and `stored` is what `saveAvailable` wrote last.
Locks, log lines and notifications are left out.
-/

namespace RevSDK

open RevSDK.Foundation

structure ProtocolSelector where
  mBestProtocol : Option Protocol
  mAvailableProtocols : List String
  mMonitoringURL : String
  firstInit : Bool
  stored : List String
  deriving DecidableEq

namespace ProtocolSelector

def construct (restoredAvailableProtocols : List String) :
    ProtocolSelector where
  mBestProtocol := none
  mAvailableProtocols := restoredAvailableProtocols
  mMonitoringURL := ""
  firstInit := true
  stored := restoredAvailableProtocols

/-- The protocol that `convertIDToPropocol` installs for a name. -/
def protocolOfID (aID : String) : Option Protocol :=
  if quicProtocolName = aID then some .QUICProtocol
  else if standardProtocolName = aID then some .StandardProtocol
  else none

def convertIDToPropocol (selector : ProtocolSelector) (aID : String) :
    ProtocolSelector :=
  { selector with mBestProtocol := protocolOfID aID }

def saveAvailable (selector : ProtocolSelector) : ProtocolSelector :=
  { selector with stored := selector.mAvailableProtocols }

def haveAvailadleProtocols (selector : ProtocolSelector) : Bool :=
  selector.mBestProtocol.isSome

/-- `refreshTestInfo` and a reported protocol failure run tests only then. -/
def runsTests (selector : ProtocolSelector) : Bool :=
  selector.mMonitoringURL != ""

section Sorting

variable (leftover : List String → Nat → String)

def sortProtocols (selector : ProtocolSelector)
    (aProtocolNamesOrdered : List String) : ProtocolSelector :=
  if !selector.mAvailableProtocols.isEmpty &&
      !aProtocolNamesOrdered.isEmpty then
    let names := removeIf leftover
      (fun item => !selector.mAvailableProtocols.contains item)
      aProtocolNamesOrdered
    match names.head? with
    | some front => (selector.convertIDToPropocol front).saveAvailable
    | none => { selector with mBestProtocol := none }
  else if aProtocolNamesOrdered.isEmpty then
    { selector with mBestProtocol := none }
  else selector

def availableIDs (aResults : List AvailabilityTestResult) : List String :=
  (aResults.filter AvailabilityTestResult.Available).map
    AvailabilityTestResult.ProtocolID

/-- `confProtos` is what `Model::getAllowedProtocolIDs` answered. -/
def handleTestResults (selector : ProtocolSelector)
    (confProtos : List String) (aResults : List AvailabilityTestResult) :
    ProtocolSelector :=
  sortProtocols leftover
    { selector with mAvailableProtocols := availableIDs aResults } confProtos

def onConfigurationApplied (selector : ProtocolSelector)
    (aConf : Configuration) : ProtocolSelector :=
  let selector :=
    { selector with mMonitoringURL := aConf.transportMonitoringURL }
  if selector.firstInit then
    let selector := { selector with firstInit := false }.convertIDToPropocol
      aConf.initialTransportProtocol
    { selector with
      mAvailableProtocols := selector.mAvailableProtocols ++
        [aConf.initialTransportProtocol] }.saveAvailable
  else sortProtocols leftover selector aConf.allowedProtocols

end Sorting

end ProtocolSelector

end RevSDK
