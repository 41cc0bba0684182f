import RevSDK.Utils.JSONUtils

/-!
# The configuration file

A configuration is stored as a property list.  The file is the dictionary that
`NSPropertyListSerialization` reads from it, if there is one; the store and
its numbers are faithful, so a number is read as it was written.  A message to
`nil` answers zero.
-/

namespace RevSDK

open RevSDK.Foundation

/-- What the conversions of numbers take from the platform. -/
structure NumberConversions where
  toFloat : ℚ → ℚ
  toDouble : ℚ → ℚ
  leadingReal : String → ℚ

abbrev PropertyList := List (String × Json)

abbrev ConfigurationFile := Option PropertyList

def kRSJKeyABMode : String := "a_b_mode"

/-! ## Numbers and texts of a property list -/

namespace NSObject

def intValue (object : Option Json) : Outcome Int :=
  if object.isNone then .ok 0
  else
    match intValue? object with
    | some value => .ok value
    | none => doesNotRecognizeSelector "intValue"

def integerValue (object : Option Json) : Outcome Int :=
  if object.isNone then .ok 0
  else
    match integerValue? object with
    | some value => .ok value
    | none => doesNotRecognizeSelector "integerValue"

/-- A text is true if it starts with Y, y, T, t or a digit other than zero. -/
def isTrueText (text : String) : Bool :=
  let rest := text.toList.dropWhile Char.isWhitespace
  let rest := match rest with
    | '-' :: rest => rest
    | '+' :: rest => rest
    | rest => rest
  match rest.dropWhile (· == '0') with
  | [] => false
  | first :: _ => ['Y', 'y', 'T', 't'].contains first || first.isDigit

def boolValue : Option Json → Outcome Bool
  | none => .ok false
  | some (.bool value) => .ok value
  | some (.int value) => .ok (value != 0)
  | some (.real value) => .ok (value != 0)
  | some (.string text) => .ok (isTrueText text)
  | some _ => doesNotRecognizeSelector "boolValue"

def floatValue (conversions : NumberConversions) : Option Json → Outcome ℚ
  | none => .ok 0
  | some (.bool value) => .ok (if value then 1 else 0)
  | some (.int value) => .ok (conversions.toFloat value)
  | some (.real value) => .ok (conversions.toFloat value)
  | some (.string text) =>
      .ok (conversions.toFloat (conversions.leadingReal text))
  | some _ => doesNotRecognizeSelector "floatValue"

def doubleValue (conversions : NumberConversions) : Option Json → Outcome ℚ
  | none => .ok 0
  | some (.bool value) => .ok (if value then 1 else 0)
  | some (.int value) => .ok (conversions.toDouble value)
  | some (.real value) => .ok (conversions.toDouble value)
  | some (.string text) => .ok (conversions.leadingReal text)
  | some _ => doesNotRecognizeSelector "doubleValue"

end NSObject

/-- `[NSString stringWithUTF8String:aStdString.c_str()]`. -/
def NSStringFromStdString (aStdString : String) : Json :=
  .string (cString aStdString)

def NSArrayFromVector (aVector : List String) : Json :=
  .array (aVector.map NSStringFromStdString)

/-- The loop over a dictionary is one over its keys. -/
def vectorFromNSArray : Option Json → Outcome (List String)
  | none => .ok []
  | some (.array elements) =>
      elements.mapM fun string => stdStringFromNSString (some string)
  | some (.object members) =>
      members.mapM fun member => stdStringFromNSString (some (.string member.1))
  | some _ => NSObject.doesNotRecognizeSelector
      "countByEnumeratingWithState:objects:count:"

/-- A number is cast to an enumeration. -/
def castNumber {α : Type} (enumerators : List α) (value : Int) : Outcome α :=
  if value < 0 then .error (.undefinedBehaviour "enumeration out of range")
  else castEnum enumerators value.toNat

def enumNumber {α : Type} [DecidableEq α] (enumerators : List α) (value : α) :
    Json :=
  .int (enumerators.idxOf value)

/-! ## The two conversions -/

def configurationFromNSDictionary (conversions : NumberConversions)
    (aDictionary : PropertyList) : Outcome Configuration := do
  let object (key : String) := aDictionary.lookup key
  let os ← stdStringFromNSString (object kOSKey)
  let appName ← stdStringFromNSString (object kAppNameKey)
  let sdkReleaseVersion ←
    NSObject.floatValue conversions (object kSDKReleaseVersionKey)
  let configurationApiURL ←
    stdStringFromNSString (object kConfigurationApiURLKey)
  let refreshInterval ←
    NSObject.intValue (object kConfigurationRefreshIntervalKey)
  let staleTimeout ← NSObject.intValue (object kConfigurationStaleTimeoutKey)
  let edgeHost ← stdStringFromNSString (object kEdgeHostKey)
  let operationMode ← castNumber operationModes
    (← NSObject.integerValue (object kOperationModeKey))
  let allowedProtocols ←
    vectorFromNSArray (object kAllowedTransportProtocolsKey)
  let initialTransportProtocol ←
    stdStringFromNSString (object kInitialTransportProtocolsKey)
  let transportMonitoringURL ←
    stdStringFromNSString (object kTransportMonitoringURLKey)
  let statsReportingURL ← stdStringFromNSString (object kStatsReportingURLKey)
  let statsReportingInterval ←
    NSObject.intValue (object kStatsReportingIntervalKey)
  let statsReportingLevel ← castNumber statsLevels
    (← NSObject.intValue (object kStatsReportingLevelKey))
  let statsReportingMaxRequests ←
    NSObject.intValue (object kStatsReportingMaxRequestsKey)
  let domainsProvisionedList ←
    vectorFromNSArray (object kDomainsProvisionedListKey)
  let domainsWhiteList ← vectorFromNSArray (object kDomainsWhiteListKey)
  let domainsBlackList ← vectorFromNSArray (object kDomainsBlackListKey)
  let domainsInternalBlackList ←
    vectorFromNSArray (object kDomainsInternalBlackListKey)
  let loggingLevel ← stdStringFromNSString (object kLoggingLevelKey)
  let abTesMode ← NSObject.boolValue (object kRSJKeyABMode)
  let abTestingRatio ←
    NSObject.intValue (object kABTestingOriginOffloadRatioKey)
  let failuresFailoverThreshold ←
    NSObject.doubleValue conversions (object kFailuresFailoverThreshold)
  let failuresMonitoringInterval ←
    NSObject.intValue (object kFailuresMonitoringInterval)
  let quicUDPPort ← NSObject.intValue (object kQuicUDPPort)
  let sdkDomain ← stdStringFromNSString (object kSDKDomain)
  return {
    abTesMode := abTesMode
    abTestingRatio := abTestingRatio
    SDKDomain := sdkDomain
    quicUDPPort := quicUDPPort
    failuresMonitoringInterval := failuresMonitoringInterval
    failuresFailoverThreshold := failuresFailoverThreshold
    sdkReleaseVersion := sdkReleaseVersion
    configurationApiURL := configurationApiURL
    refreshInterval := refreshInterval
    staleTimeout := staleTimeout
    edgeHost := edgeHost
    operationMode := operationMode
    allowedProtocols := allowedProtocols
    initialTransportProtocol := initialTransportProtocol
    transportMonitoringURL := transportMonitoringURL
    statsReportingURL := statsReportingURL
    statsReportingInterval := statsReportingInterval
    statsReportingLevel := statsReportingLevel
    statsReportingMaxRequests := statsReportingMaxRequests
    domainsProvisionedList := domainsProvisionedList
    domainsWhiteList := domainsWhiteList
    domainsBlackList := domainsBlackList
    domainsInternalBlackList := domainsInternalBlackList
    appName := appName
    os := os
    loggingLevel := loggingLevel }

def NSDictionaryFromConfiguration (aConfiguration : Configuration) :
    PropertyList :=
  [(kOSKey, NSStringFromStdString aConfiguration.os),
    (kAppNameKey, NSStringFromStdString aConfiguration.appName),
    (kSDKReleaseVersionKey, .real aConfiguration.sdkReleaseVersion),
    (kConfigurationApiURLKey,
      NSStringFromStdString aConfiguration.configurationApiURL),
    (kConfigurationRefreshIntervalKey, .int aConfiguration.refreshInterval),
    (kConfigurationStaleTimeoutKey, .int aConfiguration.staleTimeout),
    (kEdgeHostKey, NSStringFromStdString aConfiguration.edgeHost),
    (kOperationModeKey,
      enumNumber operationModes aConfiguration.operationMode),
    (kAllowedTransportProtocolsKey,
      NSArrayFromVector aConfiguration.allowedProtocols),
    (kInitialTransportProtocolsKey,
      NSStringFromStdString aConfiguration.initialTransportProtocol),
    (kTransportMonitoringURLKey,
      NSStringFromStdString aConfiguration.transportMonitoringURL),
    (kStatsReportingURLKey,
      NSStringFromStdString aConfiguration.statsReportingURL),
    (kStatsReportingIntervalKey, .int aConfiguration.statsReportingInterval),
    (kStatsReportingLevelKey,
      enumNumber statsLevels aConfiguration.statsReportingLevel),
    (kStatsReportingMaxRequestsKey,
      .int aConfiguration.statsReportingMaxRequests),
    (kDomainsProvisionedListKey,
      NSArrayFromVector aConfiguration.domainsProvisionedList),
    (kDomainsWhiteListKey, NSArrayFromVector aConfiguration.domainsWhiteList),
    (kDomainsBlackListKey, NSArrayFromVector aConfiguration.domainsBlackList),
    (kDomainsInternalBlackListKey,
      NSArrayFromVector aConfiguration.domainsInternalBlackList),
    (kLoggingLevelKey, NSStringFromStdString aConfiguration.loggingLevel),
    (kRSJKeyABMode, .bool aConfiguration.abTesMode),
    (kABTestingOriginOffloadRatioKey, .int aConfiguration.abTestingRatio),
    (kFailuresFailoverThreshold,
      .real aConfiguration.failuresFailoverThreshold),
    (kFailuresMonitoringInterval,
      .int aConfiguration.failuresMonitoringInterval),
    (kQuicUDPPort, .int aConfiguration.quicUDPPort),
    (kSDKDomain, NSStringFromStdString aConfiguration.SDKDomain)]

def Configuration.copy (aConfiguration : Configuration) : Configuration where
  appName := aConfiguration.appName
  os := aConfiguration.os
  operationMode := aConfiguration.operationMode
  sdkReleaseVersion := aConfiguration.sdkReleaseVersion
  configurationApiURL := aConfiguration.configurationApiURL
  refreshInterval := aConfiguration.refreshInterval
  staleTimeout := aConfiguration.staleTimeout
  edgeHost := aConfiguration.edgeHost
  allowedProtocols := aConfiguration.allowedProtocols
  initialTransportProtocol := aConfiguration.initialTransportProtocol
  transportMonitoringURL := aConfiguration.transportMonitoringURL
  statsReportingURL := aConfiguration.statsReportingURL
  statsReportingInterval := aConfiguration.statsReportingInterval
  statsReportingLevel := aConfiguration.statsReportingLevel
  statsReportingMaxRequests := aConfiguration.statsReportingMaxRequests
  domainsProvisionedList := aConfiguration.domainsProvisionedList
  domainsWhiteList := aConfiguration.domainsWhiteList
  domainsBlackList := aConfiguration.domainsBlackList
  domainsInternalBlackList := aConfiguration.domainsInternalBlackList
  loggingLevel := aConfiguration.loggingLevel
  abTesMode := aConfiguration.abTesMode
  abTestingRatio := aConfiguration.abTestingRatio
  failuresFailoverThreshold := aConfiguration.failuresFailoverThreshold
  failuresMonitoringInterval := aConfiguration.failuresMonitoringInterval
  quicUDPPort := aConfiguration.quicUDPPort
  SDKDomain := aConfiguration.SDKDomain

namespace DataStorage

/-- The old file is removed and a new one is written. -/
def saveConfiguration (_file : ConfigurationFile)
    (aConfiguration : Configuration) : ConfigurationFile :=
  some (NSDictionaryFromConfiguration aConfiguration)

def configuration (conversions : NumberConversions)
    (file : ConfigurationFile) : Outcome Configuration := do
  let configuration ←
    configurationFromNSDictionary conversions (file.getD [])
  return configuration.copy

end DataStorage

end RevSDK
