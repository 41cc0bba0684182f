import RevSDK.Utils.Configuration
import RevSDK.Utils.RSUtils

/-!
# The configuration decoder

`processConfigurationData` reads the first element of `configs` with the
conversions of `Json::Value`.  An index beyond the last enumerator is no value
of the enumeration; the cast of it has no defined result.
-/

namespace RevSDK

open RevSDK.Foundation

def statsLevelNames : List String := ["debug", "release"]

/-- The enumerators in the order of their values. -/
def operationModes : List RSOperationModeInner :=
  [.kRSOperationModeInnerOff, .kRSOperationModeInnerTransport,
    .kRSOperationModeInnerReport, .kRSOperationModeInnerTransportAndReport]

def statsLevels : List RSStatsReportingLevel :=
  [.kRSStatsReportingLevelDebug, .kRSStatsReportingLevelRelease]

def castEnum {α : Type} (enumerators : List α) (index : Nat) : Outcome α :=
  match enumerators[index]? with
  | some value => .ok value
  | none => .error (.undefinedBehaviour "enumeration out of range")

section Decoder

variable (platform : ConfigurationPlatform)

def vectorFromValue (aValue : Json) : Outcome (List String) :=
  (List.range aValue.size).mapM fun i => do
    (← aValue.element i).asString platform.realText

def readString (configs : Json) (key : String) : Outcome String := do
  (← configs.member key).asString platform.realText

def readInt (configs : Json) (key : String) : Outcome Int := do
  (← configs.member key).asInt

def readFloat (configs : Json) (key : String) : Outcome ℚ := do
  (← configs.member key).asFloat platform.toFloat

def readVector (configs : Json) (key : String) : Outcome (List String) := do
  vectorFromValue platform (← configs.member key)

def decodeConfiguration (value configs : Json) : Outcome Configuration := do
  let operationMode ← readString platform configs kOperationModeKey
  let statsLevel ← readString platform configs kStatsReportingLevelKey
  let appName ← readString platform value kAppNameKey
  let os ← readString platform value kOSKey
  let sdkReleaseVersion ← readFloat platform configs kSDKReleaseVersionKey
  let configurationApiURL ← readString platform configs kConfigurationApiURLKey
  let refreshInterval ← readInt configs kConfigurationRefreshIntervalKey
  let staleTimeout ← readInt configs kConfigurationStaleTimeoutKey
  let edgeHost ← readString platform configs kEdgeHostKey
  let operationMode ← castEnum operationModes
    (operationModeNames.idxOf operationMode)
  let allowedProtocols ←
    readVector platform configs kAllowedTransportProtocolsKey
  let initialTransportProtocol ←
    readString platform configs kInitialTransportProtocolsKey
  let transportMonitoringURL ←
    readString platform configs kTransportMonitoringURLKey
  let statsReportingURL ← readString platform configs kStatsReportingURLKey
  let statsReportingInterval ← readInt configs kStatsReportingIntervalKey
  let statsReportingLevel ← castEnum statsLevels
    (statsLevelNames.idxOf statsLevel)
  let statsReportingMaxRequests ←
    readInt configs kStatsReportingMaxRequestsKey
  let domainsProvisionedList ←
    readVector platform configs kDomainsProvisionedListKey
  let domainsWhiteList ← readVector platform configs kDomainsWhiteListKey
  let domainsBlackList ← readVector platform configs kDomainsBlackListKey
  let domainsInternalBlackList ←
    readVector platform configs kDomainsInternalBlackListKey
  let loggingLevel ← readString platform configs kLoggingLevelKey
  let failuresFailoverThreshold ← readInt configs kFailuresFailoverThreshold
  let failuresMonitoringInterval ← readInt configs kFailuresMonitoringInterval
  let quicUDPPort ← readInt configs kQuicUDPPort
  let sdkDomain ← readString platform configs kSDKDomain
  let abTestingRatio ← readInt configs kABTestingOriginOffloadRatioKey
  return {
    abTestingRatio := abTestingRatio
    SDKDomain := sdkDomain
    quicUDPPort := quicUDPPort
    failuresMonitoringInterval := failuresMonitoringInterval
    failuresFailoverThreshold :=
      platform.toFloat (platform.toFloat failuresFailoverThreshold / 100)
    sdkReleaseVersion := sdkReleaseVersion
    configurationApiURL := configurationApiURL
    refreshInterval := refreshInterval
    staleTimeout := staleTimeout
    edgeHost := edgeHost
    operationMode := operationMode
    allowedProtocols := allowedProtocols
    initialTransportProtocol := initialTransportProtocol
    transportMonitoringURL := transportMonitoringURL
    statsReportingURL := statsReportingURL
    statsReportingInterval := statsReportingInterval
    statsReportingLevel := statsReportingLevel
    statsReportingMaxRequests := statsReportingMaxRequests
    domainsProvisionedList := domainsProvisionedList
    domainsWhiteList := domainsWhiteList
    domainsBlackList := domainsBlackList
    domainsInternalBlackList := domainsInternalBlackList
    appName := appName
    os := os
    loggingLevel := loggingLevel }

def processConfigurationData (aData : Data) : Outcome Configuration :=
  match platform.parse aData with
  | none => .ok {}
  | some value => do
      let configs ← (← value.member kConfigsKey).element 0
      decodeConfiguration platform value configs

structure Reads (value configs : Json) (configuration : Configuration) :
    Prop where
  operationMode : ∃ text,
    readString platform configs kOperationModeKey = .ok text ∧
      castEnum operationModes (operationModeNames.idxOf text) =
        .ok configuration.operationMode
  statsReportingLevel : ∃ text,
    readString platform configs kStatsReportingLevelKey = .ok text ∧
      castEnum statsLevels (statsLevelNames.idxOf text) =
        .ok configuration.statsReportingLevel
  appName : readString platform value kAppNameKey = .ok configuration.appName
  os : readString platform value kOSKey = .ok configuration.os
  sdkReleaseVersion : readFloat platform configs kSDKReleaseVersionKey =
    .ok configuration.sdkReleaseVersion
  configurationApiURL : readString platform configs kConfigurationApiURLKey =
    .ok configuration.configurationApiURL
  refreshInterval : readInt configs kConfigurationRefreshIntervalKey =
    .ok configuration.refreshInterval
  staleTimeout : readInt configs kConfigurationStaleTimeoutKey =
    .ok configuration.staleTimeout
  edgeHost : readString platform configs kEdgeHostKey =
    .ok configuration.edgeHost
  allowedProtocols :
    readVector platform configs kAllowedTransportProtocolsKey =
      .ok configuration.allowedProtocols
  initialTransportProtocol :
    readString platform configs kInitialTransportProtocolsKey =
      .ok configuration.initialTransportProtocol
  transportMonitoringURL :
    readString platform configs kTransportMonitoringURLKey =
      .ok configuration.transportMonitoringURL
  statsReportingURL : readString platform configs kStatsReportingURLKey =
    .ok configuration.statsReportingURL
  statsReportingInterval : readInt configs kStatsReportingIntervalKey =
    .ok configuration.statsReportingInterval
  statsReportingMaxRequests :
    readInt configs kStatsReportingMaxRequestsKey =
      .ok configuration.statsReportingMaxRequests
  domainsProvisionedList :
    readVector platform configs kDomainsProvisionedListKey =
      .ok configuration.domainsProvisionedList
  domainsWhiteList : readVector platform configs kDomainsWhiteListKey =
    .ok configuration.domainsWhiteList
  domainsBlackList : readVector platform configs kDomainsBlackListKey =
    .ok configuration.domainsBlackList
  domainsInternalBlackList :
    readVector platform configs kDomainsInternalBlackListKey =
      .ok configuration.domainsInternalBlackList
  loggingLevel : readString platform configs kLoggingLevelKey =
    .ok configuration.loggingLevel
  failuresFailoverThreshold : ∃ percent,
    readInt configs kFailuresFailoverThreshold = .ok percent ∧
      configuration.failuresFailoverThreshold =
        platform.toFloat (platform.toFloat percent / 100)
  failuresMonitoringInterval : readInt configs kFailuresMonitoringInterval =
    .ok configuration.failuresMonitoringInterval
  quicUDPPort : readInt configs kQuicUDPPort = .ok configuration.quicUDPPort
  SDKDomain : readString platform configs kSDKDomain =
    .ok configuration.SDKDomain
  abTestingRatio : readInt configs kABTestingOriginOffloadRatioKey =
    .ok configuration.abTestingRatio
  abTesMode : configuration.abTesMode = false

end Decoder

theorem castEnum_isOk_iff {α : Type} (enumerators : List α) (index : Nat) :
    (∃ value, castEnum enumerators index = .ok value) ↔
      index < enumerators.length := by
  unfold castEnum
  constructor
  · rintro ⟨value, hvalue⟩
    split at hvalue
    · rename_i hfound
      exact (List.getElem?_eq_some_iff.mp hfound).1
    · cases hvalue
  · intro hlt
    exact ⟨enumerators[index], by rw [List.getElem?_eq_getElem hlt]⟩

section Spec

variable {platform : ConfigurationPlatform} {value configs : Json}
  {configuration : Configuration}

theorem decodeConfiguration_eq_ok :
    decodeConfiguration platform value configs = .ok configuration ↔
      Reads platform value configs configuration := by
  constructor
  · intro h
    unfold decodeConfiguration at h
    simp only [Outcome.bind_eq_ok] at h
    obtain ⟨mode, hmode, level, hlevel, appName, happName, os, hos, version,
      hversion, api, hapi, refresh, hrefresh, stale, hstale, edge, hedge,
      operation, hoperation, allowed, hallowed, protocol, hprotocol, monitoring,
      hmonitoring, stats, hstats, interval, hinterval, reporting, hreporting,
      requests, hrequests, provisioned, hprovisioned, white, hwhite, black,
      hblack, internal, hinternal, logging, hlogging, percent, hpercent,
      failures, hfailures, port, hport, domain, hdomain, ratio, hratio,
      hconfiguration⟩ := h
    obtain rfl := Except.ok.inj hconfiguration
    exact ⟨⟨mode, hmode, hoperation⟩, ⟨level, hlevel, hreporting⟩, happName,
      hos, hversion, hapi, hrefresh, hstale, hedge, hallowed, hprotocol,
      hmonitoring, hstats, hinterval, hrequests, hprovisioned, hwhite, hblack,
      hinternal, hlogging, ⟨percent, hpercent, rfl⟩, hfailures, hport, hdomain,
      hratio, rfl⟩
  · intro h
    obtain ⟨mode, hmode, hoperation⟩ := h.operationMode
    obtain ⟨level, hlevel, hreporting⟩ := h.statsReportingLevel
    obtain ⟨percent, hpercent, hthreshold⟩ := h.failuresFailoverThreshold
    have hab := h.abTesMode
    unfold decodeConfiguration
    rw [hmode, hlevel, h.appName, h.os, h.sdkReleaseVersion,
      h.configurationApiURL, h.refreshInterval, h.staleTimeout, h.edgeHost,
      h.allowedProtocols, h.initialTransportProtocol,
      h.transportMonitoringURL, h.statsReportingURL, h.statsReportingInterval,
      h.statsReportingMaxRequests, h.domainsProvisionedList,
      h.domainsWhiteList, h.domainsBlackList, h.domainsInternalBlackList,
      h.loggingLevel, hpercent, h.failuresMonitoringInterval, h.quicUDPPort,
      h.SDKDomain, h.abTestingRatio]
    simp only [Outcome.ok_bind, hoperation, hreporting, ← hthreshold]
    cases configuration
    cases hab
    rfl

theorem vectorFromValue_array (elements : List Json) :
    vectorFromValue platform (.array elements) =
      elements.mapM (Json.asString platform.realText) := by
  have helements : (List.range elements.length).map
      (fun i => elements[i]?.getD .null) = elements := by
    apply List.ext_getElem
    · simp
    · intro i _ hi
      simp [List.getElem?_eq_getElem hi]
  conv_rhs => rw [← helements]
  rw [List.mapM_map]
  rfl

theorem vectorFromValue_isOk_iff (value : Json) :
    (∃ texts, vectorFromValue platform value = .ok texts) ↔
      value.IsTextList := by
  cases value with
  | array elements =>
      rw [vectorFromValue_array, Outcome.mapM_isOk_iff]
      simp only [Json.asString_isOk_iff]
      rfl
  | object members =>
      cases members with
      | nil =>
          exact iff_of_true ⟨[], rfl⟩ rfl
      | cons first rest =>
          have hloop : vectorFromValue platform (.object (first :: rest)) =
              Json.throwLogicError
                "in Json::Value::operator[](ArrayIndex): requires arrayValue" := by
            change (List.range (rest.length + 1)).mapM _ = _
            rw [List.range_succ_eq_map, List.mapM_cons]
            rfl
          rw [hloop]
          simp [Json.throwLogicError, Json.IsTextList]
  | _ => exact iff_of_true ⟨[], rfl⟩ trivial

theorem vectorFromValue_nonempty {value : Json} {texts : List String}
    (h : vectorFromValue platform value = .ok texts) (hne : texts ≠ []) :
    ∃ elements, value = .array elements ∧
      elements.mapM (Json.asString platform.realText) = .ok texts := by
  have hlist := (vectorFromValue_isOk_iff value).mp ⟨texts, h⟩
  cases value with
  | array elements =>
      rw [vectorFromValue_array] at h
      exact ⟨elements, rfl, h⟩
  | object members =>
      obtain rfl : members = [] := hlist
      exact absurd (Except.ok.inj h).symm hne
  | _ => exact absurd (Except.ok.inj h).symm hne

/-- The value of a key, null if it is missing. -/
def field (members : List (String × Json)) (key : String) : Json :=
  (members.lookup key).getD .null

theorem readVector_object (members : List (String × Json)) (key : String) :
    readVector platform (.object members) key =
      vectorFromValue platform (field members key) := rfl

end Spec

end RevSDK
