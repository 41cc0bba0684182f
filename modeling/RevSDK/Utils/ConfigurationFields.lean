import RevSDK.DataStorage.ConfigurationFile

/-!
# The fields of a decoded configuration

`FieldReaders` are the conversions of one decoder, which reads each setting
from its key.  Six settings are not asked for by the validator; the law about
their defaults is proved here once, for the conversions of any decoder.
-/

namespace RevSDK

open RevSDK.Foundation

/-! ## Conversions -/

/-- The conversions of a decoder; `none` stands for a missing key. -/
structure FieldReaders where
  text : Option Json → Outcome String
  integer : Option Json → Outcome Int
  version : Option Json → Outcome ℚ
  threshold : Option Json → Outcome ℚ
  list : Option Json → Outcome (List String)
  flag : Option Json → Outcome Bool
  operationMode : Option Json → Outcome RSOperationModeInner
  statsLevel : Option Json → Outcome RSStatsReportingLevel

structure OptionalReaders where
  SDKDomain : Option Json → Outcome String
  quicUDPPort : Option Json → Outcome Int
  failuresMonitoringInterval : Option Json → Outcome Int
  failuresFailoverThreshold : Option Json → Outcome ℚ
  abTestingRatio : Option Json → Outcome Int
  domainsInternalBlackList : Option Json → Outcome (List String)

def FieldReaders.optional (readers : FieldReaders) : OptionalReaders where
  SDKDomain := readers.text
  quicUDPPort := readers.integer
  failuresMonitoringInterval := readers.integer
  failuresFailoverThreshold := readers.threshold
  abTestingRatio := readers.integer
  domainsInternalBlackList := readers.list

def orDefault {α : Type} (read : Option Json → Outcome α) (default : α) :
    Option Json → Outcome α
  | none => .ok default
  | some value => read (some value)

def OptionalReaders.keepingDefaults (readers : OptionalReaders) :
    OptionalReaders :=
  let configuration : Configuration := {}
  { SDKDomain := orDefault readers.SDKDomain configuration.SDKDomain
    quicUDPPort := orDefault readers.quicUDPPort configuration.quicUDPPort
    failuresMonitoringInterval :=
      orDefault readers.failuresMonitoringInterval
        configuration.failuresMonitoringInterval
    failuresFailoverThreshold :=
      orDefault readers.failuresFailoverThreshold
        configuration.failuresFailoverThreshold
    abTestingRatio :=
      orDefault readers.abTestingRatio configuration.abTestingRatio
    domainsInternalBlackList :=
      orDefault readers.domainsInternalBlackList
        configuration.domainsInternalBlackList }

section Fields

variable (readers : FieldReaders) (document element : List (String × Json))

structure RequiredFields (configuration : Configuration) : Prop where
  os : readers.text (document.lookup kOSKey) = .ok configuration.os
  appName : readers.text (document.lookup kAppNameKey) =
    .ok configuration.appName
  sdkReleaseVersion : readers.version (element.lookup kSDKReleaseVersionKey) =
    .ok configuration.sdkReleaseVersion
  configurationApiURL : readers.text (element.lookup kConfigurationApiURLKey) =
    .ok configuration.configurationApiURL
  refreshInterval :
    readers.integer (element.lookup kConfigurationRefreshIntervalKey) =
      .ok configuration.refreshInterval
  staleTimeout :
    readers.integer (element.lookup kConfigurationStaleTimeoutKey) =
      .ok configuration.staleTimeout
  edgeHost : readers.text (element.lookup kEdgeHostKey) =
    .ok configuration.edgeHost
  operationMode : readers.operationMode (element.lookup kOperationModeKey) =
    .ok configuration.operationMode
  allowedProtocols :
    readers.list (element.lookup kAllowedTransportProtocolsKey) =
      .ok configuration.allowedProtocols
  initialTransportProtocol :
    readers.text (element.lookup kInitialTransportProtocolsKey) =
      .ok configuration.initialTransportProtocol
  transportMonitoringURL :
    readers.text (element.lookup kTransportMonitoringURLKey) =
      .ok configuration.transportMonitoringURL
  statsReportingURL : readers.text (element.lookup kStatsReportingURLKey) =
    .ok configuration.statsReportingURL
  statsReportingInterval :
    readers.integer (element.lookup kStatsReportingIntervalKey) =
      .ok configuration.statsReportingInterval
  statsReportingLevel :
    readers.statsLevel (element.lookup kStatsReportingLevelKey) =
      .ok configuration.statsReportingLevel
  statsReportingMaxRequests :
    readers.integer (element.lookup kStatsReportingMaxRequestsKey) =
      .ok configuration.statsReportingMaxRequests
  domainsProvisionedList :
    readers.list (element.lookup kDomainsProvisionedListKey) =
      .ok configuration.domainsProvisionedList
  domainsWhiteList : readers.list (element.lookup kDomainsWhiteListKey) =
    .ok configuration.domainsWhiteList
  domainsBlackList : readers.list (element.lookup kDomainsBlackListKey) =
    .ok configuration.domainsBlackList
  loggingLevel : readers.text (element.lookup kLoggingLevelKey) =
    .ok configuration.loggingLevel
  abTesMode : readers.flag (element.lookup kRSJKeyABMode) =
    .ok configuration.abTesMode

structure OptionalFields (optional : OptionalReaders)
    (configuration : Configuration) : Prop where
  SDKDomain : optional.SDKDomain (element.lookup kSDKDomain) =
    .ok configuration.SDKDomain
  quicUDPPort : optional.quicUDPPort (element.lookup kQuicUDPPort) =
    .ok configuration.quicUDPPort
  failuresMonitoringInterval :
    optional.failuresMonitoringInterval
        (element.lookup kFailuresMonitoringInterval) =
      .ok configuration.failuresMonitoringInterval
  failuresFailoverThreshold :
    optional.failuresFailoverThreshold
        (element.lookup kFailuresFailoverThreshold) =
      .ok configuration.failuresFailoverThreshold
  abTestingRatio :
    optional.abTestingRatio (element.lookup kABTestingOriginOffloadRatioKey) =
      .ok configuration.abTestingRatio
  domainsInternalBlackList :
    optional.domainsInternalBlackList
        (element.lookup kDomainsInternalBlackListKey) =
      .ok configuration.domainsInternalBlackList

/-- Every field is read from its key, whether the key is there or not. -/
structure ReadsFields (configuration : Configuration) : Prop where
  required : RequiredFields readers document element configuration
  optional : OptionalFields element readers.optional configuration

/-- The missing optional settings have the values of the constructor. -/
structure KeepsDefaults (configuration : Configuration) : Prop where
  required : RequiredFields readers document element configuration
  optional :
    OptionalFields element readers.optional.keepingDefaults configuration

end Fields

/-! ## What converts -/

structure FieldKinds where
  text : Option Json → Prop
  integer : Option Json → Prop
  version : Option Json → Prop
  threshold : Option Json → Prop
  list : Option Json → Prop
  flag : Option Json → Prop
  operationMode : Option Json → Prop
  statsLevel : Option Json → Prop

def documentTextKeys : List String := [kOSKey, kAppNameKey]

def elementTextKeys : List String :=
  [kConfigurationApiURLKey, kEdgeHostKey, kInitialTransportProtocolsKey,
    kTransportMonitoringURLKey, kStatsReportingURLKey, kLoggingLevelKey,
    kSDKDomain]

def elementIntegerKeys : List String :=
  [kConfigurationRefreshIntervalKey, kConfigurationStaleTimeoutKey,
    kStatsReportingIntervalKey, kStatsReportingMaxRequestsKey,
    kFailuresMonitoringInterval, kQuicUDPPort,
    kABTestingOriginOffloadRatioKey]

def elementListKeys : List String :=
  [kAllowedTransportProtocolsKey, kDomainsProvisionedListKey,
    kDomainsWhiteListKey, kDomainsBlackListKey, kDomainsInternalBlackListKey]

structure Convertible (kinds : FieldKinds)
    (document element : List (String × Json)) : Prop where
  documentTexts : ∀ key ∈ documentTextKeys, kinds.text (document.lookup key)
  texts : ∀ key ∈ elementTextKeys, kinds.text (element.lookup key)
  integers : ∀ key ∈ elementIntegerKeys, kinds.integer (element.lookup key)
  lists : ∀ key ∈ elementListKeys, kinds.list (element.lookup key)
  version : kinds.version (element.lookup kSDKReleaseVersionKey)
  threshold : kinds.threshold (element.lookup kFailuresFailoverThreshold)
  flag : kinds.flag (element.lookup kRSJKeyABMode)
  operationMode : kinds.operationMode (element.lookup kOperationModeKey)
  statsLevel : kinds.statsLevel (element.lookup kStatsReportingLevelKey)

/-- The optional settings whose defaults are not what a missing key reads as. -/
def defaultedKeys : List String :=
  [kSDKDomain, kQuicUDPPort, kFailuresMonitoringInterval,
    kFailuresFailoverThreshold, kABTestingOriginOffloadRatioKey]

def NamesDefaulted (element : List (String × Json)) : Prop :=
  ∀ key ∈ defaultedKeys, (element.lookup key).isSome

structure FieldReaders.Take (readers : FieldReaders) (kinds : FieldKinds) :
    Prop where
  text : ∀ object, (∃ value, readers.text object = .ok value) ↔
    kinds.text object
  integer : ∀ object, (∃ value, readers.integer object = .ok value) ↔
    kinds.integer object
  version : ∀ object, (∃ value, readers.version object = .ok value) ↔
    kinds.version object
  threshold : ∀ object, (∃ value, readers.threshold object = .ok value) ↔
    kinds.threshold object
  list : ∀ object, (∃ value, readers.list object = .ok value) ↔
    kinds.list object
  flag : ∀ object, (∃ value, readers.flag object = .ok value) ↔
    kinds.flag object
  operationMode : ∀ object,
    (∃ value, readers.operationMode object = .ok value) ↔
      kinds.operationMode object
  statsLevel : ∀ object,
    (∃ value, readers.statsLevel object = .ok value) ↔ kinds.statsLevel object

/-- Nothing reads as zero, as the empty text or as the empty list. -/
structure FieldReaders.MissingIsZero (readers : FieldReaders) : Prop where
  text : readers.text none = .ok ""
  integer : readers.integer none = .ok 0
  threshold : readers.threshold none = .ok 0
  list : readers.list none = .ok []

section Law

variable {readers : FieldReaders} {kinds : FieldKinds}
  {document element : List (String × Json)} {configuration : Configuration}

theorem orDefault_eq_ok_iff {α : Type} (default : α)
    {read : Option Json → Outcome α} {missing value : α}
    {object : Option Json}
    (hread : read object = .ok value) (hmissing : read none = .ok missing)
    (hne : missing ≠ default) :
    orDefault read default object = .ok value ↔ object.isSome := by
  cases object with
  | none =>
      obtain rfl : missing = value :=
        Except.ok.inj (hmissing.symm.trans hread)
      simp only [orDefault, Except.ok.injEq, Option.isSome_none,
        Bool.false_eq_true, iff_false]
      exact hne.symm
  | some object => exact iff_of_true hread rfl

theorem orDefault_eq {α : Type} {read : Option Json → Outcome α} {default : α}
    (hmissing : read none = .ok default) (object : Option Json) :
    orDefault read default object = read object := by
  cases object with
  | none => exact hmissing.symm
  | some value => rfl

theorem OptionalFields.keepingDefaults_iff (hzero : readers.MissingIsZero)
    (h : OptionalFields element readers.optional configuration) :
    OptionalFields element readers.optional.keepingDefaults configuration ↔
      NamesDefaulted element := by
  have hdomain := orDefault_eq_ok_iff "revsdk.net" h.SDKDomain
    hzero.text (by decide)
  have hport := orDefault_eq_ok_iff 443 h.quicUDPPort
    hzero.integer (by decide)
  have hinterval := orDefault_eq_ok_iff 120
    h.failuresMonitoringInterval hzero.integer (by decide)
  have hthreshold := orDefault_eq_ok_iff (6 / 10)
    h.failuresFailoverThreshold hzero.threshold (by decide +kernel)
  have hratio := orDefault_eq_ok_iff (-1) h.abTestingRatio
    hzero.integer (by decide)
  constructor
  · intro hkeeps key hkey
    simp only [defaultedKeys, List.mem_cons, List.not_mem_nil,
      or_false] at hkey
    rcases hkey with rfl | rfl | rfl | rfl | rfl
    · exact hdomain.mp hkeeps.SDKDomain
    · exact hport.mp hkeeps.quicUDPPort
    · exact hinterval.mp hkeeps.failuresMonitoringInterval
    · exact hthreshold.mp hkeeps.failuresFailoverThreshold
    · exact hratio.mp hkeeps.abTestingRatio
  · intro hnames
    exact
      { SDKDomain := hdomain.mpr (hnames _ (by decide))
        quicUDPPort := hport.mpr (hnames _ (by decide))
        failuresMonitoringInterval := hinterval.mpr (hnames _ (by decide))
        failuresFailoverThreshold := hthreshold.mpr (hnames _ (by decide))
        abTestingRatio := hratio.mpr (hnames _ (by decide))
        domainsInternalBlackList :=
          (orDefault_eq hzero.list _).trans h.domainsInternalBlackList }

theorem ReadsFields.convertible (htake : readers.Take kinds)
    (h : ReadsFields readers document element configuration) :
    Convertible kinds document element where
  documentTexts key hkey := by
    apply (htake.text _).mp
    simp only [documentTextKeys, List.mem_cons, List.not_mem_nil,
      or_false] at hkey
    rcases hkey with rfl | rfl
    · exact ⟨_, h.required.os⟩
    · exact ⟨_, h.required.appName⟩
  texts key hkey := by
    apply (htake.text _).mp
    simp only [elementTextKeys, List.mem_cons, List.not_mem_nil,
      or_false] at hkey
    rcases hkey with rfl | rfl | rfl | rfl | rfl | rfl | rfl
    · exact ⟨_, h.required.configurationApiURL⟩
    · exact ⟨_, h.required.edgeHost⟩
    · exact ⟨_, h.required.initialTransportProtocol⟩
    · exact ⟨_, h.required.transportMonitoringURL⟩
    · exact ⟨_, h.required.statsReportingURL⟩
    · exact ⟨_, h.required.loggingLevel⟩
    · exact ⟨_, h.optional.SDKDomain⟩
  integers key hkey := by
    apply (htake.integer _).mp
    simp only [elementIntegerKeys, List.mem_cons, List.not_mem_nil,
      or_false] at hkey
    rcases hkey with rfl | rfl | rfl | rfl | rfl | rfl | rfl
    · exact ⟨_, h.required.refreshInterval⟩
    · exact ⟨_, h.required.staleTimeout⟩
    · exact ⟨_, h.required.statsReportingInterval⟩
    · exact ⟨_, h.required.statsReportingMaxRequests⟩
    · exact ⟨_, h.optional.failuresMonitoringInterval⟩
    · exact ⟨_, h.optional.quicUDPPort⟩
    · exact ⟨_, h.optional.abTestingRatio⟩
  lists key hkey := by
    apply (htake.list _).mp
    simp only [elementListKeys, List.mem_cons, List.not_mem_nil,
      or_false] at hkey
    rcases hkey with rfl | rfl | rfl | rfl | rfl
    · exact ⟨_, h.required.allowedProtocols⟩
    · exact ⟨_, h.required.domainsProvisionedList⟩
    · exact ⟨_, h.required.domainsWhiteList⟩
    · exact ⟨_, h.required.domainsBlackList⟩
    · exact ⟨_, h.optional.domainsInternalBlackList⟩
  version := (htake.version _).mp ⟨_, h.required.sdkReleaseVersion⟩
  threshold :=
    (htake.threshold _).mp ⟨_, h.optional.failuresFailoverThreshold⟩
  flag := (htake.flag _).mp ⟨_, h.required.abTesMode⟩
  operationMode := (htake.operationMode _).mp ⟨_, h.required.operationMode⟩
  statsLevel := (htake.statsLevel _).mp ⟨_, h.required.statsReportingLevel⟩

theorem Convertible.readsFields (htake : readers.Take kinds)
    (h : Convertible kinds document element) :
    ∃ configuration, ReadsFields readers document element configuration := by
  have htop (key : String) (hkey : key ∈ documentTextKeys) :=
    (htake.text _).mpr (h.documentTexts key hkey)
  have htext (key : String) (hkey : key ∈ elementTextKeys) :=
    (htake.text _).mpr (h.texts key hkey)
  have hinteger (key : String) (hkey : key ∈ elementIntegerKeys) :=
    (htake.integer _).mpr (h.integers key hkey)
  have hlist (key : String) (hkey : key ∈ elementListKeys) :=
    (htake.list _).mpr (h.lists key hkey)
  obtain ⟨os, hos⟩ := htop kOSKey (by decide)
  obtain ⟨appName, happName⟩ := htop kAppNameKey (by decide)
  obtain ⟨api, hapi⟩ := htext kConfigurationApiURLKey (by decide)
  obtain ⟨edge, hedge⟩ := htext kEdgeHostKey (by decide)
  obtain ⟨protocol, hprotocol⟩ :=
    htext kInitialTransportProtocolsKey (by decide)
  obtain ⟨monitoring, hmonitoring⟩ :=
    htext kTransportMonitoringURLKey (by decide)
  obtain ⟨stats, hstats⟩ := htext kStatsReportingURLKey (by decide)
  obtain ⟨logging, hlogging⟩ := htext kLoggingLevelKey (by decide)
  obtain ⟨domain, hdomain⟩ := htext kSDKDomain (by decide)
  obtain ⟨refresh, hrefresh⟩ :=
    hinteger kConfigurationRefreshIntervalKey (by decide)
  obtain ⟨stale, hstale⟩ := hinteger kConfigurationStaleTimeoutKey (by decide)
  obtain ⟨interval, hinterval⟩ :=
    hinteger kStatsReportingIntervalKey (by decide)
  obtain ⟨requests, hrequests⟩ :=
    hinteger kStatsReportingMaxRequestsKey (by decide)
  obtain ⟨failures, hfailures⟩ :=
    hinteger kFailuresMonitoringInterval (by decide)
  obtain ⟨port, hport⟩ := hinteger kQuicUDPPort (by decide)
  obtain ⟨ratio, hratio⟩ :=
    hinteger kABTestingOriginOffloadRatioKey (by decide)
  obtain ⟨allowed, hallowed⟩ := hlist kAllowedTransportProtocolsKey (by decide)
  obtain ⟨provisioned, hprovisioned⟩ :=
    hlist kDomainsProvisionedListKey (by decide)
  obtain ⟨white, hwhite⟩ := hlist kDomainsWhiteListKey (by decide)
  obtain ⟨black, hblack⟩ := hlist kDomainsBlackListKey (by decide)
  obtain ⟨internal, hinternal⟩ := hlist kDomainsInternalBlackListKey (by decide)
  obtain ⟨version, hversion⟩ := (htake.version _).mpr h.version
  obtain ⟨threshold, hthreshold⟩ := (htake.threshold _).mpr h.threshold
  obtain ⟨flag, hflag⟩ := (htake.flag _).mpr h.flag
  obtain ⟨mode, hmode⟩ := (htake.operationMode _).mpr h.operationMode
  obtain ⟨level, hlevel⟩ := (htake.statsLevel _).mpr h.statsLevel
  let configuration : Configuration :=
    { abTesMode := flag, abTestingRatio := ratio, SDKDomain := domain
      quicUDPPort := port, failuresMonitoringInterval := failures
      failuresFailoverThreshold := threshold, sdkReleaseVersion := version
      configurationApiURL := api, refreshInterval := refresh
      staleTimeout := stale, edgeHost := edge, operationMode := mode
      allowedProtocols := allowed, initialTransportProtocol := protocol
      transportMonitoringURL := monitoring, statsReportingURL := stats
      statsReportingInterval := interval, statsReportingLevel := level
      statsReportingMaxRequests := requests
      domainsProvisionedList := provisioned, domainsWhiteList := white
      domainsBlackList := black, domainsInternalBlackList := internal
      appName := appName, os := os, loggingLevel := logging }
  exact ⟨configuration,
    ⟨hos, happName, hversion, hapi, hrefresh, hstale, hedge, hmode, hallowed,
      hprotocol, hmonitoring, hstats, hinterval, hlevel, hrequests,
      hprovisioned, hwhite, hblack, hlogging, hflag⟩,
    ⟨hdomain, hport, hfailures, hthreshold, hratio, hinternal⟩⟩

theorem keepsDefaults_iff (htake : readers.Take kinds)
    (hzero : readers.MissingIsZero) {decoded : Outcome Configuration}
    (hdecoded : ∀ configuration, decoded = .ok configuration ↔
      ReadsFields readers document element configuration) :
    (∃ configuration, decoded = .ok configuration ∧
        KeepsDefaults readers document element configuration) ↔
      Convertible kinds document element ∧ NamesDefaulted element := by
  constructor
  · rintro ⟨configuration, hok, hkeeps⟩
    have hreads := (hdecoded configuration).mp hok
    exact ⟨hreads.convertible htake,
      (hreads.optional.keepingDefaults_iff hzero).mp hkeeps.optional⟩
  · rintro ⟨hconvertible, hnames⟩
    obtain ⟨configuration, hreads⟩ := hconvertible.readsFields htake
    exact ⟨configuration, (hdecoded configuration).mpr hreads, hreads.required,
      (hreads.optional.keepingDefaults_iff hzero).mpr hnames⟩

end Law

end RevSDK
