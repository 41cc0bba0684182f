import RevSDK.Utils.ConfigurationAgreement

/-!
# The document of a configuration

A server names the settings of a configuration under their keys.  If they are
settings that the validator admits, the document is accepted, and the decoder
makes the same configuration of it.
-/

namespace RevSDK

open RevSDK.Foundation

namespace Configuration

/-- The document has the threshold in percent. -/
def thresholdPercent (configuration : Configuration) : Int :=
  (configuration.failuresFailoverThreshold * 100).num

def servedElement (configuration : Configuration) : List (String × Json) :=
  let list (texts : List String) : Json := .array (texts.map .string)
  [(kOperationModeKey, .string (operationModeName configuration.operationMode)),
    (kStatsReportingLevelKey,
      .string (statsLevelName configuration.statsReportingLevel)),
    (kSDKReleaseVersionKey, .int kRSSDKVersion),
    (kConfigurationApiURLKey, .string configuration.configurationApiURL),
    (kConfigurationRefreshIntervalKey, .int configuration.refreshInterval),
    (kConfigurationStaleTimeoutKey, .int configuration.staleTimeout),
    (kEdgeHostKey, .string configuration.edgeHost),
    (kAllowedTransportProtocolsKey, list configuration.allowedProtocols),
    (kInitialTransportProtocolsKey,
      .string configuration.initialTransportProtocol),
    (kTransportMonitoringURLKey, .string configuration.transportMonitoringURL),
    (kStatsReportingURLKey, .string configuration.statsReportingURL),
    (kStatsReportingIntervalKey, .int configuration.statsReportingInterval),
    (kStatsReportingMaxRequestsKey,
      .int configuration.statsReportingMaxRequests),
    (kDomainsProvisionedListKey, list configuration.domainsProvisionedList),
    (kDomainsWhiteListKey, list configuration.domainsWhiteList),
    (kDomainsBlackListKey, list configuration.domainsBlackList),
    (kDomainsInternalBlackListKey, list configuration.domainsInternalBlackList),
    (kLoggingLevelKey, .string configuration.loggingLevel),
    (kABTestingOriginOffloadRatioKey, .int configuration.abTestingRatio),
    (kSDKDomain, .string configuration.SDKDomain),
    (kQuicUDPPort, .int configuration.quicUDPPort),
    (kFailuresMonitoringInterval,
      .int configuration.failuresMonitoringInterval),
    (kFailuresFailoverThreshold, .int configuration.thresholdPercent)]

def servedDocument (configuration : Configuration) : List (String × Json) :=
  [(kOSKey, .string configuration.os),
    (kAppNameKey, .string configuration.appName),
    (kConfigsKey, .array [.object configuration.servedElement])]

/-- The settings are those of a document that the validator admits. -/
structure Served (platform : ConfigurationPlatform)
    (configuration : Configuration) : Prop where
  os : configuration.os = "iOS"
  allowedProtocols : configuration.allowedProtocols ≠ []
  edgeHost : configuration.edgeHost ≠ ""
  initialTransportProtocol :
    configuration.initialTransportProtocol ∈ protocolNames
  loggingLevel : configuration.loggingLevel ∈ logLevelNames
  urls : ∀ url ∈ [configuration.configurationApiURL,
    configuration.statsReportingURL, configuration.transportMonitoringURL],
    _isValidURL platform (some (.string url)) = true
  positive : ∀ value ∈ [configuration.refreshInterval,
    configuration.staleTimeout, configuration.statsReportingInterval,
    configuration.statsReportingMaxRequests], 0 < value
  integers : ∀ value ∈ [configuration.refreshInterval,
    configuration.staleTimeout, configuration.statsReportingInterval,
    configuration.statsReportingMaxRequests, configuration.abTestingRatio,
    configuration.quicUDPPort, configuration.failuresMonitoringInterval,
    configuration.thresholdPercent], (Json.int value).IsInt32
  sdkReleaseVersion :
    platform.toFloat kRSSDKVersion = configuration.sdkReleaseVersion
  failuresFailoverThreshold :
    platform.toFloat (platform.toFloat configuration.thresholdPercent / 100) =
      configuration.failuresFailoverThreshold
  abTesMode : configuration.abTesMode = false

instance (platform : ConfigurationPlatform) (configuration : Configuration) :
    Decidable (configuration.Served platform) :=
  decidable_of_iff (_ ∧ _ ∧ _ ∧ _ ∧ _ ∧ _ ∧ _ ∧ _ ∧ _ ∧ _ ∧ _)
    ⟨fun ⟨hos, hallowed, hedge, hprotocol, hlogging, hurls, hpositive,
      hintegers, hversion, hthreshold, hab⟩ => ⟨hos, hallowed, hedge,
        hprotocol, hlogging, hurls, hpositive, hintegers, hversion, hthreshold,
        hab⟩,
      fun h => ⟨h.os, h.allowedProtocols, h.edgeHost,
        h.initialTransportProtocol, h.loggingLevel, h.urls, h.positive,
        h.integers, h.sdkReleaseVersion, h.failuresFailoverThreshold,
        h.abTesMode⟩⟩

end Configuration

section Serving

variable {platform : ConfigurationPlatform} {configuration : Configuration}

theorem asInt_of_isInt32 {value : Int} (h : (Json.int value).IsInt32) :
    (Json.int value).asInt = .ok value := by
  obtain ⟨hlow, hhigh⟩ := h
  unfold Json.asInt
  dsimp only
  rw [if_neg (by omega), if_neg (by omega)]

theorem signedValue?_of_isInt32 {bits : Nat} (hbits : bits = 32 ∨ bits = 64)
    {value : Int} (h : (Json.int value).IsInt32) :
    NSObject.signedValue? bits (some (.int value)) = some value :=
  NSObject.signedValue?_of_asInt hbits (asInt_of_isInt32 h) Json.noConfusion

theorem vectorFromValue_texts (texts : List String) :
    vectorFromValue platform (.array (texts.map .string)) = .ok texts := by
  rw [vectorFromValue_array, List.mapM_map]
  induction texts with
  | nil => rfl
  | cons text texts ih =>
      rw [List.mapM_cons, ih]
      rfl

theorem Configuration.Served.validElement
    (h : configuration.Served platform) :
    ValidElement platform configuration.servedElement := by
  have hurls := h.urls
  have hpositive := h.positive
  have hintegers := h.integers
  simp only [List.forall_mem_cons, List.not_mem_nil, IsEmpty.forall_iff,
    implies_true, and_true] at hurls hpositive hintegers
  obtain ⟨hapi, hstats, hmonitoring⟩ := hurls
  obtain ⟨hrefresh, hstale, hinterval, hrequests⟩ := hpositive
  obtain ⟨hrefreshInt, hstaleInt, hintervalInt, hrequestsInt, -⟩ := hintegers
  exact
    { allowedTransportProtocols := ⟨_, rfl, by simpa using h.allowedProtocols⟩
      configurationApiURL := hapi
      refreshInterval :=
        ⟨_, signedValue?_of_isInt32 (.inr rfl) hrefreshInt, hrefresh⟩
      staleTimeout := ⟨_, signedValue?_of_isInt32 (.inr rfl) hstaleInt, hstale⟩
      blackList := rfl
      provisionedList := rfl
      edgeHost := ⟨_, rfl, h.edgeHost⟩
      initialTransportProtocol := ⟨_, h.initialTransportProtocol, rfl⟩
      loggingLevel := ⟨_, h.loggingLevel, rfl⟩
      operationMode := ⟨operationModeName configuration.operationMode, by
        cases configuration.operationMode <;> decide, rfl⟩
      releaseVersion := rfl
      statsReportingInterval :=
        ⟨_, signedValue?_of_isInt32 (.inr rfl) hintervalInt, hinterval⟩
      statsReportingLevel := ⟨statsLevelName configuration.statsReportingLevel,
        rfl, by cases configuration.statsReportingLevel <;> decide⟩
      maxRequests :=
        ⟨_, signedValue?_of_isInt32 (.inl rfl) hrequestsInt, hrequests⟩
      statsReportingURL := hstats
      transportMonitoringURL := hmonitoring }

theorem Configuration.Served.reads (h : configuration.Served platform) :
    Reads platform (.object configuration.servedDocument)
      (.object configuration.servedElement) configuration := by
  have hintegers := h.integers
  simp only [List.forall_mem_cons, List.not_mem_nil, IsEmpty.forall_iff,
    implies_true, and_true] at hintegers
  obtain ⟨hrefresh, hstale, hinterval, hrequests, hratio, hport, hfailures,
    hpercent⟩ := hintegers
  exact
    { operationMode := ⟨_, rfl, by
        cases configuration.operationMode <;> decide⟩
      statsReportingLevel := ⟨_, rfl, by
        cases configuration.statsReportingLevel <;> decide⟩
      appName := rfl
      os := rfl
      sdkReleaseVersion := congrArg Except.ok h.sdkReleaseVersion
      configurationApiURL := rfl
      refreshInterval := asInt_of_isInt32 hrefresh
      staleTimeout := asInt_of_isInt32 hstale
      edgeHost := rfl
      allowedProtocols := vectorFromValue_texts _
      initialTransportProtocol := rfl
      transportMonitoringURL := rfl
      statsReportingURL := rfl
      statsReportingInterval := asInt_of_isInt32 hinterval
      statsReportingMaxRequests := asInt_of_isInt32 hrequests
      domainsProvisionedList := vectorFromValue_texts _
      domainsWhiteList := vectorFromValue_texts _
      domainsBlackList := vectorFromValue_texts _
      domainsInternalBlackList := vectorFromValue_texts _
      loggingLevel := rfl
      failuresFailoverThreshold :=
        ⟨_, asInt_of_isInt32 hpercent, h.failuresFailoverThreshold.symm⟩
      failuresMonitoringInterval := asInt_of_isInt32 hfailures
      quicUDPPort := asInt_of_isInt32 hport
      SDKDomain := rfl
      abTestingRatio := asInt_of_isInt32 hratio
      abTesMode := h.abTesMode }

theorem Configuration.Served.read (h : configuration.Served platform)
    {data : Data} (hdata : data.isEmpty = false)
    (hparsed : platform.parse data =
      some (.object configuration.servedDocument)) (aError : Error) :
    platform.reader.isValidConfiguration data aError = .ok (true, aError) ∧
      platform.reader.processConfigurationData data = .ok configuration := by
  have hdocument : ValidDocument platform data configuration.servedDocument
      [.object configuration.servedElement] configuration.servedElement :=
    ⟨hparsed, by rw [← h.os]; rfl, rfl, rfl, h.validElement⟩
  refine ⟨hdocument.accepted hdata, ?_⟩
  change processConfigurationData platform data = _
  rw [hdocument.processConfigurationData rfl]
  exact decodeConfiguration_eq_ok.mpr h.reads

end Serving

/-! ## A server with one configuration -/

def quoted (text : String) : String := "\"" ++ text ++ "\""

def settingText : Json → String
  | .string text => quoted text
  | .int value => toString value
  | .array elements => "[" ++ ",".intercalate (elements.filterMap fun element =>
      (NSObject.string? (some element)).map quoted) ++ "]"
  | _ => "null"

def membersText (members : List (String × Json)) : String :=
  ",".intercalate (members.map fun member =>
    quoted member.1 ++ ":" ++ settingText member.2)

namespace Configuration

def servedText (configuration : Configuration) : String :=
  "\x7b" ++ ("\"os\":" ++ quoted configuration.os ++ ",\"app_name\":" ++
    quoted configuration.appName ++ ",\"configs\":[\x7b" ++
    membersText configuration.servedElement ++ "\x7d]\x7d")

def servedData (configuration : Configuration) : Data :=
  ⟨configuration.servedText.toList.map fun c => UInt8.ofNat c.toNat⟩

def servingPlatform (configuration : Configuration) :
    ConfigurationPlatform where
  parse data := if data = configuration.servedData then
    some (.object configuration.servedDocument) else none
  urlWithString text := if text = "https://e.rev" then
    some ⟨some "https", some "e.rev"⟩ else none
  description _ := ""
  realText value := toString value.num
  toFloat value := value

theorem servedData_nonempty (configuration : Configuration) :
    configuration.servedData.isEmpty = false := by
  unfold servedData servedText Data.isEmpty
  have hbrace : "\x7b".toList = ['\x7b'] := rfl
  rw [String.toList_append, hbrace]
  rfl

theorem Served.serves {configuration : Configuration}
    (h : configuration.Served configuration.servingPlatform) (aError : Error) :
    configuration.servingPlatform.reader.isValidConfiguration
        configuration.servedData aError = .ok (true, aError) ∧
      configuration.servingPlatform.reader.processConfigurationData
        configuration.servedData = .ok configuration :=
  h.read configuration.servedData_nonempty (if_pos rfl) aError

def transporting (ratio : Int) : Configuration where
  abTestingRatio := ratio
  sdkReleaseVersion := 1
  configurationApiURL := "https://e.rev"
  refreshInterval := 60
  staleTimeout := 3600
  edgeHost := "e.rev"
  operationMode := .kRSOperationModeInnerTransportAndReport
  allowedProtocols := ["quic", "standard"]
  initialTransportProtocol := "standard"
  transportMonitoringURL := "https://e.rev"
  statsReportingURL := "https://e.rev"
  statsReportingInterval := 60
  statsReportingMaxRequests := 500
  os := "iOS"
  loggingLevel := "info"

end Configuration

end RevSDK
