import RevSDK.Utils.ConfigurationFields

/-!
# The conversions of the document decoder

`decodeConfiguration` reads every setting from its key with the conversions of
`Json::Value`, and it succeeds exactly if each value is of the kind it takes.
-/

namespace RevSDK

open RevSDK.Foundation

section Document

variable (platform : ConfigurationPlatform)

/-- The conversions of `Json::Value`, which has a null for a missing key. -/
def documentReaders : FieldReaders where
  text object := (object.getD .null).asString platform.realText
  integer object := (object.getD .null).asInt
  version object := (object.getD .null).asFloat platform.toFloat
  threshold object := do
    let percent ← (object.getD .null).asInt
    return platform.toFloat (platform.toFloat percent / 100)
  list object := vectorFromValue platform (object.getD .null)
  flag _ := .ok false
  operationMode object := do
    let text ← (object.getD .null).asString platform.realText
    castEnum operationModes (operationModeNames.idxOf text)
  statsLevel object := do
    let text ← (object.getD .null).asString platform.realText
    castEnum statsLevels (statsLevelNames.idxOf text)

def documentKinds : FieldKinds where
  text object := (object.getD .null).IsScalar
  integer object := (object.getD .null).IsInt32
  version object := (object.getD .null).IsNumeric
  threshold object := (object.getD .null).IsInt32
  list object := (object.getD .null).IsTextList
  flag _ := True
  operationMode object := ∃ name ∈ operationModeNames,
    (object.getD .null).asString platform.realText = .ok name
  statsLevel object := ∃ name ∈ statsLevelNames,
    (object.getD .null).asString platform.realText = .ok name

end Document

section DocumentProofs

variable {platform : ConfigurationPlatform}
  {document first : List (String × Json)}

theorem readEnum_isOk_iff {α : Type} {enumerators : List α}
    {names : List String} (hlength : enumerators.length = names.length)
    (read : Outcome String) :
    (∃ value, (do
      let text ← read
      castEnum enumerators (names.idxOf text)) = .ok value) ↔
      ∃ name ∈ names, read = .ok name := by
  cases read with
  | error fault => simp
  | ok text =>
      rw [Outcome.ok_bind, castEnum_isOk_iff, hlength,
        List.idxOf_lt_length_iff]
      simp

theorem documentReaders_take :
    (documentReaders platform).Take (documentKinds platform) where
  text object := Json.asString_isOk_iff _ _
  integer object := Json.asInt_isOk_iff _
  version object := Json.asFloat_isOk_iff _ _
  threshold object := by
    refine Iff.trans ?_ (Json.asInt_isOk_iff (object.getD .null))
    unfold documentReaders
    dsimp only
    cases (object.getD .null).asInt with
    | error fault => simp
    | ok percent => simp [pure, Except.pure]
  list object := vectorFromValue_isOk_iff _
  flag object := iff_of_true ⟨false, rfl⟩ trivial
  operationMode object :=
    @readEnum_isOk_iff _ operationModes operationModeNames rfl _
  statsLevel object := @readEnum_isOk_iff _ statsLevels statsLevelNames rfl _

theorem decodeConfiguration_readsFields (configuration : Configuration) :
    decodeConfiguration platform (.object document) (.object first) =
        .ok configuration ↔
      ReadsFields (documentReaders platform) document first configuration := by
  rw [decodeConfiguration_eq_ok]
  constructor
  · intro h
    obtain ⟨percent, hpercent, hthreshold⟩ := h.failuresFailoverThreshold
    refine ⟨⟨h.os, h.appName, h.sdkReleaseVersion, h.configurationApiURL,
      h.refreshInterval, h.staleTimeout, h.edgeHost,
      (Outcome.bind_eq_ok _ _ _).mpr h.operationMode, h.allowedProtocols,
      h.initialTransportProtocol, h.transportMonitoringURL,
      h.statsReportingURL, h.statsReportingInterval,
      (Outcome.bind_eq_ok _ _ _).mpr h.statsReportingLevel,
      h.statsReportingMaxRequests, h.domainsProvisionedList,
      h.domainsWhiteList, h.domainsBlackList, h.loggingLevel,
      congrArg Except.ok h.abTesMode.symm⟩,
      ⟨h.SDKDomain, h.quicUDPPort, h.failuresMonitoringInterval, ?_,
      h.abTestingRatio, h.domainsInternalBlackList⟩⟩
    exact (Outcome.bind_eq_ok _ _ _).mpr
      ⟨percent, hpercent, congrArg Except.ok hthreshold.symm⟩
  · rintro ⟨hrequired, hoptional⟩
    obtain ⟨percent, hpercent, hthreshold⟩ :=
      (Outcome.bind_eq_ok _ _ _).mp hoptional.failuresFailoverThreshold
    exact
      { operationMode := (Outcome.bind_eq_ok _ _ _).mp hrequired.operationMode
        statsReportingLevel :=
          (Outcome.bind_eq_ok _ _ _).mp hrequired.statsReportingLevel
        appName := hrequired.appName
        os := hrequired.os
        sdkReleaseVersion := hrequired.sdkReleaseVersion
        configurationApiURL := hrequired.configurationApiURL
        refreshInterval := hrequired.refreshInterval
        staleTimeout := hrequired.staleTimeout
        edgeHost := hrequired.edgeHost
        allowedProtocols := hrequired.allowedProtocols
        initialTransportProtocol := hrequired.initialTransportProtocol
        transportMonitoringURL := hrequired.transportMonitoringURL
        statsReportingURL := hrequired.statsReportingURL
        statsReportingInterval := hrequired.statsReportingInterval
        statsReportingMaxRequests := hrequired.statsReportingMaxRequests
        domainsProvisionedList := hrequired.domainsProvisionedList
        domainsWhiteList := hrequired.domainsWhiteList
        domainsBlackList := hrequired.domainsBlackList
        domainsInternalBlackList := hoptional.domainsInternalBlackList
        loggingLevel := hrequired.loggingLevel
        failuresFailoverThreshold :=
          ⟨percent, hpercent, (Except.ok.inj hthreshold).symm⟩
        failuresMonitoringInterval := hoptional.failuresMonitoringInterval
        quicUDPPort := hoptional.quicUDPPort
        SDKDomain := hoptional.SDKDomain
        abTestingRatio := hoptional.abTestingRatio
        abTesMode := (Except.ok.inj hrequired.abTesMode).symm }

end DocumentProofs

end RevSDK
