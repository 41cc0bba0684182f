import RevSDK.Model.ConfigurationService
import RevSDK.Utils.DocumentReaders

/-!
# The two readers of a configuration

The validator looks at the last element of `configs`, the decoder reads the
first, each with conversions of its own.  `ReadableConfiguration` is the exact
condition under which the decoder makes of an accepted document what the
validator has seen in it.
-/

namespace RevSDK

open RevSDK.Foundation

def operationModeName : RSOperationModeInner → String
  | .kRSOperationModeInnerOff => kOperationModeOffString
  | .kRSOperationModeInnerTransport => kOperationModeTransferString
  | .kRSOperationModeInnerReport => kOperationModeReportString
  | .kRSOperationModeInnerTransportAndReport =>
      kOperationModeTransferReportString

def statsLevelName : RSStatsReportingLevel → String
  | .kRSStatsReportingLevelDebug => "debug"
  | .kRSStatsReportingLevelRelease => "release"

section Statement

variable (platform : ConfigurationPlatform)

/-- The element of `configs` that the validator looks at. -/
def validatedElement (data : Data) : Option (List (String × Json)) :=
  match platform.parse data with
  | some (.object document) =>
      match NSObject.array? (document.lookup kConfigsKey) with
      | some elements => NSObject.dictionary? elements.getLast?
      | none => none
  | _ => none

structure Agrees (members : List (String × Json))
    (configuration : Configuration) : Prop where
  operationMode : NSObject.string? (members.lookup kOperationModeKey) =
    some (operationModeName configuration.operationMode)
  statsReportingLevel :
    NSObject.string? (members.lookup kStatsReportingLevelKey) =
      some (statsLevelName configuration.statsReportingLevel)
  refreshInterval : 0 < configuration.refreshInterval ∧
    NSObject.integerValue? (members.lookup kConfigurationRefreshIntervalKey) =
      some configuration.refreshInterval
  staleTimeout : 0 < configuration.staleTimeout ∧
    NSObject.integerValue? (members.lookup kConfigurationStaleTimeoutKey) =
      some configuration.staleTimeout
  statsReportingInterval : 0 < configuration.statsReportingInterval ∧
    NSObject.integerValue? (members.lookup kStatsReportingIntervalKey) =
      some configuration.statsReportingInterval
  statsReportingMaxRequests : 0 < configuration.statsReportingMaxRequests ∧
    NSObject.intValue? (members.lookup kStatsReportingMaxRequestsKey) =
      some configuration.statsReportingMaxRequests
  allowedProtocols : configuration.allowedProtocols ≠ [] ∧ ∃ elements,
    NSObject.array? (members.lookup kAllowedTransportProtocolsKey) =
      some elements ∧
    elements.mapM (Json.asString platform.realText) =
      .ok configuration.allowedProtocols
  edgeHost : configuration.edgeHost ≠ "" ∧
    NSObject.string? (members.lookup kEdgeHostKey) =
      some configuration.edgeHost
  initialTransportProtocol :
    configuration.initialTransportProtocol ∈ protocolNames ∧
      NSObject.string? (members.lookup kInitialTransportProtocolsKey) =
        some configuration.initialTransportProtocol

def DecodesAsValidated (data : Data) : Prop :=
  ∃ configuration members,
    processConfigurationData platform data = .ok configuration ∧
      validatedElement platform data = some members ∧
        Agrees platform members configuration

/-! ## The condition -/

def comparedTextKeys : List String :=
  [kOperationModeKey, kStatsReportingLevelKey, kEdgeHostKey,
    kInitialTransportProtocolsKey]

def comparedIntegerKeys : List String :=
  [kConfigurationRefreshIntervalKey, kConfigurationStaleTimeoutKey,
    kStatsReportingIntervalKey]

def otherTextKeys : List String :=
  [kConfigurationApiURLKey, kTransportMonitoringURLKey,
    kStatsReportingURLKey, kLoggingLevelKey, kSDKDomain]

def otherIntegerKeys : List String :=
  [kFailuresFailoverThreshold, kFailuresMonitoringInterval, kQuicUDPPort,
    kABTestingOriginOffloadRatioKey]

def otherListKeys : List String :=
  [kDomainsProvisionedListKey, kDomainsWhiteListKey, kDomainsBlackListKey,
    kDomainsInternalBlackListKey]

/-- `first` is what the decoder reads, `last` what the validator looks at. -/
structure Readable (document first last : List (String × Json)) : Prop where
  level : isOneOf statsLevelNames
    (NSObject.string? (last.lookup kStatsReportingLevelKey)) = true
  sameTexts : ∀ key ∈ comparedTextKeys,
    ((field first key).asString platform.realText).toOption =
      NSObject.string? (last.lookup key)
  sameIntegers : ∀ key ∈ comparedIntegerKeys, (field first key).IsInt32 ∧
    NSObject.integerValue? (first.lookup key) =
      NSObject.integerValue? (last.lookup key)
  sameRequests : (field first kStatsReportingMaxRequestsKey).IsInt32 ∧
    NSObject.intValue? (first.lookup kStatsReportingMaxRequestsKey) =
      NSObject.intValue? (last.lookup kStatsReportingMaxRequestsKey)
  sameProtocols : ∃ elements others texts,
    NSObject.array? (last.lookup kAllowedTransportProtocolsKey) =
      some elements ∧
    NSObject.array? (first.lookup kAllowedTransportProtocolsKey) =
      some others ∧
    elements.mapM (Json.asString platform.realText) = .ok texts ∧
    others.mapM (Json.asString platform.realText) = .ok texts
  appName : (field document kAppNameKey).IsScalar
  releaseVersion : (field first kSDKReleaseVersionKey).IsNumeric
  texts : ∀ key ∈ otherTextKeys, (field first key).IsScalar
  integers : ∀ key ∈ otherIntegerKeys, (field first key).IsInt32
  lists : ∀ key ∈ otherListKeys, (field first key).IsTextList

/-- The first and the last element of `configs` read the same. -/
def ReadableConfiguration (data : Data) : Prop :=
  ∃ document elements first last,
    platform.parse data = some (.object document) ∧
      document.lookup kConfigsKey = some (.array elements) ∧
      elements.head? = some (.object first) ∧
      elements.getLast? = some (.object last) ∧
        Readable platform document first last

end Statement

section Proofs

variable {platform : ConfigurationPlatform}

theorem castEnum_operationMode {text : String} {mode : RSOperationModeInner} :
    castEnum operationModes (operationModeNames.idxOf text) = .ok mode ↔
      text = operationModeName mode := by
  constructor
  · intro h
    have hindex := (castEnum_isOk_iff operationModes _).mp ⟨mode, h⟩
    have hmem : text ∈ operationModeNames := List.idxOf_lt_length_iff.mp hindex
    simp only [operationModeNames, List.mem_cons, List.not_mem_nil,
      or_false] at hmem
    rcases hmem with rfl | rfl | rfl | rfl <;>
      · obtain rfl := Except.ok.inj h
        rfl
  · rintro rfl
    cases mode <;> rfl

theorem castEnum_statsLevel {text : String} {level : RSStatsReportingLevel} :
    castEnum statsLevels (statsLevelNames.idxOf text) = .ok level ↔
      text = statsLevelName level := by
  constructor
  · intro h
    have hindex := (castEnum_isOk_iff statsLevels _).mp ⟨level, h⟩
    have hmem : text ∈ statsLevelNames := List.idxOf_lt_length_iff.mp hindex
    simp only [statsLevelNames, List.mem_cons, List.not_mem_nil,
      or_false] at hmem
    rcases hmem with rfl | rfl <;>
      · obtain rfl := Except.ok.inj h
        rfl
  · rintro rfl
    cases level <;> rfl

theorem asInt_field_iff {bits : Nat} (hbits : bits = 32 ∨ bits = 64)
    {members : List (String × Json)} {key : String} {number : Int}
    (hpositive : 0 < number) :
    (field members key).asInt = .ok number ↔ (field members key).IsInt32 ∧
      NSObject.signedValue? bits (members.lookup key) = some number := by
  unfold field
  cases hvalue : members.lookup key with
  | none =>
      simp only [Option.getD_none, Json.asInt, NSObject.signedValue?,
        Except.ok.injEq, reduceCtorEq, and_false, iff_false]
      omega
  | some value =>
      rw [Option.getD_some]
      constructor
      · intro h
        have hnull : value ≠ .null := by
          rintro rfl
          obtain rfl : 0 = number := Except.ok.inj h
          omega
        exact ⟨(Json.asInt_isOk_iff value).mp ⟨number, h⟩,
          NSObject.signedValue?_of_asInt hbits h hnull⟩
      · rintro ⟨hrange, hsigned⟩
        obtain ⟨other, hother⟩ := (Json.asInt_isOk_iff value).mpr hrange
        have hnull : value ≠ .null := by
          rintro rfl
          simp [NSObject.signedValue?] at hsigned
        rw [NSObject.signedValue?_of_asInt hbits hother hnull] at hsigned
        obtain rfl := Option.some.inj hsigned
        exact hother

theorem ValidDocument.validatedElement {data : Data}
    {document last : List (String × Json)} {elements : List Json}
    (h : ValidDocument platform data document elements last) :
    validatedElement platform data = some last := by
  unfold RevSDK.validatedElement
  rw [h.parsed]
  dsimp only
  rw [NSObject.array?_eq_some.mpr h.configs]
  exact NSObject.dictionary?_eq_some.mpr h.last

theorem ValidDocument.processConfigurationData {data : Data}
    {document last : List (String × Json)} {elements : List Json}
    (h : ValidDocument platform data document elements last) {first : Json}
    (hfirst : elements.head? = some first) :
    processConfigurationData platform data =
      decodeConfiguration platform (.object document) first := by
  unfold RevSDK.processConfigurationData
  rw [h.parsed]
  dsimp only
  simp only [Json.member, h.configs, Option.getD_some, Json.element,
    Outcome.ok_bind]
  cases elements with
  | nil => cases hfirst
  | cons element elements =>
      obtain rfl := Option.some.inj hfirst
      rfl

theorem Reads.isObject {value configs : Json} {configuration : Configuration}
    (h : Reads platform value configs configuration) :
    ∃ members, configs = .object members := by
  obtain ⟨text, htext, hmode⟩ := h.operationMode
  cases configs with
  | object members => exact ⟨members, rfl⟩
  | null =>
      obtain rfl : "" = text := Except.ok.inj htext
      rw [castEnum_operationMode] at hmode
      cases hconfigured : configuration.operationMode <;>
        · rw [hconfigured] at hmode
          exact absurd hmode (by decide)
  | _ => cases htext

theorem field_eq_array_iff {members : List (String × Json)} {key : String}
    {elements : List Json} :
    field members key = .array elements ↔
      NSObject.array? (members.lookup key) = some elements := by
  rw [NSObject.array?_eq_some]
  unfold field
  cases members.lookup key <;> simp

theorem toOption_eq_of_ok {text : String} {read : Outcome String}
    {seen : Option String} (hread : read = .ok text) (hseen : seen = some text) :
    read.toOption = seen := by
  rw [hread, hseen]
  rfl

theorem Reads.convertible {document first : List (String × Json)}
    {configuration : Configuration}
    (h : Reads platform (.object document) (.object first) configuration) :
    Convertible (documentKinds platform) document first :=
  ((decodeConfiguration_readsFields configuration).mp
    (decodeConfiguration_eq_ok.mpr h)).convertible documentReaders_take

theorem Reads.readable {document first last : List (String × Json)}
    {configuration : Configuration}
    (h : Reads platform (.object document) (.object first) configuration)
    (hagrees : Agrees platform last configuration) :
    Readable platform document first last where
  level := by
    refine (isOneOf_iff _ _).mpr ⟨_, ?_, hagrees.statsReportingLevel⟩
    cases configuration.statsReportingLevel <;> decide
  sameTexts key hkey := by
    simp only [comparedTextKeys, List.mem_cons, List.not_mem_nil,
      or_false] at hkey
    rcases hkey with rfl | rfl | rfl | rfl
    · obtain ⟨text, htext, hmode⟩ := h.operationMode
      rw [castEnum_operationMode] at hmode
      exact toOption_eq_of_ok htext (hmode ▸ hagrees.operationMode)
    · obtain ⟨text, htext, hlevel⟩ := h.statsReportingLevel
      rw [castEnum_statsLevel] at hlevel
      exact toOption_eq_of_ok htext (hlevel ▸ hagrees.statsReportingLevel)
    · exact toOption_eq_of_ok h.edgeHost hagrees.edgeHost.2
    · exact toOption_eq_of_ok h.initialTransportProtocol
        hagrees.initialTransportProtocol.2
  sameIntegers key hkey := by
    simp only [comparedIntegerKeys, List.mem_cons, List.not_mem_nil,
      or_false] at hkey
    rcases hkey with rfl | rfl | rfl
    · obtain ⟨hpositive, hseen⟩ := hagrees.refreshInterval
      rw [hseen]
      exact (asInt_field_iff (.inr rfl) hpositive).mp h.refreshInterval
    · obtain ⟨hpositive, hseen⟩ := hagrees.staleTimeout
      rw [hseen]
      exact (asInt_field_iff (.inr rfl) hpositive).mp h.staleTimeout
    · obtain ⟨hpositive, hseen⟩ := hagrees.statsReportingInterval
      rw [hseen]
      exact (asInt_field_iff (.inr rfl) hpositive).mp h.statsReportingInterval
  sameRequests := by
    obtain ⟨hpositive, hseen⟩ := hagrees.statsReportingMaxRequests
    rw [hseen]
    exact (asInt_field_iff (.inl rfl) hpositive).mp h.statsReportingMaxRequests
  sameProtocols := by
    obtain ⟨hnonempty, elements, helements, htexts⟩ := hagrees.allowedProtocols
    obtain ⟨others, hothers, hread⟩ :=
      vectorFromValue_nonempty h.allowedProtocols hnonempty
    exact ⟨elements, others, _, helements, field_eq_array_iff.mp hothers, htexts,
      hread⟩
  appName := h.convertible.documentTexts _ (by decide)
  releaseVersion := h.convertible.version
  texts key hkey :=
    have hsubset : otherTextKeys ⊆ elementTextKeys := by decide
    h.convertible.texts key (hsubset hkey)
  integers key hkey := by
    have hsubset :
        otherIntegerKeys ⊆ kFailuresFailoverThreshold :: elementIntegerKeys := by
      decide
    rcases List.mem_cons.mp (hsubset hkey) with rfl | hkey
    · exact h.convertible.threshold
    · exact h.convertible.integers key hkey
  lists key hkey :=
    have hsubset : otherListKeys ⊆ elementListKeys := by decide
    h.convertible.lists key (hsubset hkey)

theorem Readable.seenText {document first last : List (String × Json)}
    (h : Readable platform document first last) {key text : String}
    (hkey : key ∈ comparedTextKeys) :
    readString platform (.object first) key = .ok text ↔
      NSObject.string? (last.lookup key) = some text := by
  rw [← h.sameTexts key hkey, Outcome.toOption_eq_some]
  rfl

theorem Readable.seenInteger {document first last : List (String × Json)}
    (h : Readable platform document first last) {key : String} {number : Int}
    (hkey : key ∈ comparedIntegerKeys)
    (hread : readInt (.object first) key = .ok number)
    (hvalid : ∃ value, NSObject.integerValue? (last.lookup key) = some value ∧
      0 < value) :
    0 < number ∧
      NSObject.integerValue? (last.lookup key) = some number := by
  obtain ⟨value, hvalue, hpositive⟩ := hvalid
  obtain ⟨hrange, hsame⟩ := h.sameIntegers key hkey
  have hequal : (field first key).asInt = .ok value :=
    (asInt_field_iff (.inr rfl) hpositive).mpr ⟨hrange, hsame.trans hvalue⟩
  obtain rfl : number = value := Except.ok.inj (hread.symm.trans hequal)
  exact ⟨hpositive, hvalue⟩

theorem Readable.agrees {document first last : List (String × Json)}
    {configuration : Configuration}
    (h : Readable platform document first last)
    (hvalid : ValidElement platform last)
    (hreads : Reads platform (.object document) (.object first)
      configuration) :
    Agrees platform last configuration where
  operationMode := by
    obtain ⟨text, htext, hmode⟩ := hreads.operationMode
    rw [← castEnum_operationMode.mp hmode]
    exact (h.seenText (by decide)).mp htext
  statsReportingLevel := by
    obtain ⟨text, htext, hlevel⟩ := hreads.statsReportingLevel
    rw [← castEnum_statsLevel.mp hlevel]
    exact (h.seenText (by decide)).mp htext
  refreshInterval :=
    h.seenInteger (by decide) hreads.refreshInterval hvalid.refreshInterval
  staleTimeout :=
    h.seenInteger (by decide) hreads.staleTimeout hvalid.staleTimeout
  statsReportingInterval :=
    h.seenInteger (by decide) hreads.statsReportingInterval
      hvalid.statsReportingInterval
  statsReportingMaxRequests := by
    obtain ⟨value, hvalue, hpositive⟩ := hvalid.maxRequests
    obtain ⟨hrange, hsame⟩ := h.sameRequests
    have hequal :
        readInt (.object first) kStatsReportingMaxRequestsKey = .ok value :=
      (asInt_field_iff (.inl rfl) hpositive).mpr ⟨hrange, hsame.trans hvalue⟩
    rw [hreads.statsReportingMaxRequests] at hequal
    rw [Except.ok.inj hequal]
    exact ⟨hpositive, hvalue⟩
  allowedProtocols := by
    obtain ⟨elements, others, texts, helements, hothers, htexts, hread⟩ :=
      h.sameProtocols
    have hequal := hreads.allowedProtocols
    rw [readVector_object, field_eq_array_iff.mpr hothers,
      vectorFromValue_array, hread] at hequal
    obtain rfl := Except.ok.inj hequal
    refine ⟨?_, elements, helements, htexts⟩
    rintro hempty
    obtain ⟨_, hallowed, hnonempty⟩ := hvalid.allowedTransportProtocols
    obtain rfl : elements = _ := Option.some.inj (helements.symm.trans hallowed)
    have hlength := Outcome.length_of_mapM htexts
    rw [hempty] at hlength
    exact hnonempty (List.eq_nil_of_length_eq_zero hlength.symm)
  edgeHost := by
    obtain ⟨host, hhost, hnonempty⟩ := hvalid.edgeHost
    have hseen := (h.seenText (by decide)).mp hreads.edgeHost
    obtain rfl := Option.some.inj (hhost.symm.trans hseen)
    exact ⟨hnonempty, hseen⟩
  initialTransportProtocol := by
    obtain ⟨name, hname, hprotocol⟩ := hvalid.initialTransportProtocol
    have hseen := (h.seenText (by decide)).mp hreads.initialTransportProtocol
    obtain rfl := Option.some.inj (hprotocol.symm.trans hseen)
    exact ⟨hname, hseen⟩

theorem Readable.convertible {document first last : List (String × Json)}
    (h : Readable platform document first last)
    (hvalid : ValidElement platform last)
    (hos : document.lookup kOSKey = some (.string "iOS")) :
    Convertible (documentKinds platform) document first where
  documentTexts key hkey := by
    simp only [documentTextKeys, List.mem_cons, List.not_mem_nil,
      or_false] at hkey
    rcases hkey with rfl | rfl
    · change ((document.lookup kOSKey).getD .null).IsScalar
      rw [hos]
      trivial
    · exact h.appName
  texts key hkey := by
    simp only [elementTextKeys, List.mem_cons, List.not_mem_nil,
      or_false] at hkey
    obtain ⟨host, hhost, -⟩ := hvalid.edgeHost
    obtain ⟨protocol, -, hprotocol⟩ := hvalid.initialTransportProtocol
    rcases hkey with rfl | rfl | rfl | rfl | rfl | rfl | rfl
    · exact h.texts _ (by decide)
    · exact (Json.asString_isOk_iff platform.realText _).mp
        ⟨host, (h.seenText (by decide)).mpr hhost⟩
    · exact (Json.asString_isOk_iff platform.realText _).mp
        ⟨protocol, (h.seenText (by decide)).mpr hprotocol⟩
    · exact h.texts _ (by decide)
    · exact h.texts _ (by decide)
    · exact h.texts _ (by decide)
    · exact h.texts _ (by decide)
  integers key hkey := by
    simp only [elementIntegerKeys, List.mem_cons, List.not_mem_nil,
      or_false] at hkey
    rcases hkey with rfl | rfl | rfl | rfl | rfl | rfl | rfl
    · exact (h.sameIntegers _ (by decide)).1
    · exact (h.sameIntegers _ (by decide)).1
    · exact (h.sameIntegers _ (by decide)).1
    · exact h.sameRequests.1
    · exact h.integers _ (by decide)
    · exact h.integers _ (by decide)
    · exact h.integers _ (by decide)
  lists key hkey := by
    simp only [elementListKeys, List.mem_cons, List.not_mem_nil,
      or_false] at hkey
    rcases hkey with rfl | rfl | rfl | rfl | rfl
    · obtain ⟨_, others, texts, -, hothers, -, hallowed⟩ := h.sameProtocols
      have hfield := field_eq_array_iff.mpr hothers
      apply (@vectorFromValue_isOk_iff platform (field first _)).mp
      rw [hfield, vectorFromValue_array]
      exact ⟨texts, hallowed⟩
    · exact h.lists _ (by decide)
    · exact h.lists _ (by decide)
    · exact h.lists _ (by decide)
    · exact h.lists _ (by decide)
  version := h.releaseVersion
  threshold := h.integers _ (by decide)
  flag := trivial
  operationMode := by
    obtain ⟨mode, hmodes, hmode⟩ := hvalid.operationMode
    exact ⟨mode, hmodes, (h.seenText (by decide)).mpr hmode⟩
  statsLevel := by
    obtain ⟨level, hlevels, hlevel⟩ := (isOneOf_iff _ _).mp h.level
    exact ⟨level, hlevels, (h.seenText (by decide)).mpr hlevel⟩

theorem Readable.decodes {document first last : List (String × Json)}
    (h : Readable platform document first last)
    (hvalid : ValidElement platform last)
    (hos : document.lookup kOSKey = some (.string "iOS")) :
    ∃ configuration,
      Reads platform (.object document) (.object first) configuration := by
  obtain ⟨configuration, hreads⟩ :=
    (h.convertible hvalid hos).readsFields documentReaders_take
  exact ⟨configuration, decodeConfiguration_eq_ok.mp
    ((decodeConfiguration_readsFields configuration).mpr hreads)⟩

theorem DecodesAsValidated.readable {data : Data}
    {document last : List (String × Json)} {elements : List Json}
    (hdocument : ValidDocument platform data document elements last)
    (h : DecodesAsValidated platform data) :
    ReadableConfiguration platform data := by
  obtain ⟨configuration, members, hdecoded, hvalidated, hagrees⟩ := h
  rw [hdocument.validatedElement] at hvalidated
  obtain rfl := Option.some.inj hvalidated
  obtain ⟨element, helement⟩ : ∃ element, elements.head? = some element := by
    cases elements with
    | nil => cases hdocument.last
    | cons element elements => exact ⟨element, rfl⟩
  rw [hdocument.processConfigurationData helement,
    decodeConfiguration_eq_ok] at hdecoded
  obtain ⟨first, rfl⟩ := hdecoded.isObject
  exact ⟨document, elements, first, last, hdocument.parsed,
    hdocument.configs, helement, hdocument.last, hdecoded.readable hagrees⟩

theorem ReadableConfiguration.decodesAsValidated {data : Data}
    {document last : List (String × Json)} {elements : List Json}
    (hdocument : ValidDocument platform data document elements last)
    (h : ReadableConfiguration platform data) :
    DecodesAsValidated platform data := by
  obtain ⟨_, _, first, _, hparsed, hconfigs, hfirst, hlast, hreadable⟩ := h
  obtain rfl : document = _ := by
    simpa [hdocument.parsed] using hparsed
  obtain rfl : elements = _ := by
    simpa [hdocument.configs] using hconfigs
  obtain rfl : last = _ := by
    simpa [hdocument.last] using hlast
  obtain ⟨configuration, hreads⟩ :=
    hreadable.decodes hdocument.valid hdocument.os
  refine ⟨configuration, last, ?_, hdocument.validatedElement,
    hreadable.agrees hdocument.valid hreads⟩
  rw [hdocument.processConfigurationData hfirst]
  exact decodeConfiguration_eq_ok.mpr hreads

end Proofs

theorem decodesAsValidated_iff_readable (platform : ConfigurationPlatform)
    {data : Data} {aError error : Error}
    (h : _isValidConfiguration platform data aError = .ok (true, error)) :
    DecodesAsValidated platform data ↔ ReadableConfiguration platform data := by
  obtain ⟨document, elements, last, hdocument⟩ := _isValidConfiguration_true h
  exact ⟨DecodesAsValidated.readable hdocument,
    ReadableConfiguration.decodesAsValidated hdocument⟩

/-! ## The completion block of a load -/

def ConfigurationPlatform.reader (platform : ConfigurationPlatform) :
    ConfigurationReader where
  isValidConfiguration := _isValidConfiguration platform
  processConfigurationData := processConfigurationData platform

theorem completionBlock_readable (platform : ConfigurationPlatform)
    (leftover : List String → Nat → String) (state : ModelState) {data : Data}
    {error : Error} (roll : Int) (session : QUICEndpoint)
    (h : _isValidConfiguration platform data {} = .ok (true, error))
    (hreadable : ReadableConfiguration platform data) :
    ∃ configuration members, validatedElement platform data = some members ∧
      Agrees platform members configuration ∧
      state.completionBlock leftover platform.reader data true roll session =
        .ok (state.configurationReceived leftover configuration roll
          session) := by
  obtain ⟨document, elements, last, hdocument⟩ := _isValidConfiguration_true h
  obtain ⟨configuration, members, hdecoded, hvalidated, hagrees⟩ :=
    hreadable.decodesAsValidated hdocument
  refine ⟨configuration, members, hvalidated, hagrees, ?_⟩
  simp only [ModelState.completionBlock, ConfigurationPlatform.reader, h,
    hdecoded, Outcome.ok_bind, if_true]
  rfl

/-! ## A document with one element -/

def sampleElement (level : String) : List (String × Json) :=
  [(kOperationModeKey, .string "off"),
    (kStatsReportingLevelKey, .string level),
    (kEdgeHostKey, .string "e.rev"),
    (kAllowedTransportProtocolsKey, .array [.string "quic"]),
    (kInitialTransportProtocolsKey, .string "quic"),
    (kConfigurationApiURLKey, .string "https://e.rev"),
    (kStatsReportingURLKey, .string "https://e.rev"),
    (kTransportMonitoringURLKey, .string "https://e.rev"),
    (kConfigurationRefreshIntervalKey, .int 60),
    (kConfigurationStaleTimeoutKey, .int 90),
    (kStatsReportingIntervalKey, .int 30),
    (kStatsReportingMaxRequestsKey, .int 5),
    (kDomainsBlackListKey, .array []),
    (kDomainsProvisionedListKey, .array []),
    (kLoggingLevelKey, .string "info"),
    (kSDKReleaseVersionKey, .int 1)]

def sampleDocument (level : String) : List (String × Json) :=
  [(kOSKey, .string "iOS"),
    (kConfigsKey, .array [.object (sampleElement level)])]

def sampleText (level : String) : String :=
  "\x7b" ++ ("\"os\":\"iOS\",\"configs\":[\x7b\"operation_mode\":\"off\"," ++
  "\"stats_reporting_level\":\"" ++ level ++ "\",\"edge_host\":\"e.rev\"," ++
  "\"allowed_transport_protocols\":[\"quic\"]," ++
  "\"initial_transport_protocol\":\"quic\"," ++
  "\"configuration_api_url\":\"https://e.rev\"," ++
  "\"stats_reporting_url\":\"https://e.rev\"," ++
  "\"transport_monitoring_url\":\"https://e.rev\"," ++
  "\"configuration_refresh_interval_sec\":60," ++
  "\"configuration_stale_timeout_sec\":90," ++
  "\"stats_reporting_interval_sec\":30," ++
  "\"stats_reporting_max_requests_per_report\":5," ++
  "\"domains_black_list\":[],\"domains_provisioned_list\":[]," ++
  "\"logging_level\":\"info\",\"sdk_release_version\":1\x7d]\x7d")

def sampleData (level : String) : Data :=
  ⟨(sampleText level).toList.map fun c => UInt8.ofNat c.toNat⟩

def samplePlatform (level : String) : ConfigurationPlatform where
  parse data := if data = sampleData level then
    some (.object (sampleDocument level)) else none
  urlWithString text := if text = "https://e.rev" then
    some ⟨some "https", some "e.rev"⟩ else none
  description _ := ""
  realText value := toString value.num
  toFloat value := value

theorem samplePlatform_parse (level : String) :
    (samplePlatform level).parse (sampleData level) =
      some (.object (sampleDocument level)) := by
  simp only [samplePlatform, if_true]

theorem sampleElement_valid {level : String} (hlevel : level ≠ "") :
    ValidElement (samplePlatform level) (sampleElement level) where
  allowedTransportProtocols := ⟨_, rfl, by simp⟩
  configurationApiURL := rfl
  refreshInterval := ⟨60, rfl, by decide⟩
  staleTimeout := ⟨90, rfl, by decide⟩
  blackList := rfl
  provisionedList := rfl
  edgeHost := ⟨_, rfl, by decide⟩
  initialTransportProtocol := ⟨"quic", by decide, rfl⟩
  loggingLevel := ⟨"info", by decide, rfl⟩
  operationMode := ⟨"off", by decide, rfl⟩
  releaseVersion := rfl
  statsReportingInterval := ⟨30, rfl, by decide⟩
  statsReportingLevel := ⟨level, rfl, hlevel⟩
  maxRequests := ⟨5, rfl, by decide⟩
  statsReportingURL := rfl
  transportMonitoringURL := rfl

theorem sampleDocument_valid (level : String) (hlevel : level ≠ "") :
    ValidDocument (samplePlatform level) (sampleData level)
      (sampleDocument level) [.object (sampleElement level)]
      (sampleElement level) where
  parsed := samplePlatform_parse level
  os := rfl
  configs := rfl
  last := rfl
  valid := sampleElement_valid hlevel

theorem sampleData_nonempty (level : String) :
    (sampleData level).isEmpty = false := by
  unfold sampleData sampleText Data.isEmpty
  have hbrace : "\x7b".toList = ['\x7b'] := rfl
  rw [String.toList_append, hbrace]
  rfl

/-- The level is only asked not to be empty. -/
theorem accepted_unknown_level :
    _isValidConfiguration (samplePlatform "info") (sampleData "info") {} =
        .ok (true, {}) ∧
      ¬DecodesAsValidated (samplePlatform "info") (sampleData "info") := by
  have hvalid := sampleDocument_valid "info" (by decide)
  refine ⟨hvalid.accepted (sampleData_nonempty "info"), ?_⟩
  rintro ⟨configuration, members, hdecoded, -⟩
  rw [hvalid.processConfigurationData rfl] at hdecoded
  cases hdecoded

theorem sampleElement_readable :
    Readable (samplePlatform "debug") (sampleDocument "debug")
      (sampleElement "debug") (sampleElement "debug") where
  level := by decide
  sameTexts := by decide
  sameIntegers := by decide
  sameRequests := by decide
  sameProtocols := ⟨_, _, _, rfl, rfl, rfl, rfl⟩
  appName := by decide
  releaseVersion := by decide
  texts := by decide
  integers := by decide
  lists := by decide

theorem decodesAsValidated_debug :
    _isValidConfiguration (samplePlatform "debug") (sampleData "debug") {} =
        .ok (true, {}) ∧
      DecodesAsValidated (samplePlatform "debug") (sampleData "debug") := by
  have hvalid := sampleDocument_valid "debug" (by decide)
  have haccepted : _isValidConfiguration (samplePlatform "debug")
      (sampleData "debug") {} = .ok (true, {}) :=
    hvalid.accepted (sampleData_nonempty "debug")
  refine ⟨haccepted, ?_⟩
  exact (decodesAsValidated_iff_readable _ haccepted).mpr
    ⟨_, _, _, _, hvalid.parsed, hvalid.configs, rfl, hvalid.last,
      sampleElement_readable⟩

end RevSDK
