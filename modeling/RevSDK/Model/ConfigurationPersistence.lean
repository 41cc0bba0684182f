import RevSDK.DataStorage.ConfigurationFile
import RevSDK.Model.Recovery
import Mathlib.Data.List.TakeWhile

/-!
# Persistence of the configuration

What `saveConfiguration` writes `configuration` reads back, field by field, so
the stored configuration of the model is the content of the file.
-/

namespace RevSDK

open RevSDK.Foundation

def NulFree (text : String) : Prop := '\x00' ∉ text.toList

instance (text : String) : Decidable (NulFree text) :=
  inferInstanceAs (Decidable (_ ∉ _))

def IsInt (value : Int) : Prop := Json.minInt ≤ value ∧ value ≤ Json.maxInt

instance (value : Int) : Decidable (IsInt value) :=
  inferInstanceAs (Decidable (_ ∧ _))

/--
The members hold values of their types: `int`, `float` or `double`, and texts
without NUL.
-/
structure Configuration.Representable (conversions : NumberConversions)
    (configuration : Configuration) : Prop where
  texts : ∀ text ∈ [configuration.os, configuration.appName,
    configuration.configurationApiURL, configuration.edgeHost,
    configuration.initialTransportProtocol,
    configuration.transportMonitoringURL, configuration.statsReportingURL,
    configuration.loggingLevel, configuration.SDKDomain], NulFree text
  lists : ∀ list ∈ [configuration.allowedProtocols,
    configuration.domainsProvisionedList, configuration.domainsWhiteList,
    configuration.domainsBlackList, configuration.domainsInternalBlackList],
    ∀ text ∈ list, NulFree text
  integers : ∀ value ∈ [configuration.refreshInterval,
    configuration.staleTimeout, configuration.statsReportingInterval,
    configuration.statsReportingMaxRequests, configuration.abTestingRatio,
    configuration.failuresMonitoringInterval, configuration.quicUDPPort],
    IsInt value
  sdkReleaseVersion : conversions.toFloat configuration.sdkReleaseVersion =
    configuration.sdkReleaseVersion
  failuresFailoverThreshold :
    conversions.toDouble configuration.failuresFailoverThreshold =
      configuration.failuresFailoverThreshold

/-! ## The conversions of the fields -/

theorem cString_of_nulFree {text : String} (h : NulFree text) :
    cString text = text := by
  have hkept : text.toList.takeWhile (fun c => c != '\x00') = text.toList := by
    rw [List.takeWhile_eq_self_iff]
    intro c hc
    have hne : c ≠ '\x00' := by
      rintro rfl
      exact h hc
    simpa using hne
  rw [cString, hkept, String.ofList_toList]

theorem stdString_of_nulFree {text : String} (h : NulFree text) :
    stdStringFromNSString (some (NSStringFromStdString text)) = .ok text := by
  unfold NSStringFromStdString stdStringFromNSString
  dsimp only
  rw [cString_of_nulFree h, cString_of_nulFree h]

theorem vectorFromNSArray_of_nulFree {texts : List String}
    (h : ∀ text ∈ texts, NulFree text) :
    vectorFromNSArray (some (NSArrayFromVector texts)) = .ok texts := by
  unfold vectorFromNSArray NSArrayFromVector
  dsimp only
  induction texts with
  | nil => rfl
  | cons text texts ih =>
      obtain ⟨htext, htexts⟩ := List.forall_mem_cons.mp h
      rw [List.map_cons, List.mapM_cons, stdString_of_nulFree htext, ih htexts]
      rfl

theorem intValue_of_isInt {value : Int} (h : IsInt value) :
    NSObject.intValue (some (.int value)) = .ok value := by
  have hvalue : (Json.int value).asInt = .ok value := by
    obtain ⟨hlow, hhigh⟩ := h
    unfold Json.asInt
    dsimp only
    rw [if_neg (by omega), if_neg (by omega)]
  unfold NSObject.intValue NSObject.intValue?
  rw [NSObject.signedValue?_of_asInt (.inl rfl) hvalue (by simp)]
  rfl

theorem integerValue_enumNumber {α : Type} [DecidableEq α]
    {enumerators : List α} {value : α} (hsmall : enumerators.length ≤ 16) :
    NSObject.integerValue (some (enumNumber enumerators value)) =
      .ok (enumerators.idxOf value) := by
  have hle : enumerators.idxOf value ≤ enumerators.length :=
    List.idxOf_le_length
  have hwrap : NSObject.wrap 64 (enumerators.idxOf value : Nat) =
      (enumerators.idxOf value : Nat) := by
    unfold NSObject.wrap Int.bmod
    dsimp only
    omega
  unfold NSObject.integerValue NSObject.integerValue? enumNumber
    NSObject.signedValue?
  dsimp only
  rw [hwrap]
  rfl

theorem castNumber_idxOf {α : Type} [DecidableEq α] {enumerators : List α}
    {value : α} (hmem : value ∈ enumerators) :
    castNumber enumerators (enumerators.idxOf value : Nat) = .ok value := by
  have hfound : enumerators[enumerators.idxOf value]? = some value :=
    List.getElem?_idxOf hmem
  unfold castNumber castEnum
  rw [if_neg (by omega), Int.toNat_natCast, hfound]

section Decoding

variable {conversions : NumberConversions} {configuration : Configuration}

theorem configurationFromNSDictionary_encoded
    (h : configuration.Representable conversions) :
    configurationFromNSDictionary conversions
      (NSDictionaryFromConfiguration configuration) = .ok configuration := by
  have htexts := h.texts
  have hlists := h.lists
  have hintegers := h.integers
  simp only [List.forall_mem_cons, List.not_mem_nil, IsEmpty.forall_iff,
    implies_true, and_true] at htexts hlists hintegers
  obtain ⟨hos, happName, hapi, hedge, hprotocol, hmonitoring, hstats, hlogging,
    hdomain⟩ := htexts
  obtain ⟨hallowed, hprovisioned, hwhite, hblack, hinternal⟩ := hlists
  obtain ⟨hrefresh, hstale, hinterval, hrequests, hratio, hfailures, hport⟩ :=
    hintegers
  have hmode : configuration.operationMode ∈ operationModes := by
    cases configuration.operationMode <;> decide
  have hlevel : configuration.statsReportingLevel ∈ statsLevels := by
    cases configuration.statsReportingLevel <;> decide
  have htext {key text : String} (hkey : (NSDictionaryFromConfiguration
      configuration).lookup key = some (NSStringFromStdString text))
      (htext : NulFree text) :
      stdStringFromNSString ((NSDictionaryFromConfiguration
        configuration).lookup key) = .ok text := by
    rw [hkey, stdString_of_nulFree htext]
  have hlist {key : String} {texts : List String}
      (hkey : (NSDictionaryFromConfiguration configuration).lookup key =
        some (NSArrayFromVector texts))
      (htexts : ∀ text ∈ texts, NulFree text) :
      vectorFromNSArray ((NSDictionaryFromConfiguration
        configuration).lookup key) = .ok texts := by
    rw [hkey, vectorFromNSArray_of_nulFree htexts]
  have hinteger {key : String} {value : Int}
      (hkey : (NSDictionaryFromConfiguration configuration).lookup key =
        some (.int value)) (hvalue : IsInt value) :
      NSObject.intValue ((NSDictionaryFromConfiguration
        configuration).lookup key) = .ok value := by
    rw [hkey, intValue_of_isInt hvalue]
  have hfloat : NSObject.floatValue conversions
      ((NSDictionaryFromConfiguration configuration).lookup
        kSDKReleaseVersionKey) = .ok configuration.sdkReleaseVersion :=
    congrArg Except.ok h.sdkReleaseVersion
  have hdouble : NSObject.doubleValue conversions
      ((NSDictionaryFromConfiguration configuration).lookup
        kFailuresFailoverThreshold) =
          .ok configuration.failuresFailoverThreshold :=
    congrArg Except.ok h.failuresFailoverThreshold
  have hbool : NSObject.boolValue ((NSDictionaryFromConfiguration
      configuration).lookup kRSJKeyABMode) = .ok configuration.abTesMode := rfl
  have hmodeNumber : NSObject.integerValue ((NSDictionaryFromConfiguration
      configuration).lookup kOperationModeKey) =
        .ok (operationModes.idxOf configuration.operationMode) :=
    integerValue_enumNumber (by decide)
  have hlevelNumber : NSObject.intValue ((NSDictionaryFromConfiguration
      configuration).lookup kStatsReportingLevelKey) =
        .ok (statsLevels.idxOf configuration.statsReportingLevel) := by
    have hsmall : statsLevels.idxOf configuration.statsReportingLevel < 2 :=
      List.idxOf_lt_length_of_mem hlevel
    apply intValue_of_isInt
    unfold IsInt Json.minInt Json.maxInt
    omega
  unfold configurationFromNSDictionary
  dsimp only
  rw [htext rfl hos, htext rfl happName, hfloat, htext rfl hapi,
    hinteger rfl hrefresh, hinteger rfl hstale, htext rfl hedge, hmodeNumber]
  simp only [Outcome.ok_bind, castNumber_idxOf hmode]
  rw [hlist rfl hallowed, htext rfl hprotocol, htext rfl hmonitoring,
    htext rfl hstats, hinteger rfl hinterval, hlevelNumber]
  simp only [Outcome.ok_bind, castNumber_idxOf hlevel]
  rw [hinteger rfl hrequests, hlist rfl hprovisioned, hlist rfl hwhite,
    hlist rfl hblack, hlist rfl hinternal, htext rfl hlogging, hbool,
    hinteger rfl hratio, hdouble, hinteger rfl hfailures, hinteger rfl hport,
    htext rfl hdomain]
  rfl

@[simp] theorem Configuration.copy_eq (configuration : Configuration) :
    configuration.copy = configuration := rfl

theorem DataStorage.configuration_saveConfiguration
    (h : configuration.Representable conversions) (file : ConfigurationFile) :
    DataStorage.configuration conversions
      (DataStorage.saveConfiguration file configuration) =
        .ok configuration := by
  unfold DataStorage.configuration DataStorage.saveConfiguration
  rw [Option.getD_some, configurationFromNSDictionary_encoded h,
    Outcome.ok_bind, Configuration.copy_eq]
  rfl

end Decoding

/-! ## The service with its file -/

structure StoredService where
  state : ModelState
  file : ConfigurationFile

namespace StoredService

variable (leftover : List String → Nat → String)
  {conversions : NumberConversions} {service : StoredService}

def stopUpdate (service : StoredService) : StoredService where
  state := service.state.stopUpdate
  file := DataStorage.saveConfiguration service.file
    service.state.mActiveConfiguration

def resumeUpdate (conversions : NumberConversions) (service : StoredService) :
    Outcome StoredService := do
  let configuration ← DataStorage.configuration conversions service.file
  let state :=
    { service.state with mActiveConfiguration := configuration.copy }
  let (active, state) := state.getActive
  return { service with
    state := (state.applyConfiguration leftover active).scheduleStatsReporting }

/-- The stored configuration of the state is the content of the file. -/
def Stores (conversions : NumberConversions) (service : StoredService) : Prop :=
  DataStorage.configuration conversions service.file =
    .ok service.state.configuration

theorem stopUpdate_stores
    (h : service.state.mActiveConfiguration.Representable conversions) :
    service.stopUpdate.Stores conversions :=
  DataStorage.configuration_saveConfiguration h service.file

theorem resumeUpdate_of_stores (h : service.Stores conversions) :
    service.resumeUpdate leftover conversions =
      .ok { service with state := service.state.resumeUpdate leftover } := by
  unfold resumeUpdate
  rw [h, Outcome.ok_bind]
  rfl

end StoredService

namespace ModelState

variable (leftover : List String → Nat → String)

@[simp] theorem getActive_mActiveConfiguration (state : ModelState) :
    state.getActive.2.mActiveConfiguration = state.mActiveConfiguration := by
  rw [getActive_frame]

@[simp] theorem applyConfiguration_mActiveConfiguration (state : ModelState)
    (aConfiguration : Configuration) :
    (state.applyConfiguration leftover aConfiguration).mActiveConfiguration =
      state.mActiveConfiguration := rfl

@[simp] theorem scheduleStatsReporting_mActiveConfiguration
    (state : ModelState) :
    state.scheduleStatsReporting.mActiveConfiguration =
      state.mActiveConfiguration := by
  rw [scheduleStatsReporting_frame]

@[simp] theorem resumeUpdate_mActiveConfiguration (state : ModelState) :
    (state.resumeUpdate leftover).mActiveConfiguration =
      state.configuration := by
  simp [resumeUpdate]

end ModelState

namespace StoredService

variable (leftover : List String → Nat → String)
  {conversions : NumberConversions}

/--
A representable configuration is read back from any file it was written to, is
equal to its copy, and is loaded again when a service that had it loaded stops
and resumes.
-/
theorem configuration_survives {configuration : Configuration}
    (h : configuration.Representable conversions) :
    (∀ file, DataStorage.configuration conversions
      (DataStorage.saveConfiguration file configuration) =
        .ok configuration) ∧
      configuration.copy = configuration ∧
      ∀ service : StoredService,
        service.state.mActiveConfiguration = configuration →
          ∃ service', service.stopUpdate.resumeUpdate leftover conversions =
              .ok service' ∧
            service'.state.mActiveConfiguration = configuration := by
  refine ⟨DataStorage.configuration_saveConfiguration h, rfl, ?_⟩
  rintro service rfl
  have hstores := service.stopUpdate_stores h
  exact ⟨_, resumeUpdate_of_stores leftover hstores,
    ModelState.resumeUpdate_mActiveConfiguration ..⟩

def deployed : Configuration where
  abTestingRatio := 50
  sdkReleaseVersion := 1
  failuresFailoverThreshold := 1 / 2
  operationMode := .kRSOperationModeInnerTransportAndReport
  allowedProtocols := ["quic", "standard", "quic"]
  edgeHost := "edge"

theorem configuration_survives_deployed :
    DataStorage.configuration ⟨id, id, fun _ => 0⟩
      (DataStorage.saveConfiguration none deployed) = .ok deployed := by
  have h : deployed.Representable ⟨id, id, fun _ => 0⟩ :=
    ⟨by decide, by decide, by decide, rfl, rfl⟩
  exact (configuration_survives SelectorWorld.untouched h).1 none

end StoredService

end RevSDK
