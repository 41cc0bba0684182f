import RevSDK.Connection.Data
import RevSDK.Connection.Error
import RevSDK.Utils.Json

/-!
# The configuration validator

`_isValidConfiguration` asks the objects that `NSJSONSerialization` makes of a
document; `none` is `nil`.  A message to an object of a class that does not
respond to it raises an exception.  The checks are made in the order of the
source, and a failed one ends them with its error.
-/

namespace RevSDK

open RevSDK.Foundation

structure NSURL where
  scheme : Option String
  host : Option String

/-- What the readers of configurations take from the platform. -/
structure ConfigurationPlatform where
  parse : Data → Option Json
  urlWithString : String → Option NSURL
  description : Json → String
  realText : ℚ → String
  toFloat : ℚ → ℚ

/-! ## Keys and names -/

def kOSKey : String := "os"
def kAppNameKey : String := "app_name"
def kSDKReleaseVersionKey : String := "sdk_release_version"
def kConfigurationApiURLKey : String := "configuration_api_url"
def kConfigurationRefreshIntervalKey : String :=
  "configuration_refresh_interval_sec"
def kConfigurationStaleTimeoutKey : String := "configuration_stale_timeout_sec"
def kEdgeHostKey : String := "edge_host"
def kOperationModeKey : String := "operation_mode"
def kAllowedTransportProtocolsKey : String := "allowed_transport_protocols"
def kInitialTransportProtocolsKey : String := "initial_transport_protocol"
def kTransportMonitoringURLKey : String := "transport_monitoring_url"
def kStatsReportingURLKey : String := "stats_reporting_url"
def kStatsReportingIntervalKey : String := "stats_reporting_interval_sec"
def kStatsReportingLevelKey : String := "stats_reporting_level"
def kStatsReportingMaxRequestsKey : String :=
  "stats_reporting_max_requests_per_report"
def kDomainsProvisionedListKey : String := "domains_provisioned_list"
def kDomainsWhiteListKey : String := "domains_white_list"
def kDomainsBlackListKey : String := "domains_black_list"
def kDomainsInternalBlackListKey : String := "internal_domains_black_list"
def kLoggingLevelKey : String := "logging_level"
def kConfigsKey : String := "configs"
def kABTestingOriginOffloadRatioKey : String :=
  "a_b_testing_origin_offload_ratio"
def kSDKDomain : String := "edge_sdk_domain"
def kQuicUDPPort : String := "edge_quic_udp_port"
def kFailuresMonitoringInterval : String :=
  "edge_failures_monitoring_interval_sec"
def kFailuresFailoverThreshold : String :=
  "edge_failures_failover_threshold_percent"

def kOperationModeOffString : String := "off"
def kOperationModeTransferString : String := "transfer_only"
def kOperationModeReportString : String := "report_only"
def kOperationModeTransferReportString : String := "transfer_and_report"

def kRSSDKVersion : Int := 1
def kRSErrorCodeConfigurationNotValid : Int := 100

def operationModeNames : List String :=
  [kOperationModeOffString, kOperationModeTransferString,
    kOperationModeReportString, kOperationModeTransferReportString]

def protocolNames : List String := ["standard", "quic", "rev"]

def logLevelNames : List String := ["debug", "error", "info"]

/-! ## Messages to Foundation objects -/

namespace NSObject

def doesNotRecognizeSelector {α : Type} (aSelector : String) : Outcome α :=
  .error (.exceptionRaised ("unrecognized selector " ++ aSelector))

def objectForKeyedSubscript (object : Option Json) (key : String) :
    Outcome (Option Json) :=
  match object with
  | none => .ok none
  | some (.object members) => .ok (members.lookup key)
  | some _ => doesNotRecognizeSelector "objectForKeyedSubscript:"

def lastObject : Option Json → Outcome (Option Json)
  | none => .ok none
  | some (.array elements) => .ok elements.getLast?
  | some _ => doesNotRecognizeSelector "lastObject"

/-- The object as an instance of `NSString`, if it is one. -/
def string? : Option Json → Option String
  | some (.string value) => some value
  | _ => none

def array? : Option Json → Option (List Json)
  | some (.array elements) => some elements
  | _ => none

def dictionary? : Option Json → Option (List (String × Json))
  | some (.object members) => some members
  | _ => none

/-- A conversion to a signed integer keeps the low bits of integers. -/
def wrap (bits : Nat) (value : Int) : Int := value.bmod (2 ^ bits)

/-- The conversions of texts and of floating-point numbers stop at the ends. -/
def clamp (bits : Nat) (value : Int) : Int :=
  max (-2 ^ (bits - 1)) (min (2 ^ (bits - 1) - 1) value)

/-- The integer at the start of a text, 0 if there is none. -/
def leadingInteger (text : String) : Int :=
  let digits (rest : List Char) : Int :=
    (rest.takeWhile Char.isDigit).foldl
      (fun value c => value * 10 + (c.toNat - '0'.toNat)) 0
  match text.toList.dropWhile Char.isWhitespace with
  | '-' :: rest => -digits rest
  | '+' :: rest => digits rest
  | rest => digits rest

/-- The answer of an object that responds to `integerValue` or `intValue`. -/
def signedValue? (bits : Nat) : Option Json → Option Int
  | some (.bool value) => some (if value then 1 else 0)
  | some (.int value) => some (wrap bits value)
  | some (.real value) => some (clamp bits (Json.truncate value))
  | some (.string value) => some (clamp bits (leadingInteger value))
  | _ => none

def integerValue? (object : Option Json) : Option Int := signedValue? 64 object

def intValue? (object : Option Json) : Option Int := signedValue? 32 object

end NSObject

theorem NSObject.signedValue?_of_asInt {bits : Nat} (hbits : bits = 32 ∨ bits = 64)
    {value : Json} {number : Int} (hvalue : value.asInt = .ok number)
    (hnull : value ≠ .null) :
    NSObject.signedValue? bits (some value) = some number := by
  cases value with
  | null => exact absurd rfl hnull
  | bool value => simpa [Json.asInt, NSObject.signedValue?] using hvalue
  | int value =>
      have hrange := (Json.asInt_isOk_iff (.int value)).mp ⟨number, hvalue⟩
      obtain ⟨hlow, hhigh⟩ := hrange
      obtain rfl : value = number := by
        unfold Json.asInt at hvalue
        dsimp only at hvalue
        rw [if_neg (by omega), if_neg (by omega)] at hvalue
        exact Except.ok.inj hvalue
      unfold Json.minInt at hlow
      unfold Json.maxInt at hhigh
      unfold NSObject.signedValue? NSObject.wrap Int.bmod
      dsimp only
      congr 1
      rcases hbits with rfl | rfl
      · omega
      · omega
  | real value =>
      have hrange : Json.minInt ≤ value ∧ value ≤ Json.maxInt :=
        (Json.asInt_isOk_iff (.real value)).mp ⟨number, hvalue⟩
      obtain rfl : Json.truncate value = number := by
        unfold Json.asInt at hvalue
        dsimp only at hvalue
        rw [if_pos hrange] at hvalue
        exact Except.ok.inj hvalue
      obtain ⟨hlow, hhigh⟩ := Json.truncate_bounds hrange.1 hrange.2
        (by decide) (by decide)
      unfold Json.minInt at hlow
      unfold Json.maxInt at hhigh
      unfold NSObject.signedValue? NSObject.clamp
      dsimp only
      congr 1
      rcases hbits with rfl | rfl
      · omega
      · omega
  | _ => simp [Json.asInt, Json.throwLogicError] at hvalue

/-- A `std::string` of a C string ends at its first NUL. -/
def cString (text : String) : String :=
  String.ofList (text.toList.takeWhile fun c => c != '\x00')

def stdStringFromNSString : Option Json → Outcome String
  | none => .ok ""
  | some (.string value) => .ok (cString value)
  | some _ => NSObject.doesNotRecognizeSelector "UTF8String"

/-! ## The validator -/

section Validator

variable (platform : ConfigurationPlatform)

/-- `stdStringFromNSString([object description])`. -/
def describe : Option Json → Outcome String
  | none => .ok ""
  | some object => .ok (cString (platform.description object))

def _isValidURL (aURLString : Option Json) : Bool :=
  match NSObject.string? aURLString with
  | none => false
  | some text =>
      match platform.urlWithString text with
      | none => false
      | some url => url.scheme.isSome && url.host.isSome

/-- The text of the error is built before the verdict is returned. -/
def refuse (aError : Error) (text : Outcome String) :
    Outcome (Bool × Error) := do
  let text ← text
  return (false, { aError with
    code := kRSErrorCodeConfigurationNotValid
    userInfo := [(errorDescriptionKey, text)] })

def check (valid : Bool) (aError : Error) (text : Outcome String)
    (next : Outcome (Bool × Error)) : Outcome (Bool × Error) :=
  if valid then next else refuse aError text

/-- `prefix + text`. -/
def messageText (message : String) (text : Outcome String) : Outcome String :=
  return message ++ (← text)

/-- The document has to be a container. -/
def jsonObjectWithData (data : Data) : Option Json :=
  match platform.parse data with
  | some (.array elements) => some (.array elements)
  | some (.object members) => some (.object members)
  | _ => none

def isPositive (value : Option Int) : Bool :=
  value.any fun value => 0 < value

def isOneOf (names : List String) (value : Option String) : Bool :=
  value.any names.contains

def isValidElement (members : List (String × Json)) (aError : Error) :
    Outcome (Bool × Error) :=
  let allowedTransportProtocols := members.lookup kAllowedTransportProtocolsKey
  let configurationApiURL := members.lookup kConfigurationApiURLKey
  let refreshInterval := members.lookup kConfigurationRefreshIntervalKey
  let staleTimeout := members.lookup kConfigurationStaleTimeoutKey
  let blackList := members.lookup kDomainsBlackListKey
  let provisionedList := members.lookup kDomainsProvisionedListKey
  let edgeHost := members.lookup kEdgeHostKey
  let initialTransportProtocol := members.lookup kInitialTransportProtocolsKey
  let loggingLevel := members.lookup kLoggingLevelKey
  let operationMode := members.lookup kOperationModeKey
  let releaseVersion := members.lookup kSDKReleaseVersionKey
  let statsReportingInterval := members.lookup kStatsReportingIntervalKey
  let statsReportingLevel := members.lookup kStatsReportingLevelKey
  let maxRequests := members.lookup kStatsReportingMaxRequestsKey
  let statsReportingURL := members.lookup kStatsReportingURLKey
  let transportMonitoringURL := members.lookup kTransportMonitoringURLKey
  check ((NSObject.array? allowedTransportProtocols).any (!·.isEmpty)) aError
    (messageText "allowed transport protocols invalid "
      (describe platform allowedTransportProtocols)) <|
  check (_isValidURL platform configurationApiURL) aError
    (messageText "configuration api url invalid "
      (stdStringFromNSString configurationApiURL)) <|
  check (isPositive (NSObject.integerValue? refreshInterval)) aError
    (messageText "configuration refresh interval invalid "
      (describe platform refreshInterval)) <|
  check (isPositive (NSObject.integerValue? staleTimeout)) aError
    (messageText "stale timeout invalid " (describe platform staleTimeout)) <|
  -- the text of this check names the refresh interval
  check (NSObject.array? blackList).isSome aError
    (messageText "configuration refresh interval invalid "
      (describe platform refreshInterval)) <|
  check (NSObject.array? provisionedList).isSome aError
    (messageText "provisioned list invalid "
      (describe platform provisionedList)) <|
  check ((NSObject.string? edgeHost).any (!·.isEmpty)) aError
    (messageText "edge host invalid " (describe platform edgeHost)) <|
  check (isOneOf protocolNames (NSObject.string? initialTransportProtocol))
    aError
    (messageText "initial transport protocol invalid "
      (describe platform initialTransportProtocol)) <|
  check (isOneOf logLevelNames (NSObject.string? loggingLevel)) aError
    (messageText "logging level invalid " (describe platform loggingLevel)) <|
  check (isOneOf operationModeNames (NSObject.string? operationMode)) aError
    (messageText "operation mode invalid "
      (describe platform operationMode)) <|
  check (NSObject.intValue? releaseVersion == some kRSSDKVersion) aError
    (messageText "sdk release version invalid "
      (describe platform releaseVersion)) <|
  check (isPositive (NSObject.integerValue? statsReportingInterval)) aError
    (messageText "stats reporting interval invalid "
      (describe platform statsReportingInterval)) <|
  check ((NSObject.string? statsReportingLevel).any (!·.isEmpty)) aError
    (messageText "stats reporting level invalid "
      (describe platform statsReportingLevel)) <|
  check (isPositive (NSObject.intValue? maxRequests)) aError
    (messageText "max requests per request invalid "
      (describe platform maxRequests)) <|
  check (_isValidURL platform statsReportingURL) aError
    (messageText "stats reporting url invalid "
      (describe platform statsReportingURL)) <|
  check (_isValidURL platform transportMonitoringURL) aError
    (messageText "transport monitoring url invalid "
      (describe platform transportMonitoringURL)) <|
  .ok (true, aError)

def _isValidConfiguration (aConfData : Data) (aError : Error) :
    Outcome (Bool × Error) :=
  if aConfData.isEmpty then .ok (false, aError)
  else
    match jsonObjectWithData platform aConfData with
    | none => .ok (false, aError)
    | some confDictionary => do
        let osString ←
          NSObject.objectForKeyedSubscript (some confDictionary) kOSKey
        check (NSObject.string? osString == some "iOS") aError
          (messageText "OS incorrect " (stdStringFromNSString osString)) <| do
          let configsArray ←
            NSObject.objectForKeyedSubscript (some confDictionary) kConfigsKey
          let configsDict ← NSObject.lastObject configsArray
          match NSObject.dictionary? configsDict with
          | none => refuse aError (.ok "configs missing")
          | some members => isValidElement platform members aError

end Validator

/-! ## What is accepted -/

/-- The conditions on the element of `configs` that is looked at. -/
structure ValidElement (platform : ConfigurationPlatform)
    (members : List (String × Json)) : Prop where
  allowedTransportProtocols : ∃ elements,
    NSObject.array? (members.lookup kAllowedTransportProtocolsKey) =
      some elements ∧ elements ≠ []
  configurationApiURL :
    _isValidURL platform (members.lookup kConfigurationApiURLKey) = true
  refreshInterval : ∃ value, NSObject.integerValue?
    (members.lookup kConfigurationRefreshIntervalKey) = some value ∧ 0 < value
  staleTimeout : ∃ value, NSObject.integerValue?
    (members.lookup kConfigurationStaleTimeoutKey) = some value ∧ 0 < value
  blackList :
    (NSObject.array? (members.lookup kDomainsBlackListKey)).isSome = true
  provisionedList :
    (NSObject.array? (members.lookup kDomainsProvisionedListKey)).isSome = true
  edgeHost : ∃ host,
    NSObject.string? (members.lookup kEdgeHostKey) = some host ∧ host ≠ ""
  initialTransportProtocol : ∃ name ∈ protocolNames,
    NSObject.string? (members.lookup kInitialTransportProtocolsKey) = some name
  loggingLevel : ∃ name ∈ logLevelNames,
    NSObject.string? (members.lookup kLoggingLevelKey) = some name
  operationMode : ∃ name ∈ operationModeNames,
    NSObject.string? (members.lookup kOperationModeKey) = some name
  releaseVersion : NSObject.intValue?
    (members.lookup kSDKReleaseVersionKey) = some kRSSDKVersion
  statsReportingInterval : ∃ value, NSObject.integerValue?
    (members.lookup kStatsReportingIntervalKey) = some value ∧ 0 < value
  statsReportingLevel : ∃ level,
    NSObject.string? (members.lookup kStatsReportingLevelKey) = some level ∧
      level ≠ ""
  maxRequests : ∃ value, NSObject.intValue?
    (members.lookup kStatsReportingMaxRequestsKey) = some value ∧ 0 < value
  statsReportingURL :
    _isValidURL platform (members.lookup kStatsReportingURLKey) = true
  transportMonitoringURL :
    _isValidURL platform (members.lookup kTransportMonitoringURLKey) = true

section Accepted

variable {platform : ConfigurationPlatform} {aError error : Error}

theorem NSObject.string?_eq_some {object : Option Json} {text : String} :
    NSObject.string? object = some text ↔ object = some (.string text) := by
  unfold NSObject.string?
  split <;> simp_all

theorem NSObject.array?_eq_some {object : Option Json}
    {elements : List Json} :
    NSObject.array? object = some elements ↔
      object = some (.array elements) := by
  unfold NSObject.array?
  split <;> simp_all

theorem NSObject.dictionary?_eq_some {object : Option Json}
    {members : List (String × Json)} :
    NSObject.dictionary? object = some members ↔
      object = some (.object members) := by
  unfold NSObject.dictionary?
  split <;> simp_all

theorem NSObject.lastObject_eq_ok {object : Option Json} {last : Json} :
    NSObject.lastObject object = .ok (some last) ↔
      ∃ elements, object = some (.array elements) ∧
        elements.getLast? = some last := by
  unfold NSObject.lastObject
  split
  · simp
  · simp
  · simp_all [NSObject.doesNotRecognizeSelector]

theorem NSObject.objectForKeyedSubscript_eq_ok {object : Json} {key : String}
    {value : Option Json} :
    NSObject.objectForKeyedSubscript (some object) key = .ok value ↔
      ∃ members, object = .object members ∧ members.lookup key = value := by
  cases object <;> simp [NSObject.objectForKeyedSubscript,
    NSObject.doesNotRecognizeSelector]

theorem jsonObjectWithData_object {data : Data}
    {members : List (String × Json)}
    (h : jsonObjectWithData platform data = some (.object members)) :
    platform.parse data = some (.object members) := by
  unfold jsonObjectWithData at h
  split at h <;> simp_all

theorem refuse_ne_true (text : Outcome String) :
    refuse aError text ≠ .ok (true, error) := by
  unfold refuse
  cases text with
  | error fault => simp
  | ok text => simp [pure, Except.pure]

theorem check_eq_true {valid : Bool} {text : Outcome String}
    {next : Outcome (Bool × Error)} :
    check valid aError text next = .ok (true, error) ↔
      valid = true ∧ next = .ok (true, error) := by
  unfold check
  cases valid with
  | true => simp
  | false => simp [refuse_ne_true]

theorem isPositive_iff (value : Option Int) :
    isPositive value = true ↔ ∃ number, value = some number ∧ 0 < number := by
  cases value <;> simp [isPositive]

theorem isOneOf_iff (names : List String) (value : Option String) :
    isOneOf names value = true ↔ ∃ name ∈ names, value = some name := by
  cases value <;> simp [isOneOf]

theorem any_not_isEmpty_iff {α : Type} (value : Option (List α)) :
    (value.any fun elements => !elements.isEmpty) = true ↔
      ∃ elements, value = some elements ∧ elements ≠ [] := by
  cases value <;> simp

theorem any_nonempty_iff (value : Option String) :
    (value.any fun text => !text.isEmpty) = true ↔
      ∃ text, value = some text ∧ text ≠ "" := by
  cases value <;> simp

theorem isValidElement_eq_true {members : List (String × Json)} :
    isValidElement platform members aError = .ok (true, error) ↔
      ValidElement platform members ∧ error = aError := by
  unfold isValidElement
  simp only [check_eq_true, isPositive_iff, isOneOf_iff, any_not_isEmpty_iff,
    any_nonempty_iff, beq_iff_eq]
  constructor
  · rintro ⟨hallowed, hapi, hrefresh, hstale, hblack, hprovisioned, hedge,
      hprotocol, hlogging, hmode, hversion, hinterval, hlevel, hrequests,
      hstats, hmonitoring, herror⟩
    refine ⟨⟨hallowed, hapi, hrefresh, hstale, hblack, hprovisioned, hedge,
      hprotocol, hlogging, hmode, hversion, hinterval, hlevel, hrequests,
      hstats, hmonitoring⟩, ?_⟩
    simpa using herror.symm
  · rintro ⟨⟨hallowed, hapi, hrefresh, hstale, hblack, hprovisioned, hedge,
      hprotocol, hlogging, hmode, hversion, hinterval, hlevel, hrequests,
      hstats, hmonitoring⟩, rfl⟩
    exact ⟨hallowed, hapi, hrefresh, hstale, hblack, hprovisioned, hedge,
      hprotocol, hlogging, hmode, hversion, hinterval, hlevel, hrequests,
      hstats, hmonitoring, rfl⟩

/-- An accepted document is an object whose last configuration is valid. -/
structure ValidDocument (platform : ConfigurationPlatform) (data : Data)
    (document : List (String × Json)) (elements : List Json)
    (members : List (String × Json)) : Prop where
  parsed : platform.parse data = some (.object document)
  os : document.lookup kOSKey = some (.string "iOS")
  configs : document.lookup kConfigsKey = some (.array elements)
  last : elements.getLast? = some (.object members)
  valid : ValidElement platform members

theorem _isValidConfiguration_true {data : Data}
    (h : _isValidConfiguration platform data aError = .ok (true, error)) :
    ∃ document elements members,
      ValidDocument platform data document elements members := by
  unfold _isValidConfiguration at h
  split at h
  · simp at h
  · cases hparsed : jsonObjectWithData platform data with
    | none => simp [hparsed] at h
    | some confDictionary =>
        rw [hparsed] at h
        dsimp only at h
        rw [Outcome.bind_eq_ok] at h
        obtain ⟨osString, hos, h⟩ := h
        rw [check_eq_true, Outcome.bind_eq_ok] at h
        obtain ⟨hios, configsArray, hconfigs, h⟩ := h
        rw [Outcome.bind_eq_ok] at h
        obtain ⟨configsDict, hlast, h⟩ := h
        obtain ⟨document, rfl, rfl⟩ :=
          NSObject.objectForKeyedSubscript_eq_ok.mp hos
        obtain ⟨_, hsame, rfl⟩ :=
          NSObject.objectForKeyedSubscript_eq_ok.mp hconfigs
        obtain rfl := Json.object.inj hsame
        cases hmembers : NSObject.dictionary? configsDict with
        | none => simp [hmembers, refuse_ne_true] at h
        | some members =>
            rw [hmembers] at h
            obtain rfl := NSObject.dictionary?_eq_some.mp hmembers
            obtain ⟨elements, helements, hlast⟩ :=
              NSObject.lastObject_eq_ok.mp hlast
            exact ⟨document, elements, members,
              { parsed := jsonObjectWithData_object hparsed
                os := NSObject.string?_eq_some.mp (by simpa using hios)
                configs := helements
                last := hlast
                valid := (isValidElement_eq_true.mp h).1 }⟩

theorem ValidDocument.accepted {data : Data}
    {document members : List (String × Json)} {elements : List Json}
    (h : ValidDocument platform data document elements members)
    (hdata : data.isEmpty = false) :
    _isValidConfiguration platform data aError = .ok (true, aError) := by
  have hparsed : jsonObjectWithData platform data =
      some (.object document) := by
    unfold jsonObjectWithData
    rw [h.parsed]
  have hos := NSObject.objectForKeyedSubscript_eq_ok.mpr
    ⟨document, rfl, h.os⟩
  have hconfigs := NSObject.objectForKeyedSubscript_eq_ok.mpr
    ⟨document, rfl, h.configs⟩
  have hlast := NSObject.lastObject_eq_ok.mpr ⟨elements, rfl, h.last⟩
  unfold _isValidConfiguration
  rw [hdata, if_neg Bool.false_ne_true, hparsed]
  dsimp only
  rw [hos, Outcome.ok_bind, check_eq_true]
  refine ⟨rfl, ?_⟩
  rw [hconfigs, Outcome.ok_bind, hlast, Outcome.ok_bind]
  exact isValidElement_eq_true.mpr ⟨h.valid, rfl⟩

end Accepted

end RevSDK
