import RevSDK.DataStorage.ConfigurationFile
import RevSDK.Stats.HandlerSpec

/-!
# Reports

A report carries a batch of request records together with the log events, which
are taken out of their file when it is built.  `StatsHandler` asks the handler
of request records for a batch and `NativeStatsHandler` for the rest.  What the
report says of the device is read from the system at that moment.
-/

namespace RevSDK

open RevSDK.Foundation

structure Event where
  severity : String
  code : Int
  message : String
  interval : ℚ
  timestamp : ℚ
  deriving DecidableEq

/-- `none` is a missing file. -/
abbrev EventsFile := Option (List Json)

/-- What the statistics take from the platform; `wholeText` is `%.f`. -/
structure StatsPlatform where
  jsonDataFromDataVector : List Data → Data
  JSONObjectWithData : Data → Option Json
  dataWithJSONObject : Json → Data
  dataUsingEncoding : String → Data
  wholeText : ℚ → String

structure Surroundings where
  appVersion : String
  networkDataDict : Json
  deviceDataDict : Json
  carrierDataDict : Json
  wifiDataDict : Json
  locationDataDict : Json
  applicationInfo : Json
  abTestingMode : Bool

/-- A platform that answers nothing. -/
def silentPlatform : StatsPlatform where
  jsonDataFromDataVector _ := ⟨[]⟩
  JSONObjectWithData _ := none
  dataWithJSONObject _ := ⟨[1]⟩
  dataUsingEncoding _ := ⟨[]⟩
  wholeText _ := "0"

def nowhere : Surroundings :=
  ⟨"1.0", .null, .null, .null, .null, .null, .null, false⟩

namespace DataStorage

def eventDictionary (platform : StatsPlatform) (aEvent : Event) : Json :=
  .object [
    ("log_severity", NSStringFromStdString aEvent.severity),
    ("log_event_code", .string (toString aEvent.code)),
    ("log_message", NSStringFromStdString aEvent.message),
    ("log_interval", .string (platform.wholeText aEvent.interval)),
    ("timestamp", .string (platform.wholeText aEvent.timestamp))]

def addEvent (platform : StatsPlatform) (file : EventsFile) (aEvent : Event) :
    EventsFile :=
  let mutableSavedEvents := file.getD []
  some (mutableSavedEvents ++ [eventDictionary platform aEvent])

def loadEvents (file : EventsFile) : List Json := file.getD []

def deleteEvents (_ : EventsFile) : EventsFile := none

end DataStorage

def kSDKVersionNumber : Int := 1
def kSDKKeyKey : String := "sdk_key"
def kSDKVersionKey : String := "sdk_version"
def kAppVersionKey : String := "version"
def kRequestsCountMax : Int := 500

namespace NativeStatsHandler

open DataStorage

variable (platform : StatsPlatform)

/-- The events are loaded and their file is deleted. -/
def logDataArray (file : EventsFile) : List Json × EventsFile :=
  (loadEvents file, deleteEvents file)

def requestObjects (aRequestsData : Data) : List Json :=
  match platform.JSONObjectWithData aRequestsData with
  | some (.array elements) => elements.filterMap fun str =>
      match str with
      | .string text =>
          platform.JSONObjectWithData (platform.dataUsingEncoding text)
      | _ => none
  | _ => []

/-- `sd[key] = value`. -/
def setObject (sd : PropertyList) (key : String) (value : Json) : PropertyList :=
  sd.filter (fun member => member.1 != key) ++ [(key, value)]

/-- The dictionary of the report; the caller has it serialized. -/
def allData (surroundings : Surroundings) (file : EventsFile)
    (aRequestsData : Data) (aParams : List (String × String)) :
    PropertyList × EventsFile :=
  let (events, file) := logDataArray file
  let sd : PropertyList := [
    ("requests", .array (requestObjects platform aRequestsData)),
    ("network", surroundings.networkDataDict),
    ("device", surroundings.deviceDataDict),
    ("carrier", surroundings.carrierDataDict),
    ("wifi", surroundings.wifiDataDict),
    ("location", surroundings.locationDataDict),
    ("log_events", .array events),
    ("application_info", surroundings.applicationInfo),
    ("a_b_mode", .bool surroundings.abTestingMode)]
  (aParams.foldl (fun sd i => setObject sd (cString i.1) (.string (cString i.2)))
    sd, file)

end NativeStatsHandler

structure StatsHandler where
  mSDKKey : String
  mRequestStatsHandler : RequestStatsHandler
  deriving DecidableEq

namespace StatsHandler

variable (platform : StatsPlatform)

/-- A `std::map` is traversed by its keys in order. -/
def stringMap (handler : StatsHandler) (surroundings : Surroundings)
    (aAppName : String) : List (String × String) :=
  [(kAppNameKey, aAppName), (kSDKKeyKey, handler.mSDKKey),
    (kSDKVersionKey, toString kSDKVersionNumber),
    (kAppVersionKey, surroundings.appVersion)]

def createSendTransaction (surroundings : Surroundings)
    (handler : StatsHandler) (gID : Int) (file : EventsFile)
    (aRequestCount : Int) (aAppName : String) :
    Outcome (ReportTransactionHanle × PropertyList × StatsHandler × Int ×
      EventsFile) := do
  let (requestsData, mRequestStatsHandler, gID) ←
    handler.mRequestStatsHandler.requestsData platform.jsonDataFromDataVector
      gID aRequestCount
  let (sd, file) := NativeStatsHandler.allData platform surroundings file
    requestsData.Buffer (handler.stringMap surroundings aAppName)
  let data := platform.dataWithJSONObject (.object sd)
  return ({ requestsData with Buffer := data }, sd,
    { handler with mRequestStatsHandler := mRequestStatsHandler }, gID, file)

theorem createSendTransaction_spec {surroundings : Surroundings}
    {handler handler' : StatsHandler} {gID gID' aRequestCount : Int}
    {file file' : EventsFile} {aAppName : String}
    {statsData : ReportTransactionHanle} {sd : PropertyList}
    (hreturns : handler.createSendTransaction platform surroundings gID file
      aRequestCount aAppName = .ok (statsData, sd, handler', gID', file')) :
    ∃ requestsData requests,
      handler.mRequestStatsHandler.requestsData platform.jsonDataFromDataVector
          gID aRequestCount = .ok (requestsData, requests, gID') ∧
        handler' = { handler with mRequestStatsHandler := requests } ∧
        statsData = { requestsData with
          Buffer := platform.dataWithJSONObject (.object sd) } ∧
        (sd, file') = NativeStatsHandler.allData platform surroundings file
          requestsData.Buffer (handler.stringMap surroundings aAppName) := by
  obtain ⟨⟨requestsData, requests, next⟩, hrequests, hrest⟩ :=
    (Outcome.bind_eq_ok _ _ _).mp hreturns
  have hparts := Except.ok.inj hrest
  rw [Prod.mk.injEq, Prod.mk.injEq, Prod.mk.injEq, Prod.mk.injEq] at hparts
  obtain ⟨hstats, hsd, hhandler, hgID, hfile⟩ := hparts
  refine ⟨requestsData, requests, hgID ▸ hrequests, hhandler.symm, ?_, ?_⟩
  · rw [← hstats, ← hsd]
  · rw [← hsd, ← hfile]
    rfl

def hasRequestsData (handler : StatsHandler) : Bool :=
  handler.mRequestStatsHandler.hasData

def requestsCount (handler : StatsHandler) : Nat :=
  handler.mRequestStatsHandler.requestsCount

end StatsHandler

/-! ## The world of the reports -/

inductive ReportFate where
  | inFlight
  | succeeded
  | failed
  deriving DecidableEq

structure Report where
  statsData : ReportTransactionHanle
  body : PropertyList
  fate : ReportFate

structure ReportWorld where
  mStatsHandler : StatsHandler
  gID : Int
  requestsFile : RequestsFile
  eventsFile : EventsFile
  reports : List Report

inductive ReportEvent where
  | addRequestData (aRequestData : Data)
  | deleteRequestsData
  | addEvent (aEvent : Event)
  | createSendTransaction (surroundings : Surroundings) (aRequestCount : Int)
      (aAppName : String)
  | completion (index : Nat) (isNoError : Bool)

namespace ReportWorld

variable (platform : StatsPlatform)

def start (requestsFile : RequestsFile) (eventsFile : EventsFile) (gID : Int) :
    ReportWorld where
  mStatsHandler :=
    { mSDKKey := "", mRequestStatsHandler := .construct requestsFile }
  gID := gID
  requestsFile := requestsFile
  eventsFile := eventsFile
  reports := []

def withRequests (world : ReportWorld) (handler : RequestStatsHandler)
    (file : RequestsFile) : ReportWorld :=
  { world with
    mStatsHandler :=
      { world.mStatsHandler with mRequestStatsHandler := handler }
    requestsFile := file }

def createSendTransaction (world : ReportWorld) (surroundings : Surroundings)
    (aRequestCount : Int) (aAppName : String) : Outcome ReportWorld := do
  let (statsData, body, handler, gID, eventsFile) ←
    world.mStatsHandler.createSendTransaction platform surroundings world.gID
      world.eventsFile aRequestCount aAppName
  return { world with
    mStatsHandler := handler
    gID := gID
    eventsFile := eventsFile
    reports := world.reports ++ [⟨statsData, body, .inFlight⟩] }

/-- The completion block of `reportStats`; a report is completed once. -/
def completion (world : ReportWorld) (index : Nat) (isNoError : Bool) :
    Outcome ReportWorld :=
  match world.reports[index]? with
  | some ⟨statsData, body, .inFlight⟩ => do
      let handler := world.mStatsHandler.mRequestStatsHandler
      let fate : ReportFate := if isNoError then .succeeded else .failed
      let world' := { world with
        reports := world.reports.set index ⟨statsData, body, fate⟩ }
      if isNoError then
        match statsData.cbOnSuccess with
        | some key =>
            let (handler', file) ←
              handler.deleteTransaction world.requestsFile key
            return world'.withRequests handler' file
        | none => return world'
      else
        match statsData.cbOnFail with
        | some key =>
            let handler' ← handler.restoreTransaction key
            return world'.withRequests handler' world.requestsFile
        | none => return world'
  | _ => .ok world

def react (world : ReportWorld) : ReportEvent → Outcome ReportWorld
  | .addRequestData aRequestData => do
      let (handler, file) ←
        world.mStatsHandler.mRequestStatsHandler.addNewRequestData
          world.requestsFile aRequestData
      return world.withRequests handler file
  | .deleteRequestsData => do
      let (handler, file) ←
        world.mStatsHandler.mRequestStatsHandler.deleteAllData
          world.requestsFile
      return world.withRequests handler file
  | .addEvent aEvent =>
      .ok { world with
        eventsFile := DataStorage.addEvent platform world.eventsFile aEvent }
  | .createSendTransaction surroundings aRequestCount aAppName =>
      world.createSendTransaction platform surroundings aRequestCount aAppName
  | .completion index isNoError => world.completion index isNoError

end ReportWorld

end RevSDK
