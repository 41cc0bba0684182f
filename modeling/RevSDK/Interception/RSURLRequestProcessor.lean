import RevSDK.Connection.Request
import RevSDK.Foundation.Search
import RevSDK.Model.DomainFilter

/-!
# Accepting and processing a request

`RSURLProtocol` decides whether it takes a request and whether it goes to the
edge; `RSURLRequestProcessor` then rewrites it, and checks its scheme and host
once more.  The model answers each question on the configuration that is active
when it is asked.
-/

namespace RevSDK

open RevSDK.Foundation

structure ModelAnswers where
  currentOperationMode : RSOperationModeInner
  shouldPassHost : String → Bool
  shouldTransportDomainName : String → Bool
  isDomainNameProvisioned : String → Bool
  SDKKey : String
  revBaseHost : String
  edgeHost : String

/-- Only a `TestConfigurationService` refuses hosts. -/
def Configuration.shouldPassHost (conf : Configuration) (isTest : Bool)
    (aHost : String) : Bool :=
  if !isTest then true
  else if conf.operationMode != .kRSOperationModeInnerReport then true
  else aHost != "mobile-collector.newrelic.com"

def Configuration.answers (conf : Configuration)
    (urlWithString : String → Option NSURL) (isTest : Bool)
    (mSDKKey : String) : ModelAnswers where
  currentOperationMode := conf.operationMode
  shouldPassHost := conf.shouldPassHost isTest
  shouldTransportDomainName aDomainName :=
    conf.operationMode.transports && conf.passesLists urlWithString aDomainName
  isDomainNameProvisioned aDomainName :=
    conf.domainsProvisionedList.contains aDomainName
  SDKKey := mSDKKey
  revBaseHost := conf.SDKDomain
  edgeHost := conf.edgeHost

/-! ## `RSURLProtocol` -/

def ParsedURL.isFileURL (url : ParsedURL) : Bool :=
  (url.scheme.map String.toLower) == some "file"

def NSURLRequest.isFileRequest (request : NSURLRequest) : Bool :=
  (request.URL.map ParsedURL.isFileURL).getD false

/-- `handled` is the property `kRSURLProtocolHandledKey` of the request. -/
def canInitWithRequest (answers : ModelAnswers) (aRequest : NSURLRequest)
    (handled : Bool) : Bool :=
  let host := (aRequest.URL.bind ParsedURL.host).getD ""
  let scheme := (aRequest.URL.bind ParsedURL.scheme).map String.toLower
  if host.isEmpty then false
  else if !(scheme == some "http" || scheme == some "https") then false
  else if aRequest.isFileRequest then false
  else if answers.currentOperationMode == .kRSOperationModeInnerOff then false
  else if !answers.shouldPassHost host then false
  else !handled

def shouldRedirectRequest (answers : ModelAnswers) (aRequest : NSURLRequest) :
    Bool :=
  answers.shouldTransportDomainName
    ((aRequest.URL.bind ParsedURL.host).getD "")

/-! ## `RSURLRequestProcessor` -/

def kRSHostHeader : String := "Host"

def kRSRevMethodHeader : String := "X-Rev-Proto"

/-- The names of header fields are compared without case. -/
def NSURLRequest.setValue (request : NSURLRequest) (value field : String) :
    NSURLRequest :=
  { request with
    allHTTPHeaderFields :=
      (request.allHTTPHeaderFields.filter fun entry =>
        entry.1.toLower != field.toLower) ++ [(field, value)] }

def isValidScheme (aScheme : Option String) : Bool :=
  match aScheme with
  | none => false
  | some scheme => ["http", "https"].contains scheme

def rangeOfString (text part : String) : Option Nat :=
  findFirst part.toList text.toList

/-- A range that was not found raises an exception. -/
def stringByReplacingCharactersInRange (text : String) (range : Option Nat)
    (part replacement : String) : Outcome String :=
  match range with
  | none => .error (.exceptionRaised "NSRangeException")
  | some location => .ok (String.ofList
      (replaceAt text.toList location part.toList replacement.toList))

def processedHeaders (answers : ModelAnswers) (newRequest : NSURLRequest)
    (host scheme : String) : NSURLRequest :=
  if answers.isDomainNameProvisioned host then
    newRequest.setValue host kRSHostHeader
  else
    ((newRequest.setValue host kRSRevHostHeader).setValue scheme
      kRSRevMethodHeader).setValue
        (answers.SDKKey ++ "." ++ answers.revBaseHost) kRSHostHeader

def secureURL (platform : URLPlatform) (isProvisioned : Bool)
    (newRequest : NSURLRequest) (urlStr : String) :
    Outcome (Option NSURLRequest) :=
  if rangeOfString urlStr "https" != some 0 then
    let range := rangeOfString urlStr "http"
    if range != some 0 then .ok none
    else if !isProvisioned then do
      let urlStr ←
        stringByReplacingCharactersInRange urlStr range "http" "https"
      return some { newRequest with URL := platform.URLWithString urlStr }
    else .ok (some { newRequest with URL := platform.URLWithString urlStr })
  else .ok (some { newRequest with URL := platform.URLWithString urlStr })

def ParsedURL.hasHost (url : ParsedURL) : Bool :=
  !(url.host.getD "").isEmpty

/-- The URL with a host, if need be taken relative to the base. -/
def hostedURL (platform : URLPlatform) (url aBaseURL : Option ParsedURL) :
    Option ParsedURL :=
  if (url.map ParsedURL.hasHost).getD false then url
  else
    let text := (url.map ParsedURL.absoluteString).getD ""
    let relative := match aBaseURL with
      | none => platform.URLWithString text
      | some base => platform.initWithString_relativeToURL text base
    relative.filter ParsedURL.hasHost

def proccessRequest (platform : URLPlatform) (answers : ModelAnswers)
    (aRequest : NSURLRequest) (aIsEdge : Bool) (aBaseURL : Option ParsedURL) :
    Outcome (Option NSURLRequest) :=
  match hostedURL platform aRequest.URL aBaseURL with
  | none => .ok none
  | some url =>
      if !isValidScheme url.scheme then .ok none
      else do
        let host := url.host.getD ""
        let urlStr := url.absoluteString
        let isProvisioned := answers.isDomainNameProvisioned host
        let newRequest := processedHeaders answers aRequest host
          (url.scheme.getD "")
        if aIsEdge then do
          let range := rangeOfString urlStr host
          let urlStr ← stringByReplacingCharactersInRange urlStr range host
            answers.edgeHost
          secureURL platform isProvisioned newRequest urlStr
        else secureURL platform isProvisioned newRequest urlStr

end RevSDK
