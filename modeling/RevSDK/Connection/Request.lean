import RevSDK.Connection.Data
import RevSDK.Connection.QUICDataStream
import RevSDK.Foundation.Outcome

/-!
# Requests, responses and URLs

`NSURL` and `NSURLComponents` parse and print URLs; they are given as the
functions of a `URLPlatform`.  Dictionaries stand as the lists of their pairs,
and a string made from `nil` is empty.
-/

namespace RevSDK

open RevSDK.Foundation

structure ParsedURL where
  absoluteString : String
  scheme : Option String
  host : Option String
  path : Option String

/-- `rest` stands for all other components. -/
structure NSURLComponents where
  scheme : Option String
  host : Option String
  rest : String

structure URLPlatform where
  URLWithString : String → Option ParsedURL
  initWithString_relativeToURL : String → ParsedURL → Option ParsedURL
  componentsWithString : String → Option NSURLComponents
  URL : NSURLComponents → Option ParsedURL

structure NSURLRequest where
  URL : Option ParsedURL
  HTTPMethod : String
  allHTTPHeaderFields : List (String × String)
  HTTPBody : Data

structure NSHTTPURLResponse where
  statusCode : Int
  allHeaderFields : List (String × String)

structure Request where
  mMethod : String
  mOriginalURL : String
  mURL : String
  mHeaders : List (String × String)
  mBody : Data
  mHost : String := ""
  mPath : String := ""
  mRest : String := ""
  mOriginalScheme : String := ""

structure Response where
  mURL : String
  mHeaderFields : List (String × String)
  mStatusCode : Int

def kRSRevHostHeader : String := "X-Rev-Host"

def afterFirst (host : List Char) : List Char → Option (List Char)
  | [] => none
  | char :: rest =>
      if host.isPrefixOf (char :: rest) then
        some ((char :: rest).drop host.length)
      else afterFirst host rest

/-- An empty string is found nowhere, and no range reaches so far. -/
def restAfterHost (urlStr host : String) : Outcome String :=
  if host.isEmpty then .error (.exceptionRaised "NSRangeException")
  else
    match afterFirst host.toList urlStr.toList with
    | none => .error (.exceptionRaised "NSRangeException")
    | some rest => .ok (String.ofList rest)

structure URLParts where
  aHost : String
  aPath : String
  aScheme : String

def partsOfURL (urlStr host scheme : String) : Outcome (Option URLParts) := do
  let path ← restAfterHost urlStr host
  let path := if path.toList.head?.any fun char => char != '/' then
      "/" ++ path else path
  return some ⟨host, path, scheme⟩

/-- A URL without host or scheme is taken relative to the base. -/
def decomposeURL (platform : URLPlatform) (aBaseURL aURL : String) :
    Outcome (Option URLParts) :=
  if aURL.isEmpty then .ok none
  else
    match platform.URLWithString aURL with
    | none => .ok none
    | some url =>
        match url.host, url.scheme with
        | some host, some scheme => partsOfURL aURL host scheme
        | _, _ =>
            match platform.URLWithString aBaseURL with
            | none => .ok none
            | some baseURL =>
                match platform.initWithString_relativeToURL aURL baseURL with
                | none => .ok none
                | some url =>
                    match url.host, url.scheme with
                    | some host, some scheme =>
                        partsOfURL url.absoluteString host scheme
                    | _, _ => .ok none

def correctURLIfNeeded (platform : URLPlatform) (aURL aScheme : String) :
    String :=
  match platform.componentsWithString aURL with
  | none => ""
  | some components =>
      let components := if components.scheme.isNone then
        { components with scheme := some aScheme } else components
      ((platform.URL components).map ParsedURL.absoluteString).getD ""

def requestFromURLRequest (aURLRequest : NSURLRequest) : Outcome Request :=
  let URLString := (aURLRequest.URL.map ParsedURL.absoluteString).getD ""
  let request : Request :=
    { mMethod := aURLRequest.HTTPMethod
      mOriginalURL := URLString
      mURL := URLString
      mHeaders := aURLRequest.allHTTPHeaderFields
      mBody := aURLRequest.HTTPBody
      mHost := (aURLRequest.URL.bind ParsedURL.host).getD ""
      mPath := (aURLRequest.URL.bind ParsedURL.path).getD "" }
  match aURLRequest.URL.bind ParsedURL.host with
  | none => .ok request
  | some host => do
      let rString ← restAfterHost URLString host
      return { request with mRest := if rString.isEmpty then "/" else rString }

def URLRequestFromRequest (platform : URLPlatform) (aRequest : Request) :
    NSURLRequest where
  URL := platform.URLWithString aRequest.mURL
  HTTPMethod := aRequest.mMethod
  allHTTPHeaderFields := aRequest.mHeaders
  HTTPBody := aRequest.mBody

end RevSDK
