import RevSDK.Connection.RecordedRequest
import RevSDK.Interception.OriginalHost
import RevSDK.Interception.RedirectChain
import RevSDK.Interception.RequestRecords
import RevSDK.Interception.UndoneHost

/-!
# The URL in the record of a request

A record should name the URL that the client asked for.  It is made from the
request as it was sent, by putting the header `X-Rev-Host` for the first
occurrence of the host, whatever the processor has put there.
-/

namespace RevSDK

open RevSDK.Foundation

section Platform

variable (platform : URLPlatform)

/-- The receiver itself if nothing is replaced or no URL comes out. -/
def ParsedURL.revURLByReplacingHostWithHost (self : ParsedURL)
    (aNewHost : Option String) : ParsedURL :=
  match aNewHost, self.host with
  | some aNewHost, some host =>
      if aNewHost.isEmpty then self
      else
        match rangeOfString self.absoluteString host with
        | none => self
        | some r =>
            let newURL := platform.URLWithString (String.ofList
              (replaceAt self.absoluteString.toList r host.toList
                aNewHost.toList))
            newURL.getD self
  | _, _ => self

/-- The text that `dataFromRequestsDictionary` stores as the URL. -/
def dataFromRequestsDictionary.URLString (aRequest : NSURLRequest)
    (aIsRedirecting : Bool) : Option String :=
  let headers := aRequest.allHTTPHeaderFields
  let URL := aRequest.URL
  let originalURL :=
    if aIsRedirecting then
      URL.map fun originalURL =>
        originalURL.revURLByReplacingHostWithHost platform
          (headers.lookup kRSRevHostHeader)
    else URL
  originalURL.map ParsedURL.absoluteString

end Platform

/-! ## The URL that is stored -/

/-- The record of the request has the URL of the client. -/
def StoresClientURL (platform : URLPlatform) (u : HostedURL)
    (request : Request) : Prop :=
  ∃ text, dataFromRequestsDictionary.URLString platform
      (URLRequestFromRequest platform request) true =
        some (String.ofList text) ∧ u.IsClientText text

/--
The request goes out with the edge host, which is its own name, in the place of
the host of the client.
-/
def SentToEdge (u : HostedURL) (isProvisioned : Bool) (edgeHost : List Char)
    (request : Request) : Prop :=
  ∃ v : HostedURL, v.reference = u.rewritten isProvisioned edgeHost ∧
    v.name = edgeHost ∧ request.mURL = String.ofList v.text

def recordedHeader (answers : ModelAnswers) (aRequest : NSURLRequest)
    (u : HostedURL) : Option (List Char) :=
  if answers.isDomainNameProvisioned (String.ofList u.name) then
    (aRequest.allHTTPHeaderFields.lookup kRSRevHostHeader).map String.toList
  else some u.name

section Storing

variable {platform : URLPlatform} (hplatform : ReadsReferences platform)
  (hrefuses : RefusesOthers platform)

include hplatform hrefuses

theorem isSome_URLWithString (text : List Char) :
    (platform.URLWithString (String.ofList text)).isSome =
      (Reference.parse text).isSome := by
  rw [Bool.eq_iff_iff]
  constructor
  · intro hread
    obtain ⟨url, hurl⟩ := Option.isSome_iff_exists.mp hread
    have hparsed := hrefuses _ _ hurl
    rwa [String.toList_ofList] at hparsed
  · intro hparsed
    obtain ⟨r, hr⟩ := Option.isSome_iff_exists.mp hparsed
    obtain ⟨hvalid, rfl⟩ := Reference.parse_eq_some hr
    obtain ⟨url, hurl, -⟩ := hplatform.reads r hvalid
    rw [hurl]
    rfl

theorem revURL_absoluteString {sent : ParsedURL} {v : HostedURL}
    (hsent : sent.Reads v.reference) (header : Option String) :
    (sent.revURLByReplacingHostWithHost platform header).absoluteString =
      String.ofList (v.undone (header.map String.toList)) := by
  have hkept : sent.absoluteString = String.ofList v.text :=
    hsent.absoluteString
  cases header with
  | none => exact hkept
  | some aNewHost =>
      unfold ParsedURL.revURLByReplacingHostWithHost
      rw [HostedURL.host_of_reads hsent, hkept]
      dsimp only
      rw [rangeOfString, String.toList_ofList, String.toList_ofList]
      unfold HostedURL.undone
      rw [Option.map_some]
      cases hplace : findFirst v.name v.text with
      | none =>
          dsimp only
          split <;> exact hkept
      | some place =>
          dsimp only
          have hreadable := isSome_URLWithString hplatform hrefuses
            (replaceAt v.text place v.name aNewHost.toList)
          have hempty : aNewHost.isEmpty = true ↔ aNewHost.toList = [] := by
            rw [String.isEmpty_iff, String.toList_eq_nil_iff]
          by_cases hnone : aNewHost.toList = []
          · rw [if_pos (hempty.mpr hnone), if_neg fun h => h.1 hnone]
            exact hkept
          · rw [if_neg (hempty.not.mpr hnone), ← hreadable]
            cases hnew : platform.URLWithString
                (String.ofList (replaceAt v.text place v.name
                  aNewHost.toList)) with
            | none => simpa using hkept
            | some newURL => simp [hnone, hplatform.keeps _ _ hnew]

theorem storesClientURL_iff_undone {u v : HostedURL} {request : Request}
    (hsent : request.mURL = String.ofList v.text) :
    StoresClientURL platform u request ↔
      u.IsClientText (v.undone
        ((request.mHeaders.lookup kRSRevHostHeader).map String.toList)) := by
  obtain ⟨sent, hread, hreads⟩ := hplatform.reads v.reference v.valid
  have hURL : (URLRequestFromRequest platform request).URL = some sent := by
    rw [← hread, ← show v.text = v.reference.text from rfl, ← hsent]
    rfl
  have hstored : dataFromRequestsDictionary.URLString platform
      (URLRequestFromRequest platform request) true =
        some (String.ofList (v.undone
          ((request.mHeaders.lookup kRSRevHostHeader).map String.toList))) := by
    unfold dataFromRequestsDictionary.URLString
    dsimp only
    rw [if_pos rfl, hURL, Option.map_some, Option.map_some,
      revURL_absoluteString hplatform hrefuses hreads]
    rfl
  unfold StoresClientURL
  rw [hstored]
  constructor
  · rintro ⟨text, htext, hclient⟩
    rwa [String.ofList_injective (Option.some.inj htext)]
  · exact fun hclient => ⟨_, rfl, hclient⟩

end Storing

section Sending

variable {platform : URLPlatform} {answers : ModelAnswers}
  {aRequest : NSURLRequest} {u : HostedURL} {url : ParsedURL}
  {aProtocolName : String} {request : Request}

theorem initWithRequest_eq
    (hmade : RSURLConnection.initWithRequest platform answers aProtocolName
      aRequest = .ok request) :
    ∃ newRequest,
      proccessRequest platform answers aRequest
          (aProtocolName == standardProtocolName) none = .ok newRequest ∧
        request.mURL = (((newRequest.getD nilRequest).URL).map
          ParsedURL.absoluteString).getD "" ∧
        request.mHeaders =
          (newRequest.getD nilRequest).allHTTPHeaderFields := by
  obtain ⟨newRequest, hprocessed, hmade⟩ := (Outcome.bind_eq_ok _ _ _).mp hmade
  obtain ⟨made, hrequest, hok⟩ := (Outcome.bind_eq_ok _ _ _).mp hmade
  obtain rfl := Except.ok.inj hok
  have hheaders := mHeaders_requestFromURLRequest hrequest
  refine ⟨newRequest, hprocessed, ?_, hheaders⟩
  unfold requestFromURLRequest at hrequest
  dsimp only at hrequest
  split at hrequest
  · obtain rfl := Except.ok.inj hrequest
    rfl
  · obtain ⟨rest, -, hrequest⟩ := (Outcome.bind_eq_ok _ _ _).mp hrequest
    obtain rfl := Except.ok.inj hrequest
    rfl

variable (hurl : aRequest.URL = some url) (hreads : url.Reads u.reference)

include hurl hreads

theorem lookup_recordedHeader
    (hmade : RSURLConnection.initWithRequest platform answers aProtocolName
      aRequest = .ok request)
    {v : HostedURL} (hsent : request.mURL = String.ofList v.text) :
    (request.mHeaders.lookup kRSRevHostHeader).map String.toList =
      recordedHeader answers aRequest u := by
  obtain ⟨newRequest, hprocessed, hURL, hfields⟩ := initWithRequest_eq hmade
  cases newRequest with
  | none =>
      have hnone : String.ofList v.text = "" := hsent.symm.trans hURL
      rw [String.ofList_eq_empty_iff] at hnone
      exact absurd hnone v.text_ne_nil
  | some newRequest =>
      rw [hfields, Option.getD_some,
        fields_of_processed hurl (HostedURL.host_of_reads hreads)
          u.name_ne_empty hprocessed, lookup_processedHeaders, recordedHeader]
      split
      · rfl
      · rw [Option.map_some, String.toList_ofList]

theorem storesClientURL_own_iff (hplatform : ReadsReferences platform)
    (hrefuses : RefusesOthers platform)
    (hmade : RSURLConnection.initWithRequest platform answers aProtocolName
      aRequest = .ok request)
    {v : HostedURL} (hv : v.reference = u.rewritten
      (answers.isDomainNameProvisioned (String.ofList u.name)) u.host)
    (hsent : request.mURL = String.ofList v.text) :
    StoresClientURL platform u request ↔
      u.Harmless (recordedHeader answers aRequest u) := by
  rw [storesClientURL_iff_undone hplatform hrefuses hsent,
    lookup_recordedHeader hurl hreads hmade hsent]
  refine HostedURL.undone_own_iff hv fun hnot => ?_
  rw [recordedHeader, hnot]
  rfl

theorem mURL_direct (hplatform : ReadsReferences platform)
    (hlower : u.scheme = "http".toList ∨ u.scheme = "https".toList)
    (hmade : RSURLConnection.initWithRequest platform answers aProtocolName
      aRequest = .ok request) (hdirect : aProtocolName ≠ standardProtocolName) :
    request.mURL = String.ofList
      (u.rewritten (answers.isDomainNameProvisioned (String.ofList u.name))
        u.host).text := by
  obtain ⟨newRequest, hprocessed, hURL, -⟩ := initWithRequest_eq hmade
  obtain ⟨sent, hsent, htext⟩ :=
    @comesOutAs_direct _ answers _ none _ _ hplatform hlower hurl hreads
  rw [beq_false_of_ne hdirect] at hprocessed
  obtain rfl := Except.ok.inj (hprocessed.symm.trans hsent)
  rw [hURL, Option.getD_some, htext]
  rfl

theorem sentToEdge_of_replaceable (hplatform : ReadsReferences platform)
    (hlower : u.scheme = "http".toList ∨ u.scheme = "https".toList)
    (hreplaceable : u.Replaceable answers.edgeHost.toList)
    (hmade : RSURLConnection.initWithRequest platform answers
      standardProtocolName aRequest = .ok request) :
    SentToEdge u (answers.isDomainNameProvisioned (String.ofList u.name))
      answers.edgeHost.toList request := by
  obtain ⟨hplain, hright⟩ := hreplaceable
  generalize hlist : answers.edgeHost.toList = edgeHost at hright ⊢
  have hedge : answers.edgeHost = String.ofList edgeHost := by
    rw [← hlist, String.ofList_toList]
  have hname : isHost edgeHost = true ∧ IsPlain edgeHost ∧ edgeHost ≠ [] := by
    rcases hright with rfl | ⟨-, hname⟩
    · exact ⟨u.isHost_host, hplain, u.host_ne_nil⟩
    · exact hname
  obtain ⟨hhost, hself, hnonempty⟩ := hname
  obtain ⟨newRequest, hprocessed, hURL, -⟩ := initWithRequest_eq hmade
  obtain ⟨sent, hsent, htext⟩ := (@comesOutAs_edge_iff_plain _ answers _ none _
    _ _ hplatform hlower hedge hurl hreads hhost).mpr
      ⟨hplain, hright.imp_right And.left⟩
  rw [beq_self_eq_true] at hprocessed
  obtain rfl := Except.ok.inj (hprocessed.symm.trans hsent)
  have hvalid : (u.rewritten (answers.isDomainNameProvisioned
      (String.ofList u.name)) edgeHost).Valid := HostedURL.valid_rewritten hhost
  have hnamed : (u.rewritten (answers.isDomainNameProvisioned
      (String.ofList u.name)) edgeHost).hostName = some edgeHost := by
    have hfilter : edgeHost.isEmpty = false := by simpa using hnonempty
    have hself : hostName edgeHost = some edgeHost := hself
    simp [Reference.hostName, HostedURL.rewritten, hself, hfilter]
  obtain ⟨v, hv, hvname⟩ := HostedURL.exists_of_reference hvalid rfl hnamed
  refine ⟨v, hv, hvname, ?_⟩
  rw [hURL, Option.getD_some, htext, ← hv]
  rfl

end Sending

section Recording

variable {platform : URLPlatform} {answers : ModelAnswers}
  {aRequest : NSURLRequest} {u : HostedURL} {url : ParsedURL}
  {aProtocolName : String} {mShouldSimulateErrors : Bool} {request : Request}
  {started connection : EdgeConnection} {calls : List ConnectionCall}
  {trail : List (EdgeConnection × EdgeEvent)}

theorem storesClientURL_request_iff (hplatform : ReadsReferences platform)
    (hrefuses : RefusesOthers platform)
    (hlower : u.scheme = "http".toList ∨ u.scheme = "https".toList)
    (hurl : aRequest.URL = some url) (hreads : url.Reads u.reference)
    (hmade : RSURLConnection.initWithRequest platform answers aProtocolName
      aRequest = .ok request)
    (hreplaceable : aProtocolName = standardProtocolName →
      u.Replaceable answers.edgeHost.toList) :
    StoresClientURL platform u request ↔
      u.Undoes (answers.isDomainNameProvisioned (String.ofList u.name))
        (aProtocolName == standardProtocolName) answers.edgeHost.toList
        (recordedHeader answers aRequest u) := by
  unfold HostedURL.Undoes
  rw [and_iff_right fun hstandard => hreplaceable (beq_iff_eq.mp hstandard)]
  by_cases hstandard : aProtocolName = standardProtocolName
  · obtain rfl := hstandard
    obtain ⟨v, hv, hname, hmURL⟩ := sentToEdge_of_replaceable hurl hreads
      hplatform hlower (hreplaceable rfl) hmade
    by_cases hother : answers.edgeHost.toList = u.host
    · rw [if_neg (by simp [hother])]
      exact storesClientURL_own_iff hurl hreads hplatform hrefuses hmade
        (hother ▸ hv) hmURL
    · rw [if_pos ⟨rfl, hother⟩,
        storesClientURL_iff_undone hplatform hrefuses hmURL,
        lookup_recordedHeader hurl hreads hmade hmURL]
      exact HostedURL.undone_sent_iff hv hname hother hlower
  · rw [if_neg (by simp [hstandard])]
    have hvalid : (u.rewritten (answers.isDomainNameProvisioned
        (String.ofList u.name)) u.host).Valid :=
      HostedURL.valid_rewritten u.isHost_host
    have hname : (u.rewritten (answers.isDomainNameProvisioned
        (String.ofList u.name)) u.host).hostName = some u.name :=
      u.hostName_reference
    obtain ⟨v, hv, -⟩ := HostedURL.exists_of_reference hvalid rfl hname
    refine storesClientURL_own_iff hurl hreads hplatform hrefuses hmade hv ?_
    rw [mURL_direct hurl hreads hplatform hlower hmade hstandard, ← hv]
    rfl

/--
In a run without redirections, the record has the URL of the client if the
rewrite can be undone, and where the processor replaces the host itself it has
it only then.
-/
theorem storesClientURL_iff_undoes (hplatform : ReadsReferences platform)
    (hrefuses : RefusesOthers platform)
    (hlower : u.scheme = "http".toList ∨ u.scheme = "https".toList)
    (hurl : aRequest.URL = some url) (hreads : url.Reads u.reference)
    (hmade : RSURLConnection.initWithRequest platform answers aProtocolName
      aRequest = .ok request)
    (hstarted : EdgeConnection.startWithRequest platform aProtocolName
      mShouldSimulateErrors request = .ok (started, calls))
    (path : (EdgeConnection.system platform started).Path (fun _ _ => True)
      trail connection) :
    let undoes := u.Undoes
      (answers.isDomainNameProvisioned (String.ofList u.name))
      (aProtocolName == standardProtocolName) answers.edgeHost.toList
      (recordedHeader answers aRequest u)
    (EventSystem.Obeys EdgeConnection.Unredirected trail ∧ undoes →
      StoresClientURL platform u connection.recordedRequest) ∧
    (EventSystem.Obeys EdgeConnection.Unredirected trail →
      (aProtocolName = standardProtocolName →
        u.Replaceable answers.edgeHost.toList) →
      StoresClientURL platform u connection.recordedRequest → undoes) := by
  constructor
  · rintro ⟨hsame, hundoes⟩
    rw [recordedRequest_eq hstarted path hsame]
    exact (storesClientURL_request_iff hplatform hrefuses hlower hurl hreads
      hmade fun hstandard => hundoes.1 (beq_iff_eq.mpr hstandard)).mpr hundoes
  · intro hsame hreplaceable hstores
    rw [recordedRequest_eq hstarted path hsame] at hstores
    exact (storesClientURL_request_iff hplatform hrefuses hlower hurl hreads
      hmade hreplaceable).mp hstores

end Recording

/-! ## A provisioned host and a repeated one -/

section Provisioned

def provisionedAnswers : ModelAnswers :=
  ({ operationMode := .kRSOperationModeInnerTransport
     domainsProvisionedList := ["shop.com"]
     edgeHost := "edge.net" } : Configuration).answers (fun _ => none) false
    "key"

/-- Without the header the edge host stays in the record. -/
theorem provisioned_storesEdgeHost :
    ∃ request,
      RSURLConnection.initWithRequest referencePlatform provisionedAnswers
          standardProtocolName (requestOf fullURL) = .ok request ∧
        dataFromRequestsDictionary.URLString referencePlatform
            (URLRequestFromRequest referencePlatform request) true =
          some "http://user@edge.net:8080/a?q#f" ∧
        ¬ fullURL.IsClientText "http://user@edge.net:8080/a?q#f".toList := by
  refine ⟨_, rfl, rfl, ?_⟩
  rintro ⟨isProvisioned, htext⟩
  revert htext
  cases isProvisioned <;> decide

def repeatedURL : HostedURL where
  scheme := "http".toList
  authority :=
    { userInfo := some "twice.com".toList
      host := "twice.com".toList }
  path := ['/']
  name := "twice.com".toList
  named := hostName_registered (by decide) (by decide)
  hosted := by decide
  valid := by decide

theorem repeatedHost_storesEdgeHost :
    ∃ request,
      RSURLConnection.initWithRequest referencePlatform edgeAnswers
          standardProtocolName (requestOf repeatedURL) = .ok request ∧
        dataFromRequestsDictionary.URLString referencePlatform
            (URLRequestFromRequest referencePlatform request) true =
          some "https://edge.net@twice.com/" ∧
        ¬ repeatedURL.IsClientText "https://edge.net@twice.com/".toList := by
  refine ⟨_, rfl, by decide +kernel, ?_⟩
  rintro ⟨isProvisioned, htext⟩
  revert htext
  cases isProvisioned <;> decide

theorem storesClientURL_iff_undoes_fullURL :
    ∃ request started calls,
      RSURLConnection.initWithRequest referencePlatform edgeAnswers
          standardProtocolName (requestOf fullURL) = .ok request ∧
        EdgeConnection.startWithRequest referencePlatform standardProtocolName
            false request = .ok (started, calls) ∧
        StoresClientURL referencePlatform fullURL started.recordedRequest := by
  have hmakes : ∃ request, RSURLConnection.initWithRequest referencePlatform
      edgeAnswers standardProtocolName (requestOf fullURL) = .ok request :=
    ⟨_, rfl⟩
  obtain ⟨request, hmade⟩ := hmakes
  have hstarts : ∃ started calls, EdgeConnection.startWithRequest
      referencePlatform standardProtocolName false request =
    .ok (started, calls) := ⟨_, _, rfl⟩
  obtain ⟨started, calls, hstarted⟩ := hstarts
  refine ⟨request, started, calls, hmade, hstarted, ?_⟩
  have hreplaceable : fullURL.Replaceable "edge.net".toList :=
    ⟨hostName_registered (by decide) (by decide), .inr ⟨by decide, by decide,
      hostName_registered (by decide) (by decide), by decide⟩⟩
  refine (storesClientURL_iff_undoes referencePlatform_reads
    referencePlatform_refusesOthers (.inl rfl) rfl (reads_readURL _) hmade
    hstarted (.start rfl)).1 ⟨EventSystem.obeys_nil _, fun _ => hreplaceable, ?_⟩
  exact (if_pos ⟨rfl, by decide⟩).mpr ⟨rfl, by decide, by decide⟩

end Provisioned

end RevSDK
