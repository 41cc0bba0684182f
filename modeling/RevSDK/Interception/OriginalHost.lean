import RevSDK.Connection.ConnectionProxy
import RevSDK.Interception.HostReplacement

/-!
# Redirections back to the original host

A redirection of a task to the edge host should go to the host that the client
asked for.  It is taken from the header `X-Rev-Host` of the original request,
which the processor sets only for a host that is not provisioned.
-/

namespace RevSDK

open RevSDK.Foundation

/-- The task of a request that was processed for the edge; a failure to start
is a call. -/
inductive StartedFor (platform : URLPlatform) (answers : ModelAnswers)
    (aRequest : NSURLRequest) (task : StandardTask) : Prop
  | intro (newRequest : NSURLRequest) (made request : Request)
      (base : Connection)
      (hprocessed : proccessRequest platform answers aRequest true none =
        .ok (some newRequest))
      (hmade : requestFromURLRequest newRequest = .ok made)
      (hfields : request.mHeaders = made.mHeaders)
      (hstarted : StandardConnection.startWithRequest platform base request =
        (task, []))

def StandardTask.system (platform : URLPlatform) (started : StandardTask) :
    EventSystem StandardTask TaskEvent where
  initial task := task = started
  step task event := (task.react platform event).toOption.map Prod.fst

/-- What is handed on is the proposed URL, with the host of the client for the
edge host. -/
def LeadsBack (platform : URLPlatform) (task : StandardTask)
    (edgeHost clientHost : String) (u : HostedURL) (request : NSURLRequest) :
    Prop :=
  if String.ofList u.name = edgeHost then
    ∃ url host,
      (task.restoreHost platform edgeHost request).URL = some url ∧
        hostName host = some clientHost.toList ∧
        url.Reads { u.reference with
          authority := some { u.authority with host := host } }
  else task.restoreHost platform edgeHost request = request

/-! ## The header of the original request -/

section Headers

variable {request : NSURLRequest} {value field name : String}

theorem lookup_otherFields (fields : List (String × String))
    (name field : String) :
    (fields.filter fun entry =>
        entry.1.toLower != field.toLower).lookup name =
      if name.toLower = field.toLower then none else fields.lookup name := by
  induction fields with
  | nil => simp
  | cons entry fields ih =>
      obtain ⟨other, content⟩ := entry
      rw [List.filter_cons]
      by_cases hname : name = other
      · subst hname
        by_cases hfield : name.toLower = field.toLower
        · simpa [hfield] using ih
        · simp [hfield]
      · have hcons : List.lookup name ((other, content) :: fields) =
            fields.lookup name := by
          simp [List.lookup_cons, beq_false_of_ne hname]
        rw [hcons, ← ih]
        split
        · simp [List.lookup_cons, beq_false_of_ne hname]
        · rfl

theorem lookup_setValue_self (request : NSURLRequest) (value field : String) :
    (request.setValue value field).allHTTPHeaderFields.lookup field =
      some value := by
  unfold NSURLRequest.setValue
  simp [List.lookup_append, lookup_otherFields]

theorem lookup_setValue_of_ne (request : NSURLRequest) (value : String)
    (hname : name.toLower ≠ field.toLower) :
    (request.setValue value field).allHTTPHeaderFields.lookup name =
      request.allHTTPHeaderFields.lookup name := by
  have hne : name ≠ field := fun h => hname (congrArg String.toLower h)
  unfold NSURLRequest.setValue
  simp [List.lookup_append, lookup_otherFields, hname, List.lookup_cons,
    beq_false_of_ne hne]

theorem lookup_processedHeaders (answers : ModelAnswers)
    (request : NSURLRequest) (host scheme : String) :
    (processedHeaders answers request host
        scheme).allHTTPHeaderFields.lookup kRSRevHostHeader =
      if answers.isDomainNameProvisioned host then
        request.allHTTPHeaderFields.lookup kRSRevHostHeader
      else some host := by
  have hhost : kRSRevHostHeader.toLower ≠ kRSHostHeader.toLower := by
    decide +kernel
  have hmethod : kRSRevHostHeader.toLower ≠ kRSRevMethodHeader.toLower := by
    decide +kernel
  unfold processedHeaders
  split
  · rw [lookup_setValue_of_ne _ _ hhost]
  · rw [lookup_setValue_of_ne _ _ hhost, lookup_setValue_of_ne _ _ hmethod,
      lookup_setValue_self]

end Headers

section Tasks

variable {platform : URLPlatform} {answers : ModelAnswers}
  {aRequest request : NSURLRequest} {started task : StandardTask}
  {clientURL url : ParsedURL} {clientHost edgeHost : String} {u : HostedURL}

theorem mHeaders_requestFromURLRequest {made : Request}
    (hmade : requestFromURLRequest request = .ok made) :
    made.mHeaders = request.allHTTPHeaderFields := by
  unfold requestFromURLRequest at hmade
  dsimp only at hmade
  split at hmade
  · obtain rfl := Except.ok.inj hmade
    rfl
  · obtain ⟨rest, -, hmade⟩ := (Outcome.bind_eq_ok _ _ _).mp hmade
    obtain rfl := Except.ok.inj hmade
    rfl

theorem fields_of_processed (hclient : aRequest.URL = some clientURL)
    (hhost : clientURL.host = some clientHost) (hname : clientHost ≠ "")
    {newRequest : NSURLRequest} {aIsEdge : Bool}
    (hprocessed : proccessRequest platform answers aRequest aIsEdge none =
      .ok (some newRequest)) :
    newRequest.allHTTPHeaderFields =
      (processedHeaders answers aRequest clientHost
        (clientURL.scheme.getD "")).allHTTPHeaderFields := by
  rw [proccessRequest_of_hosted hclient hhost hname] at hprocessed
  split at hprocessed
  · cases hprocessed
  · obtain ⟨urlStr, -, hsecure⟩ := (Outcome.bind_eq_ok _ _ _).mp hprocessed
    rw [secureURL_eq] at hsecure
    split at hsecure
    · obtain rfl := Option.some.inj (Except.ok.inj hsecure)
      rfl
    · cases hsecure

theorem originalHost_of_started (hclient : aRequest.URL = some clientURL)
    (hhost : clientURL.host = some clientHost) (hname : clientHost ≠ "")
    (hstarted : StartedFor platform answers aRequest task) :
    task.originalRequest.allHTTPHeaderFields.lookup kRSRevHostHeader =
      if answers.isDomainNameProvisioned clientHost then
        aRequest.allHTTPHeaderFields.lookup kRSRevHostHeader
      else some clientHost := by
  obtain ⟨newRequest, made, sent, base, hprocessed, hmade, hfields,
    hstarted⟩ := hstarted
  unfold StandardConnection.startWithRequest at hstarted
  dsimp only at hstarted
  split at hstarted
  · cases hstarted
  · obtain ⟨rfl, -⟩ := Prod.mk.inj hstarted
    have hsent : (URLRequestFromRequest platform sent).allHTTPHeaderFields =
        newRequest.allHTTPHeaderFields :=
      hfields.trans (mHeaders_requestFromURLRequest hmade)
    rw [hsent, fields_of_processed hclient hhost hname hprocessed,
      lookup_processedHeaders]

theorem react_originalRequest {event : TaskEvent} {task' : StandardTask}
    {calls : List ConnectionCall}
    (hreact : task.react platform event = .ok (task', calls)) :
    task'.originalRequest = task.originalRequest := by
  cases event with
  | willPerformHTTPRedirection edgeHost response request =>
      unfold StandardTask.react StandardTask.willPerformHTTPRedirection
        at hreact
      dsimp only at hreact
      split at hreact
      · obtain ⟨result, -, hok⟩ := (Outcome.bind_eq_ok _ _ _).mp hreact
        obtain ⟨rfl, -⟩ := Prod.mk.inj (Except.ok.inj hok)
        rfl
      · cases hreact
  | didReceiveData data =>
      have hpair : task.didReceiveData data = (task', calls) :=
        Except.ok.inj hreact
      unfold StandardTask.didReceiveData at hpair
      split at hpair <;>
      · obtain ⟨rfl, -⟩ := Prod.mk.inj hpair
        rfl
  | didReceiveResponse response =>
      have hpair : task.didReceiveResponse response = (task', calls) :=
        Except.ok.inj hreact
      unfold StandardTask.didReceiveResponse at hpair
      split at hpair <;>
      · obtain ⟨rfl, -⟩ := Prod.mk.inj hpair
        rfl
  | didCompleteWithError error now =>
      unfold StandardTask.react StandardTask.didCompleteWithError at hreact
      dsimp only at hreact
      split at hreact
      · obtain ⟨result, -, hok⟩ := (Outcome.bind_eq_ok _ _ _).mp hreact
        obtain ⟨rfl, -⟩ := Prod.mk.inj (Except.ok.inj hok)
        rfl
      · obtain ⟨rfl, -⟩ := Prod.mk.inj (Except.ok.inj hreact)
        rfl

theorem originalRequest_of_reachable
    {allowed : StandardTask → TaskEvent → Prop}
    (hreach : (StandardTask.system platform started).Reachable allowed task) :
    task.originalRequest = started.originalRequest := by
  refine hreach.invariant (fun task =>
    task.originalRequest = started.originalRequest) ?_ ?_
  · rintro _ rfl
    rfl
  · intro before event after hbefore _ hstep
    obtain ⟨⟨_, calls⟩, hresult, rfl⟩ := Option.map_eq_some_iff.mp hstep
    have hreact := (Outcome.toOption_eq_some _ _).mp hresult
    exact (react_originalRequest hreact).trans hbefore

/-! ## The restored host -/

theorem host_of_printed {r : Reference} {authority : Authority}
    {host : List Char} {name : String} (hname : name ≠ "")
    (hnamed : hostName host = some name.toList)
    (hreads : url.Reads { r with
      authority := some { authority with host := host } }) :
    url.host.filter (!·.isEmpty) = some name := by
  rw [hreads.host, Reference.hostName]
  simp [hnamed, hname]

theorem printed_iff (hprints : PrintsHost platform) (hname : clientHost ≠ "")
    (host : Option String) :
    ∃ components,
      platform.componentsWithString (String.ofList u.text) = some components ∧
      ((∃ url spelling,
          platform.URL { components with host := host } = some url ∧
            hostName spelling = some clientHost.toList ∧
            url.Reads { u.reference with
              authority := some { u.authority with host := spelling } }) ↔
        host = some clientHost) := by
  obtain ⟨components, hcomponents, hset, hempty⟩ :=
    hprints u.reference u.authority u.valid rfl
  refine ⟨components, hcomponents, ?_⟩
  constructor
  · rintro ⟨url, spelling, hurl, hnamed, hreads⟩
    have hclient := host_of_printed hname hnamed hreads
    cases hfilter : host.filter (!·.isEmpty) with
    | none =>
        rw [hempty host url hfilter hurl] at hclient
        cases hclient
    | some name =>
        obtain ⟨rfl, hsome⟩ := Option.filter_eq_some_iff.mp hfilter
        have hnonempty : name ≠ "" := by
          rintro rfl
          contradiction
        obtain ⟨other, url', -, hother, hurl', hreads'⟩ := hset name hnonempty
        obtain rfl := Option.some.inj (hurl.symm.trans hurl')
        exact (host_of_printed hnonempty hother hreads').symm.trans hclient
  · rintro rfl
    obtain ⟨spelling, url, -, hnamed, hurl, hreads⟩ := hset clientHost hname
    exact ⟨url, spelling, hurl, hnamed, hreads⟩

theorem leadsBack_edge_iff (hprints : PrintsHost platform)
    (hname : clientHost ≠ "") (hproposed : request.URL = some url)
    (hreads : url.Reads u.reference)
    (hedge : String.ofList u.name = edgeHost) :
    LeadsBack platform task edgeHost clientHost u request ↔
      task.originalRequest.allHTTPHeaderFields.lookup kRSRevHostHeader =
        some clientHost := by
  have habsolute : url.absoluteString = String.ofList u.text :=
    hreads.absoluteString
  have hhost : request.URL.bind ParsedURL.host = some edgeHost := by
    rw [hproposed, ← hedge]
    exact HostedURL.host_of_reads hreads
  obtain ⟨components, hcomponents, hprinted⟩ := @printed_iff platform
    clientHost u hprints hname
    (task.originalRequest.allHTTPHeaderFields.lookup kRSRevHostHeader)
  unfold LeadsBack StandardTask.restoreHost
  rw [if_pos hedge, if_pos hhost, ← hprinted]
  simp only [hproposed, Option.map_some, Option.bind_eq_bind,
    Option.bind_some, habsolute, hcomponents]

theorem leadsBack_elsewhere (hproposed : request.URL = some url)
    (hreads : url.Reads u.reference)
    (hedge : String.ofList u.name ≠ edgeHost) :
    LeadsBack platform task edgeHost clientHost u request := by
  have hhost : request.URL.bind ParsedURL.host =
      some (String.ofList u.name) := by
    rw [hproposed]
    exact HostedURL.host_of_reads hreads
  have hother : request.URL.bind ParsedURL.host ≠ some edgeHost := by
    rw [hhost]
    exact fun hsame => hedge (Option.some.inj hsame)
  rw [LeadsBack, if_neg hedge, StandardTask.restoreHost, if_neg hother]

/--
Redirections lead back to the host of the client exactly if they do not go to
the edge host, or if that header holds it: always for a host that is not
provisioned, and else only where the client has set the header itself.
-/
theorem leadsBack_iff (hprints : PrintsHost platform)
    (hclient : aRequest.URL = some clientURL)
    (hhost : clientURL.host = some clientHost) (hname : clientHost ≠ "")
    (hstarted : StartedFor platform answers aRequest started)
    {allowed : StandardTask → TaskEvent → Prop}
    (hreach : (StandardTask.system platform started).Reachable allowed task)
    (hproposed : request.URL = some url) (hreads : url.Reads u.reference)
    (edgeHost : String) :
    LeadsBack platform task edgeHost clientHost u request ↔
      String.ofList u.name ≠ edgeHost ∨
        answers.isDomainNameProvisioned clientHost = false ∨
        aRequest.allHTTPHeaderFields.lookup kRSRevHostHeader =
          some clientHost := by
  by_cases hedge : String.ofList u.name = edgeHost
  · rw [leadsBack_edge_iff hprints hname hproposed hreads hedge,
      originalRequest_of_reachable hreach,
      originalHost_of_started hclient hhost hname hstarted]
    cases answers.isDomainNameProvisioned clientHost <;> simp [hedge]
  · exact iff_of_true (leadsBack_elsewhere hproposed hreads hedge) (.inl hedge)

end Tasks

/-! ## A provisioned host and another -/

section Provisioned

def answersFor (provisioned : List String) : ModelAnswers :=
  ({ operationMode := .kRSOperationModeInnerTransport
     edgeHost := "edge.net"
     domainsProvisionedList := provisioned } : Configuration).answers
    (fun _ => none) false "key"

def siteURL : HostedURL where
  scheme := "http".toList
  authority := { host := "a.com".toList }
  path := "/".toList
  name := "a.com".toList
  named := hostName_registered (by decide) (by decide)
  hosted := by decide
  valid := by decide

def edgeURL : HostedURL where
  scheme := "https".toList
  authority := { host := "edge.net".toList }
  path := "/x".toList
  name := "edge.net".toList
  named := hostName_registered (by decide) (by decide)
  hosted := by decide
  valid := by decide

theorem siteTask_started (provisioned : List String)
    (hprovisioned : provisioned = [] ∨ provisioned = ["a.com"]) :
    ∃ task, StartedFor referencePlatform (answersFor provisioned)
      (requestOf siteURL) task := by
  rcases hprovisioned with rfl | rfl
  · exact ⟨_, _, _, _, {}, rfl, rfl, rfl, rfl⟩
  · exact ⟨_, _, _, _, {}, rfl, rfl, rfl, rfl⟩

theorem siteURL_host : (readURL siteURL.reference).host = some "a.com" :=
  HostedURL.host_of_reads (reads_readURL siteURL.reference)

/-- From `https://edge.net/x` a provisioned host is not found again. -/
theorem provisioned_not_led_back :
    ∃ task, StartedFor referencePlatform (answersFor ["a.com"])
        (requestOf siteURL) task ∧
      ¬ LeadsBack referencePlatform task "edge.net" "a.com" edgeURL
        (requestOf edgeURL) := by
  obtain ⟨task, hstarted⟩ := siteTask_started ["a.com"] (.inr rfl)
  refine ⟨task, hstarted, ?_⟩
  have hnone := originalHost_of_started rfl siteURL_host (by decide) hstarted
  have hedge : String.ofList edgeURL.name = "edge.net" := rfl
  rw [leadsBack_edge_iff referencePlatform_printsHost (by decide) rfl
    (reads_readURL _) hedge, hnone]
  decide

theorem leadsBack_iff_siteTask :
    ∃ task, StartedFor referencePlatform (answersFor []) (requestOf siteURL)
        task ∧
      LeadsBack referencePlatform task "edge.net" "a.com" edgeURL
        (requestOf edgeURL) := by
  obtain ⟨task, hstarted⟩ := siteTask_started [] (.inl rfl)
  refine ⟨task, hstarted, ?_⟩
  have hreach : (StandardTask.system referencePlatform task).Reachable
      (fun _ _ => True) task := .start rfl
  exact (leadsBack_iff referencePlatform_printsHost rfl siteURL_host
    (by decide) hstarted hreach rfl (reads_readURL _) "edge.net").mpr
    (.inr (.inl rfl))

end Provisioned

end RevSDK
