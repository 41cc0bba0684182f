import RevSDK.Connection.HostedURL
import RevSDK.Connection.QUICRequest

/-!
# The path of a request over QUIC

`requestFromURLRequest` and `decomposeURL` both take what stands behind the
first occurrence of the host in the text of a URL, and `p_startWithRequest`
sends that with a slash in front.  It should be the path and the query.
-/

namespace RevSDK

open RevSDK.Foundation

def slashed (rest : List Char) : List Char :=
  if rest.head? = some '/' then rest else '/' :: rest

def HostedURL.target (u : HostedURL) : List Char :=
  (if u.path = [] then ['/'] else u.path) ++ behind '?' u.query

/-- Whatever task is made of the request has the path. -/
def SendsPath (aRequest : Request) (path : List Char) : Prop :=
  ∀ memory task, QUICConnection.p_startWithRequest aRequest memory = .ok task →
    task.headers.lookup ":path" = some (String.ofList path)

/-- What is decomposed is the text of the URL, or is taken relative to a base
that makes it so. -/
inductive LeadsTo (platform : URLPlatform) (aBaseURL aURL : String)
    (u : HostedURL) : Prop
  | absolute (htext : aURL = String.ofList u.text)
  | relative (unresolved baseURL url : ParsedURL) (hnonempty : aURL ≠ "")
      (hread : platform.URLWithString aURL = some unresolved)
      (hrelative : unresolved.host = none ∨ unresolved.scheme = none)
      (hbase : platform.URLWithString aBaseURL = some baseURL)
      (hresolved : platform.initWithString_relativeToURL aURL baseURL =
        some url)
      (hreads : url.Reads u.reference)

/-- Both producers of what stands behind the host lead to the target, for
requests with these header fields. -/
def SendsTarget (platform : URLPlatform) (fields : List (String × String))
    (u : HostedURL) : Prop :=
  (∀ aURLRequest url, aURLRequest.URL = some url → url.Reads u.reference →
      aURLRequest.allHTTPHeaderFields = fields →
      ∃ request, requestFromURLRequest aURLRequest = .ok request ∧
        SendsPath request u.target) ∧
    ∀ aBaseURL aURL, LeadsTo platform aBaseURL aURL u →
      ∃ parts, decomposeURL platform aBaseURL aURL = .ok (some parts) ∧
        ∀ request : Request, request.mHeaders = fields →
          request.mRest = parts.aPath → SendsPath request u.target

def HostedURL.FindsTarget (u : HostedURL) : Prop :=
  if IsPlain u.host then
    ¬ u.Early ∧ u.authority.port = none ∧ u.fragment = none
  else literalAddress u.host = none ∧
    ∃ rest ∈ u.behindName, slashed rest = u.target

/-- A field `:path` of the request itself replaces the path. -/
def TargetFits (fields : List (String × String)) (u : HostedURL) : Prop :=
  match fields.reverse.lookup ":path" with
  | none => u.FindsTarget
  | some path => path = String.ofList u.target ∧ u.behindName.isSome = true

/-! ## The header field -/

theorem sendsPath_iff (aRequest : Request) (path : List Char) :
    SendsPath aRequest path ↔
      (aRequest.mHeaders.reverse.lookup ":path").getD
        (QUICConnection.sentPath aRequest.mRest) = String.ofList path := by
  rw [← Option.some.injEq, ← lookup_headerBlock_path]
  constructor
  · intro hsends
    obtain ⟨body, hbody⟩ : ∃ body,
        StringPiece.ofBody aRequest.mBody [0] = .ok body := by
      unfold StringPiece.ofBody StringPiece.strlen
      split
      · exact ⟨_, rfl⟩
      · rw [if_pos (by simp)]
        exact ⟨_, rfl⟩
    refine hsends [0] ⟨_, body⟩ ?_
    rw [p_startWithRequest_eq, hbody]
    rfl
  · intro hlookup memory task htask
    rw [p_startWithRequest_eq] at htask
    cases hbody : StringPiece.ofBody aRequest.mBody memory with
    | error fault =>
        rw [hbody] at htask
        cases htask
    | ok body =>
        rw [hbody] at htask
        obtain rfl := Except.ok.inj htask
        exact hlookup

theorem sentPath_ofList (rest : List Char) :
    QUICConnection.sentPath (String.ofList rest) =
      String.ofList (slashed rest) := by
  have hempty : (String.ofList rest).isEmpty = rest.isEmpty := by
    rw [Bool.eq_iff_iff, String.isEmpty_iff, String.ofList_eq_empty_iff,
      List.isEmpty_iff]
  unfold QUICConnection.sentPath slashed
  rw [hempty, String.toList_ofList]
  cases rest with
  | nil => rfl
  | cons first rest =>
      by_cases hslash : first = '/'
      · simp [hslash]
      · simp [hslash]

/-! ## Both producers -/

section Producers

variable {platform : URLPlatform} {u : HostedURL} {url : ParsedURL}

def SentFor (fields : List (String × String)) (u : HostedURL) : Prop :=
  ∃ rest ∈ u.behindName,
    (fields.reverse.lookup ":path").getD (String.ofList (slashed rest)) =
      String.ofList u.target

theorem request_sendsPath_iff {aURLRequest : NSURLRequest}
    (hurl : aURLRequest.URL = some url) (hreads : url.Reads u.reference) :
    (∃ request, requestFromURLRequest aURLRequest = .ok request ∧
        SendsPath request u.target) ↔
      SentFor aURLRequest.allHTTPHeaderFields u := by
  have habsolute : url.absoluteString = String.ofList u.text :=
    hreads.absoluteString
  unfold requestFromURLRequest SentFor
  simp only [hurl, Option.map_some, Option.bind_some, Option.getD_some,
    HostedURL.host_of_reads hreads, habsolute, HostedURL.restAfterHost_eq]
  cases u.behindName with
  | none => simp
  | some rest =>
      have hsent : QUICConnection.sentPath
          (if rest = [] then "/" else String.ofList rest) =
            String.ofList (slashed rest) := by
        split
        next hempty =>
          rw [hempty]
          rfl
        next => exact sentPath_ofList rest
      simp [sendsPath_iff, hsent, pure, Except.pure]

def partsPath (rest : List Char) : List Char :=
  if rest = [] then [] else slashed rest

theorem partsOfURL_eq (u : HostedURL) :
    partsOfURL (String.ofList u.text) (String.ofList u.name)
        (String.ofList u.scheme) =
      match u.behindName with
      | none => .error (.exceptionRaised "NSRangeException")
      | some rest => .ok (some ⟨String.ofList u.name,
          String.ofList (partsPath rest), String.ofList u.scheme⟩) := by
  unfold partsOfURL
  rw [HostedURL.restAfterHost_eq]
  cases u.behindName with
  | none => rfl
  | some rest =>
      cases rest with
      | nil => rfl
      | cons first rest =>
          by_cases hslash : first = '/'
          · simp [partsPath, slashed, hslash, pure, Except.pure]
          · simp [partsPath, slashed, hslash, pure, Except.pure]

theorem parts_sendsPath_iff (fields : List (String × String)) :
    (∃ parts, partsOfURL (String.ofList u.text) (String.ofList u.name)
          (String.ofList u.scheme) = .ok (some parts) ∧
        ∀ request : Request, request.mHeaders = fields →
          request.mRest = parts.aPath → SendsPath request u.target) ↔
      SentFor fields u := by
  unfold SentFor
  rw [partsOfURL_eq]
  cases u.behindName with
  | none => simp
  | some rest =>
      have hsent : QUICConnection.sentPath (String.ofList (partsPath rest)) =
          String.ofList (slashed rest) := by
        rw [sentPath_ofList]
        cases rest with
        | nil => rfl
        | cons first rest =>
            by_cases hslash : first = '/'
            · simp [partsPath, slashed, hslash]
            · simp [partsPath, slashed, hslash]
      constructor
      · rintro ⟨parts, hparts, hsends⟩
        obtain rfl := Option.some.inj (Except.ok.inj hparts)
        have hrequest := hsends
          { mMethod := "GET", mOriginalURL := "", mURL := ""
            mHeaders := fields, mBody := ⟨[]⟩
            mRest := String.ofList (partsPath rest) } rfl rfl
        rw [sendsPath_iff, hsent] at hrequest
        exact ⟨rest, rfl, hrequest⟩
      · rintro ⟨rest', hrest, htarget⟩
        obtain rfl := Option.some.inj hrest
        refine ⟨_, rfl, fun request hfields hpath => ?_⟩
        rw [sendsPath_iff, hfields, hpath, hsent]
        exact htarget

theorem decomposeURL_of_leadsTo (hplatform : ReadsReferences platform)
    {aBaseURL aURL : String} (hleads : LeadsTo platform aBaseURL aURL u) :
    decomposeURL platform aBaseURL aURL =
      partsOfURL (String.ofList u.text) (String.ofList u.name)
        (String.ofList u.scheme) := by
  have hnonempty : (String.ofList u.text).isEmpty = false := by
    rw [← Bool.not_eq_true, String.isEmpty_iff, String.ofList_eq_empty_iff,
      HostedURL.text_eq]
    simp [u.host_ne_nil]
  cases hleads with
  | absolute htext =>
      obtain ⟨url, hread, hreads⟩ := hplatform.reads u.reference u.valid
      subst htext
      unfold decomposeURL
      rw [hnonempty, if_neg (by decide)]
      have hread : platform.URLWithString (String.ofList u.text) = some url :=
        hread
      simp only [hread, HostedURL.host_of_reads hreads, hreads.scheme,
        HostedURL.reference, Option.map_some]
  | relative unresolved baseURL url haURL hread hrelative hbase hresolved
      hreads =>
      have haURL : aURL.isEmpty = false := by
        rw [← Bool.not_eq_true, String.isEmpty_iff]
        exact haURL
      have habsolute : url.absoluteString = String.ofList u.text :=
        hreads.absoluteString
      unfold decomposeURL
      rw [haURL, if_neg (by decide), hread]
      dsimp only
      split
      next host scheme hhost hscheme => simp [hhost, hscheme] at hrelative
      next =>
        simp only [hbase, hresolved, HostedURL.host_of_reads hreads,
          hreads.scheme, HostedURL.reference, Option.map_some, habsolute]

end Producers

/-! ## When the target is found -/

theorem length_le_slashed (rest : List Char) :
    rest.length ≤ (slashed rest).length := by
  unfold slashed
  split <;> simp

namespace HostedURL

variable (u : HostedURL)

theorem path_head : u.path = [] ∨ u.path.head? = some '/' := by
  simpa [Reference.pathFits] using u.valid.fits

theorem length_target :
    u.target.length ≤ u.path.length + (behind '?' u.query).length + 1 := by
  unfold target
  split
  · simp only [List.length_append, List.length_singleton]
    omega
  · simp only [List.length_append]
    omega

theorem slashed_tail (hport : u.authority.port = none) :
    slashed u.tail = u.target ++ behind '#' u.fragment := by
  unfold tail target
  rw [hport]
  rcases u.path_head with hpath | hpath
  · rw [hpath]
    cases u.query with
    | some query => simp [behind, slashed]
    | none => cases u.fragment <;> simp [behind, slashed]
  · have hnonempty : u.path ≠ [] := by
      rintro hnil
      simp [hnil] at hpath
    have hhead : (u.path ++ behind '?' u.query ++
        behind '#' u.fragment).head? = some '/' := by
      simp [List.head?_append, hpath]
    simp only [behind, List.nil_append, if_neg hnonempty] at hhead ⊢
    exact if_pos hhead

theorem slashed_tail_of_port {port : List Char}
    (hport : u.authority.port = some port) :
    u.target.length < (slashed u.tail).length := by
  have hhead : u.tail.head? = some ':' := by
    simp [tail, hport, behind]
  have hlength := u.length_target
  have htail : u.path.length + (behind '?' u.query).length <
      u.tail.length := by
    simp only [tail, hport, behind, List.length_append, List.length_cons]
    omega
  rw [slashed, hhead, if_neg (by decide), List.length_cons]
  omega

theorem slashed_tail_eq_target_iff :
    slashed u.tail = u.target ↔
      u.authority.port = none ∧ u.fragment = none := by
  cases hport : u.authority.port with
  | some port =>
      have hlong := u.slashed_tail_of_port hport
      simp only [reduceCtorEq, false_and, iff_false]
      intro hsame
      rw [hsame] at hlong
      omega
  | none =>
      rw [u.slashed_tail hport, List.append_right_eq_self]
      cases u.fragment <;> simp [behind]

theorem length_tail :
    u.path.length + (behind '?' u.query).length ≤ u.tail.length := by
  simp only [tail, List.length_append]
  omega

theorem length_of_slashed (rest : List Char)
    (htarget : slashed rest = u.target) :
    rest.length < u.tail.length + 2 := by
  have hslashed := length_le_slashed rest
  have hshort := u.length_target
  have htail := u.length_tail
  rw [htarget] at hslashed
  omega

theorem slashed_bracket_ne : slashed (']' :: u.tail) ≠ u.target := by
  intro htarget
  have hshort := u.length_target
  have htail := u.length_tail
  have hlength := congrArg List.length htarget
  rw [slashed, if_neg (by simp)] at hlength
  simp only [List.length_cons] at hlength
  omega

theorem findsTarget_iff :
    (∃ rest ∈ u.behindName, slashed rest = u.target) ↔ u.FindsTarget := by
  unfold FindsTarget
  split
  next hplain =>
    rw [u.plain_finds_iff u.length_of_slashed hplain,
      u.slashed_tail_eq_target_iff]
  next =>
    cases hliteral : literalAddress u.host with
    | none => simp
    | some address =>
        simp only [reduceCtorEq, false_and, iff_false]
        exact fun hfinds => u.slashed_bracket_ne
          (u.literal_finds u.length_of_slashed hliteral hfinds)

theorem sentFor_iff (fields : List (String × String)) :
    SentFor fields u ↔ TargetFits fields u := by
  unfold SentFor TargetFits
  cases fields.reverse.lookup ":path" with
  | none =>
      simp only [Option.getD_none, String.ofList_inj]
      exact u.findsTarget_iff
  | some path =>
      simp only [Option.getD_some]
      cases u.behindName <;> simp

end HostedURL

section Target

variable {platform : URLPlatform} {u : HostedURL}

/--
The target is sent exactly if the host stands plainly where it occurs first and
neither a port nor a fragment follows it.  The text behind the name of an
escaped host has to be the target itself.
-/
theorem sendsTarget_iff (hplatform : ReadsReferences platform)
    (fields : List (String × String)) (u : HostedURL) :
    SendsTarget platform fields u ↔ TargetFits fields u := by
  rw [← u.sentFor_iff]
  constructor
  · rintro ⟨hrequest, -⟩
    have hreads := reads_readURL u.reference
    exact (request_sendsPath_iff rfl hreads).mp
      (hrequest ⟨some (readURL u.reference), "GET", fields, ⟨[]⟩⟩ _ rfl hreads
        rfl)
  · intro hsent
    refine ⟨?_, ?_⟩
    · rintro aURLRequest url hurl hreads rfl
      exact (request_sendsPath_iff hurl hreads).mpr hsent
    · intro aBaseURL aURL hleads
      rw [decomposeURL_of_leadsTo hplatform hleads]
      exact (parts_sendsPath_iff fields).mpr hsent

end Target

/-! ## With and without a port -/

section Ports

def portURL : HostedURL where
  scheme := "http".toList
  authority := { host := "example.com".toList, port := some "8080".toList }
  path := "/a".toList
  name := "example.com".toList
  named := hostName_registered (by decide) (by decide)
  hosted := by decide
  valid := by decide

/-- For `http://example.com:8080/a` the path `/:8080/a` is sent. -/
theorem portURL_target_not_sent :
    ¬ SendsTarget referencePlatform [] portURL := by
  rintro ⟨hrequest, -⟩
  have hreads := reads_readURL portURL.reference
  obtain ⟨rest, hrest, hsame⟩ := (request_sendsPath_iff rfl hreads).mp
    (hrequest ⟨some (readURL portURL.reference), "GET", [], ⟨[]⟩⟩ _ rfl hreads
      rfl)
  have hbehind : portURL.behindName = some ":8080/a".toList := by decide
  obtain rfl := Option.some.inj (hbehind.symm.trans hrest)
  revert hsame
  decide

def queryURL : HostedURL where
  scheme := "https".toList
  authority := { host := "example.com".toList }
  query := some "q".toList
  name := "example.com".toList
  named := hostName_registered (by decide) (by decide)
  hosted := by decide
  valid := by decide

theorem sendsTarget_iff_queryURL :
    SendsTarget referencePlatform [] queryURL := by
  refine (sendsTarget_iff referencePlatform_reads [] queryURL).mpr ?_
  have hplain : IsPlain queryURL.host :=
    hostName_registered (by decide) (by decide)
  show queryURL.FindsTarget
  rw [HostedURL.FindsTarget, if_pos hplain]
  exact ⟨by decide, rfl, rfl⟩

end Ports

end RevSDK
