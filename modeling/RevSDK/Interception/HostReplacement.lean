import RevSDK.Connection.HostedURL
import RevSDK.Interception.AcceptedRequests

/-!
# The edge rewrite

The processor should replace the host of a URL and, where the host is not
provisioned, make its scheme `https`.  It replaces the first occurrence of the
name of the host in the text instead.
-/

namespace RevSDK

open RevSDK.Foundation

def HostedURL.rewritten (u : HostedURL) (isProvisioned : Bool)
    (host : List Char) : Reference :=
  { u.reference with
    scheme := some (if isProvisioned then u.scheme else "https".toList)
    authority := some { u.authority with host := host } }

def ComesOutAs (platform : URLPlatform) (answers : ModelAnswers)
    (aRequest : NSURLRequest) (aIsEdge : Bool) (aBaseURL : Option ParsedURL)
    (r : Reference) : Prop :=
  ∃ newRequest,
    proccessRequest platform answers aRequest aIsEdge aBaseURL =
        .ok (some newRequest) ∧
      newRequest.URL.map ParsedURL.absoluteString = some (String.ofList r.text)

/-- To the edge only the host and the scheme change, past it the scheme. -/
def ReplacesHostOnly (platform : URLPlatform) (answers : ModelAnswers)
    (aRequest : NSURLRequest) (aBaseURL : Option ParsedURL) (u : HostedURL)
    (edgeHost : List Char) : Prop :=
  let isProvisioned := answers.isDomainNameProvisioned (String.ofList u.name)
  ComesOutAs platform answers aRequest true aBaseURL
      (u.rewritten isProvisioned edgeHost) ∧
    ComesOutAs platform answers aRequest false aBaseURL
      (u.rewritten isProvisioned u.host)

/-! ## The text over TLS -/

section Securing

variable {isProvisioned : Bool} {text other : List Char}

theorem securedText_cases
    (hbegins : hasPrefix (String.ofList text) "http" = true) :
    securedText isProvisioned (String.ofList text) = String.ofList text ∨
      ∃ rest, text = "http".toList ++ rest ∧
        securedText isProvisioned (String.ofList text) =
          String.ofList ("https".toList ++ rest) := by
  simp only [hasPrefix, List.isPrefixOf_iff_prefix,
    String.toList_ofList] at hbegins
  obtain ⟨rest, rfl⟩ := hbegins
  unfold securedText
  split
  · exact .inl rfl
  · exact .inr ⟨rest, rfl, by simp only [String.toList_ofList]; rfl⟩

theorem length_securedText
    (hbegins : hasPrefix (String.ofList text) "http" = true) :
    text.length ≤
        (securedText isProvisioned (String.ofList text)).toList.length ∧
      (securedText isProvisioned (String.ofList text)).toList.length ≤
        text.length + 1 := by
  rcases @securedText_cases isProvisioned text hbegins with
    hkept | ⟨rest, rfl, hsecured⟩
  · simp [hkept]
  · rw [hsecured, String.toList_ofList]
    simp

theorem securedText_injective (hlength : text.length = other.length)
    (hbegins : hasPrefix (String.ofList text) "http" = true)
    (hother : hasPrefix (String.ofList other) "http" = true)
    (hsecured : securedText isProvisioned (String.ofList text) =
      securedText isProvisioned (String.ofList other)) : text = other := by
  rcases @securedText_cases isProvisioned text hbegins with
    hkept | ⟨rest, rfl, hchanged⟩ <;>
  rcases @securedText_cases isProvisioned other hother with
    hkept' | ⟨rest', rfl, hchanged'⟩
  · rw [hkept, hkept'] at hsecured
    exact String.ofList_injective hsecured
  · rw [hkept, hchanged'] at hsecured
    have hsame := String.ofList_injective hsecured
    simp [hsame] at hlength
  · rw [hchanged, hkept'] at hsecured
    have hsame := String.ofList_injective hsecured
    simp [← hsame] at hlength
  · rw [hchanged, hchanged'] at hsecured
    have hsame := String.ofList_injective hsecured
    rw [List.append_cancel_left hsame]

theorem secured_eq_iff
    (hother : hasPrefix (String.ofList other) "http" = true)
    (hlength : text.length = other.length ∨ other.length + 2 ≤ text.length) :
    (hasPrefix (String.ofList text) "http" = true ∧
        securedText isProvisioned (String.ofList text) =
          securedText isProvisioned (String.ofList other)) ↔
      text = other := by
  constructor
  · rintro ⟨hbegins, hsecured⟩
    rcases hlength with hsame | hlong
    · exact securedText_injective hsame hbegins hother hsecured
    · have hfrom := (@length_securedText isProvisioned text hbegins).1
      have hto := (@length_securedText isProvisioned other hother).2
      rw [hsecured] at hfrom
      omega
  · rintro rfl
    exact ⟨hother, rfl⟩

end Securing

namespace HostedURL

variable {u : HostedURL} {isProvisioned : Bool} {host : List Char}

theorem valid_rewritten (hhost : isHost host = true) :
    (u.rewritten isProvisioned host).Valid := by
  have hscheme : isScheme
      (if isProvisioned then u.scheme else "https".toList) = true := by
    cases isProvisioned with
    | true => exact u.isScheme_scheme
    | false => exact show isScheme "https".toList = true by decide
  exact (u.valid.withHost rfl hhost).withScheme hscheme

theorem length_replaced (host : List Char) {place : Nat}
    (hplace : findFirst u.name u.text = some place) :
    let replaced := replaceAt u.text place u.name host
    let asked := u.front ++ host ++ u.tail
    IsPlain u.host ∧ replaced.length = asked.length ∨
      ¬ IsPlain u.host ∧ asked.length + 2 ≤ replaced.length := by
  have hlength := length_replaceAt host hplace
  rw [text_eq] at hlength ⊢
  simp only [List.length_append] at hlength ⊢
  by_cases hplain : IsPlain u.host
  · rw [u.isPlain_iff.mp hplain] at hlength ⊢
    exact .inl ⟨hplain, by omega⟩
  · have hshort := u.length_name_of_not_plain hplain
    exact .inr ⟨hplain, by omega⟩

theorem replaced_in_place :
    replaceAt u.text u.front.length u.host host =
      u.front ++ host ++ u.tail := by
  rw [text_eq, replaceAt_append]

theorem replaced_of_early (hplain : IsPlain u.host) (hearly : u.Early)
    (hhost : isHost host = true) : ∃ place,
    findFirst u.host u.text = some place ∧
      (replaceAt u.text place u.host host = u.front ++ host ++ u.tail ↔
        host = u.host) := by
  obtain ⟨before, after, delimiter, rest, hfront, hdelimiter, hafter,
    hplace⟩ := findFirst_early hplain hearly
  have htext : u.text = before ++ u.host ++
      (after ++ delimiter :: (rest ++ u.host ++ u.tail)) := by
    simp [text_eq, hfront]
  refine ⟨before.length, hplace, ?_⟩
  rw [htext, replaceAt_append, hfront]
  constructor
  · intro hsame
    have hnew : delimiter ∉ host ++ after := by
      simp [notMem_of_isHost hhost hdelimiter, hafter]
    have hold : delimiter ∉ u.host ++ after := by
      simp [notMem_of_isHost u.isHost_host hdelimiter, hafter]
    simp only [List.append_assoc, List.append_cancel_left_eq,
      List.cons_append] at hsame
    -- both texts are cut at the first delimiter behind the occurrence
    have hcut := congrArg (cut delimiter) hsame
    rw [← List.append_assoc, cut_append hnew, ← List.append_assoc u.host,
      cut_append hold] at hcut
    exact List.append_cancel_right (congrArg Prod.fst hcut)
  · rintro rfl
    simp

theorem replaced_eq_iff (hhost : isHost host = true) :
    (∃ place, findFirst u.name u.text = some place ∧
        replaceAt u.text place u.name host = u.front ++ host ++ u.tail) ↔
      IsPlain u.host ∧ (host = u.host ∨ ¬ u.Early) := by
  constructor
  · rintro ⟨place, hplace, hreplaced⟩
    have hplain : IsPlain u.host := by
      rcases length_replaced host hplace with ⟨hplain, -⟩ | ⟨-, hlong⟩
      · exact hplain
      · rw [hreplaced] at hlong
        omega
    refine ⟨hplain, or_iff_not_imp_right.mpr fun hearly => ?_⟩
    obtain ⟨early, hfirst, hsame⟩ :=
      replaced_of_early hplain (not_not.mp hearly) hhost
    rw [u.isPlain_iff.mp hplain] at hplace hreplaced
    obtain rfl := Option.some.inj (hplace.symm.trans hfirst)
    exact hsame.mp hreplaced
  · rintro ⟨hplain, hright⟩
    rw [u.isPlain_iff.mp hplain]
    by_cases hearly : u.Early
    · obtain ⟨place, hplace, hsame⟩ := replaced_of_early hplain hearly hhost
      exact ⟨place, hplace,
        hsame.mpr (hright.resolve_right (not_not.mpr hearly))⟩
    · exact ⟨_, findFirst_host hplain hearly, replaced_in_place⟩

variable (hlower : u.scheme = "http".toList ∨ u.scheme = "https".toList)

include hlower

theorem hasPrefix_front (rest : List Char) :
    hasPrefix (String.ofList (u.front ++ rest)) "http" = true := by
  rcases hlower with hscheme | hscheme <;> simp [hasPrefix, front, hscheme]

theorem securedText_replaced :
    securedText isProvisioned (String.ofList (u.front ++ host ++ u.tail)) =
      String.ofList (u.rewritten isProvisioned host).text := by
  rcases hlower with hscheme | hscheme <;> cases isProvisioned <;>
    simp [securedText, hasPrefix, front, tail, hscheme, rewritten, reference,
      Reference.text, Reference.authorityText, Authority.text, ahead]

end HostedURL

section Processing

variable {platform : URLPlatform} {answers : ModelAnswers}
  {aRequest : NSURLRequest} {aBaseURL : Option ParsedURL} {u : HostedURL}
  {url : ParsedURL} {host edgeHost : List Char}
  (hplatform : ReadsReferences platform)
  (hlower : u.scheme = "http".toList ∨ u.scheme = "https".toList)
  (hedge : answers.edgeHost = String.ofList edgeHost)
  (hurl : aRequest.URL = some url) (hreads : url.Reads u.reference)

include hplatform hlower hurl hreads

theorem comesOutAs_iff (hhost : isHost host = true) (aIsEdge : Bool) :
    ComesOutAs platform answers aRequest aIsEdge aBaseURL
        (u.rewritten
          (answers.isDomainNameProvisioned (String.ofList u.name)) host) ↔
      ∃ urlStr,
        hostedText answers url (String.ofList u.name) aIsEdge = .ok urlStr ∧
          hasPrefix urlStr "http" = true ∧
          securedText (answers.isDomainNameProvisioned (String.ofList u.name))
              urlStr =
            securedText (answers.isDomainNameProvisioned (String.ofList u.name))
              (String.ofList (u.front ++ host ++ u.tail)) := by
  have hscheme : isValidScheme url.scheme = true := by
    rw [isValidScheme_iff, hreads.scheme]
    rcases hlower with h | h <;> simp [HostedURL.reference, h]
  unfold ComesOutAs
  rw [proccessRequest_of_hosted hurl (HostedURL.host_of_reads hreads)
      u.name_ne_empty, hscheme, HostedURL.securedText_replaced hlower]
  simp only [Bool.not_true, Bool.false_eq_true, if_false]
  constructor
  · rintro ⟨newRequest, hprocessed, htext⟩
    obtain ⟨urlStr, hurlStr, hsecure⟩ :=
      (Outcome.bind_eq_ok _ _ _).mp hprocessed
    rw [secureURL_eq] at hsecure
    split at hsecure
    next hbegins =>
      obtain rfl := Option.some.inj (Except.ok.inj hsecure)
      obtain ⟨newURL, hnew, habsolute⟩ := Option.map_eq_some_iff.mp htext
      rw [hplatform.keeps _ _ hnew] at habsolute
      exact ⟨urlStr, hurlStr, hbegins, habsolute⟩
    next => cases hsecure
  · rintro ⟨urlStr, hurlStr, hbegins, hsecured⟩
    obtain ⟨newURL, hnew, hnewReads⟩ := hplatform.reads
      (u.rewritten (answers.isDomainNameProvisioned (String.ofList u.name))
        host) (HostedURL.valid_rewritten hhost)
    let newRequest := processedHeaders answers aRequest
      (String.ofList u.name) (url.scheme.getD "")
    refine ⟨{ newRequest with URL := some newURL },
      (Outcome.bind_eq_ok _ _ _).mpr ⟨urlStr, hurlStr, ?_⟩, ?_⟩
    · rw [secureURL_eq, if_pos hbegins, hsecured, hnew]
    · simp [hnewReads.absoluteString]

theorem comesOutAs_direct :
    ComesOutAs platform answers aRequest false aBaseURL
      (u.rewritten (answers.isDomainNameProvisioned (String.ofList u.name))
        u.host) := by
  rw [comesOutAs_iff hplatform hlower hurl hreads u.isHost_host]
  have htext : url.absoluteString =
      String.ofList (u.front ++ u.host ++ u.tail) := by
    rw [hreads.absoluteString, ← HostedURL.text_eq]
    rfl
  refine ⟨_, rfl, ?_, by rw [htext]⟩
  rw [htext, List.append_assoc]
  exact HostedURL.hasPrefix_front hlower _

include hedge

theorem comesOutAs_edge_iff (hhost : isHost edgeHost = true) :
    ComesOutAs platform answers aRequest true aBaseURL
        (u.rewritten
          (answers.isDomainNameProvisioned (String.ofList u.name)) edgeHost) ↔
      ∃ place, findFirst u.name u.text = some place ∧
        let replaced := replaceAt u.text place u.name edgeHost
        hasPrefix (String.ofList replaced) "http" = true ∧
          securedText (answers.isDomainNameProvisioned (String.ofList u.name))
              (String.ofList replaced) =
            securedText (answers.isDomainNameProvisioned (String.ofList u.name))
              (String.ofList (u.front ++ edgeHost ++ u.tail)) := by
  have hrange : rangeOfString url.absoluteString (String.ofList u.name) =
      findFirst u.name u.text := by
    rw [hreads.absoluteString, rangeOfString, String.toList_ofList,
      String.toList_ofList]
    rfl
  have hedgeText (place : Nat) :
      edgeText url.absoluteString (String.ofList u.name) answers.edgeHost
        place = String.ofList (replaceAt u.text place u.name edgeHost) := by
    rw [edgeText, hreads.absoluteString, hedge]
    simp only [String.toList_ofList]
    rfl
  rw [comesOutAs_iff hplatform hlower hurl hreads hhost]
  constructor
  · rintro ⟨urlStr, hurlStr, hbegins, hsecured⟩
    obtain ⟨place, hplace, rfl⟩ := replaced_eq_ok_iff.mp hurlStr
    rw [hedgeText] at hbegins hsecured
    exact ⟨place, hrange ▸ hplace, hbegins, hsecured⟩
  · rintro ⟨place, hplace, hbegins, hsecured⟩
    refine ⟨_, replaced_eq_ok_iff.mpr ⟨place, hrange ▸ hplace, rfl⟩, ?_, ?_⟩
    · rwa [hedgeText]
    · rwa [hedgeText]

theorem comesOutAs_edge_iff_plain (hhost : isHost edgeHost = true) :
    ComesOutAs platform answers aRequest true aBaseURL
        (u.rewritten
          (answers.isDomainNameProvisioned (String.ofList u.name)) edgeHost) ↔
      IsPlain u.host ∧ (edgeHost = u.host ∨ ¬ u.Early) := by
  rw [comesOutAs_edge_iff hplatform hlower hedge hurl hreads hhost]
  have hasked : hasPrefix (String.ofList (u.front ++ edgeHost ++ u.tail))
      "http" = true := by
    rw [List.append_assoc]
    exact HostedURL.hasPrefix_front hlower _
  rw [← HostedURL.replaced_eq_iff hhost]
  refine exists_congr fun place => and_congr_right fun hplace => ?_
  refine secured_eq_iff hasked ?_
  rcases HostedURL.length_replaced edgeHost hplace with
    ⟨-, hsame⟩ | ⟨-, hlong⟩
  · exact .inl hsame
  · exact .inr hlong

/--
The rewrite is right exactly for a host without escapes and brackets that does
not also occur in the scheme or the user info, or that is the edge host itself.
-/
theorem replacesHostOnly_iff (hhost : isHost edgeHost = true) :
    ReplacesHostOnly platform answers aRequest aBaseURL u edgeHost ↔
      IsPlain u.host ∧ (edgeHost = u.host ∨ ¬ u.Early) := by
  unfold ReplacesHostOnly
  dsimp only
  rw [and_iff_left (comesOutAs_direct hplatform hlower hurl hreads)]
  exact comesOutAs_edge_iff_plain hplatform hlower hedge hurl hreads hhost

end Processing

/-! ## Two hosts -/

section Hosts

def edgeAnswers : ModelAnswers :=
  ({ operationMode := .kRSOperationModeInnerTransport
     edgeHost := "edge.net" } : Configuration).answers (fun _ => none) false
    "key"

def requestOf (u : HostedURL) : NSURLRequest where
  URL := some (readURL u.reference)
  HTTPMethod := "GET"
  allHTTPHeaderFields := []
  HTTPBody := ⟨[]⟩

def letterURL : HostedURL where
  scheme := "http".toList
  authority := { host := ['t'] }
  path := ['/']
  name := ['t']
  named := hostName_registered (by decide) (by decide)
  hosted := by decide
  valid := by decide

/-- `http://t/` is not rewritten: the first `t` is that of `http`. -/
theorem letterURL_not_rewritten :
    ¬ ReplacesHostOnly referencePlatform edgeAnswers (requestOf letterURL) none
      letterURL "edge.net".toList := by
  rintro ⟨⟨newRequest, hprocessed, -⟩, -⟩
  have hrefused : proccessRequest referencePlatform edgeAnswers
      (requestOf letterURL) true none = .ok none := rfl
  rw [hrefused] at hprocessed
  cases hprocessed

def fullURL : HostedURL where
  scheme := "http".toList
  authority :=
    { userInfo := some "user".toList
      host := "shop.com".toList
      port := some "8080".toList }
  path := "/a".toList
  query := some "q".toList
  fragment := some "f".toList
  name := "shop.com".toList
  named := hostName_registered (by decide) (by decide)
  hosted := by decide
  valid := by decide

theorem replacesHostOnly_iff_fullURL :
    ReplacesHostOnly referencePlatform edgeAnswers (requestOf fullURL) none
      fullURL "edge.net".toList :=
  (replacesHostOnly_iff referencePlatform_reads (.inl rfl) rfl rfl
    (reads_readURL _) (by decide)).mpr
      ⟨hostName_registered (by decide) (by decide), .inr (by decide)⟩

end Hosts

end RevSDK
