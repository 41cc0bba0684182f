import RevSDK.Interception.RSURLRequestProcessor

/-!
# The text that is processed

`canInitWithRequest` accepts a URL with a host, and the processor takes the
scheme and the text of that URL.  It finds the host and the scheme in the text,
wherever they occur first.
-/

namespace RevSDK

open RevSDK.Foundation

def securedText (isProvisioned : Bool) (text : String) : String :=
  if hasPrefix text "https" || isProvisioned then text
  else String.ofList ("https".toList ++ text.toList.drop 4)

structure Securable (platform : URLPlatform) (isProvisioned : Bool)
    (text : String) : Prop where
  begins : hasPrefix text "http" = true
  reads : (platform.URLWithString (securedText isProvisioned text)).isSome =
    true

def edgeText (text host edgeHost : String) (location : Nat) : String :=
  String.ofList
    (replaceAt text.toList location host.toList edgeHost.toList)

section Securing

variable {text : String}

theorem rangeOfString_eq_zero_iff (text : String) {part : String}
    (hpart : part ≠ "") :
    rangeOfString text part = some 0 ↔ hasPrefix text part = true := by
  rw [rangeOfString, findFirst_eq_zero_iff, hasPrefix,
    List.isPrefixOf_iff_prefix, ne_eq, String.toList_eq_nil_iff]
  exact and_iff_right hpart

theorem hasPrefix_http_of_https (hsecure : hasPrefix text "https" = true) :
    hasPrefix text "http" = true := by
  rw [hasPrefix, List.isPrefixOf_iff_prefix] at hsecure ⊢
  exact (show "http".toList <+: "https".toList from ⟨['s'], rfl⟩).trans hsecure

theorem secureURL_eq (platform : URLPlatform) (isProvisioned : Bool)
    (newRequest : NSURLRequest) (text : String) :
    secureURL platform isProvisioned newRequest text =
      if hasPrefix text "http" then
        .ok (some { newRequest with
          URL := platform.URLWithString (securedText isProvisioned text) })
      else .ok none := by
  have hhttps : rangeOfString text "https" = some 0 ↔ _ :=
    rangeOfString_eq_zero_iff text (by decide)
  have hhttp : rangeOfString text "http" = some 0 ↔ _ :=
    rangeOfString_eq_zero_iff text (by decide)
  unfold secureURL securedText
  cases hsecure : hasPrefix text "https" with
  | true =>
      rw [hhttps.mpr hsecure, hasPrefix_http_of_https hsecure]
      rfl
  | false =>
      have hplain : (rangeOfString text "https" != some 0) = true := by
        rw [bne_iff_ne, ne_eq, hhttps, hsecure]
        decide
      rw [if_pos hplain]
      cases hbegins : hasPrefix text "http" with
      | false =>
          have hother : (rangeOfString text "http" != some 0) = true := by
            rw [bne_iff_ne, ne_eq, hhttp, hbegins]
            decide
          dsimp only
          rw [if_pos hother]
          rfl
      | true =>
          rw [hhttp.mpr hbegins]
          cases isProvisioned <;> rfl

theorem secureURL_iff_securable {platform : URLPlatform}
    {isProvisioned : Bool} {newRequest : NSURLRequest} {text : String} :
    (∃ processed, secureURL platform isProvisioned newRequest text =
        .ok (some processed) ∧ processed.URL.isSome = true) ↔
      Securable platform isProvisioned text := by
  rw [secureURL_eq]
  constructor
  · rintro ⟨processed, hsecure, hsome⟩
    split at hsecure
    next hbegins =>
      obtain rfl := Option.some.inj (Except.ok.inj hsecure)
      exact ⟨hbegins, hsome⟩
    next => cases hsecure
  · rintro ⟨hbegins, hreads⟩
    exact ⟨_, if_pos hbegins, hreads⟩

end Securing

section Accepting

variable {platform : URLPlatform} {answers answers' : ModelAnswers}
  {aRequest : NSURLRequest} {handled : Bool}

theorem host_of_canInit
    (haccepted : canInitWithRequest answers aRequest handled = true) :
    ∃ url host, aRequest.URL = some url ∧ url.host = some host ∧ host ≠ "" := by
  unfold canInitWithRequest at haccepted
  dsimp only at haccepted
  split at haccepted
  · contradiction
  next hhost =>
    cases hurl : aRequest.URL with
    | none =>
        rw [hurl] at hhost
        contradiction
    | some url =>
        rw [hurl, Option.bind_some] at hhost
        cases hname : url.host with
        | none =>
            rw [hname] at hhost
            contradiction
        | some host =>
            rw [hname, Option.getD_some] at hhost
            refine ⟨url, host, rfl, hname, ?_⟩
            rintro rfl
            contradiction

theorem isValidScheme_iff (aScheme : Option String) :
    isValidScheme aScheme = true ↔
      aScheme = some "http" ∨ aScheme = some "https" := by
  cases aScheme with
  | none => simp [isValidScheme]
  | some scheme => simp [isValidScheme]

theorem replaced_eq_ok_iff {text host edgeHost replaced : String} :
    stringByReplacingCharactersInRange text (rangeOfString text host) host
        edgeHost = .ok replaced ↔
      ∃ location, rangeOfString text host = some location ∧
        replaced = edgeText text host edgeHost location := by
  cases hrange : rangeOfString text host with
  | none => simp [stringByReplacingCharactersInRange]
  | some location =>
      simp [stringByReplacingCharactersInRange, edgeText, eq_comm]

def hostedText (answers : ModelAnswers) (url : ParsedURL) (host : String)
    (aIsEdge : Bool) : Outcome String :=
  if aIsEdge then
    stringByReplacingCharactersInRange url.absoluteString
      (rangeOfString url.absoluteString host) host answers.edgeHost
  else .ok url.absoluteString

section Processing

variable {url : ParsedURL} {host : String} (hurl : aRequest.URL = some url)
  (hhost : url.host = some host) (hname : host ≠ "")

include hurl hhost hname

theorem proccessRequest_of_hosted (aIsEdge : Bool)
    (aBaseURL : Option ParsedURL) :
    proccessRequest platform answers aRequest aIsEdge aBaseURL =
      if !isValidScheme url.scheme then .ok none
      else (hostedText answers url host aIsEdge).bind
        (secureURL platform (answers.isDomainNameProvisioned host)
          (processedHeaders answers aRequest host (url.scheme.getD ""))) := by
  have hosted : hostedURL platform aRequest.URL aBaseURL = some url := by
    have hhas : url.hasHost = true := by
      simp [ParsedURL.hasHost, hhost, hname]
    simp [hostedURL, hurl, hhas]
  unfold proccessRequest
  rw [hosted]
  dsimp only
  rw [hhost, Option.getD_some]
  cases aIsEdge <;> rfl

theorem processed_direct_iff (hscheme : isValidScheme url.scheme = true) :
    (∃ newRequest, proccessRequest platform answers aRequest false none =
        .ok (some newRequest) ∧ newRequest.URL.isSome = true) ↔
      Securable platform (answers.isDomainNameProvisioned host)
        url.absoluteString := by
  rw [proccessRequest_of_hosted hurl hhost hname, hscheme]
  exact secureURL_iff_securable

theorem processed_edge_iff (hscheme : isValidScheme url.scheme = true) :
    (∃ newRequest, proccessRequest platform answers aRequest true none =
        .ok (some newRequest) ∧ newRequest.URL.isSome = true) ↔
      ∃ location, rangeOfString url.absoluteString host = some location ∧
        Securable platform (answers.isDomainNameProvisioned host)
          (edgeText url.absoluteString host answers.edgeHost location) := by
  rw [proccessRequest_of_hosted hurl hhost hname, hscheme]
  constructor
  · rintro ⟨newRequest, hprocessed, hsome⟩
    obtain ⟨replaced, hreplaced, hsecure⟩ :=
      (Outcome.bind_eq_ok _ _ _).mp hprocessed
    obtain ⟨location, hrange, rfl⟩ := replaced_eq_ok_iff.mp hreplaced
    exact ⟨location, hrange,
      secureURL_iff_securable.mp ⟨newRequest, hsecure, hsome⟩⟩
  · rintro ⟨location, hrange, hreadable⟩
    obtain ⟨newRequest, hsecure, hsome⟩ := secureURL_iff_securable.mpr hreadable
    exact ⟨newRequest, (Outcome.bind_eq_ok _ _ _).mpr
      ⟨_, replaced_eq_ok_iff.mpr ⟨location, hrange, rfl⟩, hsecure⟩, hsome⟩

end Processing

end Accepting

end RevSDK
