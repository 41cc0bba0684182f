import RevSDK.Interception.HostReplacement

/-!
# Which accepted requests can be processed

`canInitWithRequest` compares the scheme in lower case and `isValidScheme` as
it is written.  To the edge, the processor also needs the name of the host in
the text of the URL, and a URL to come out once the edge host stands there.
-/

namespace RevSDK

open RevSDK.Foundation

/-- A request with a URL comes out, to the edge and past it. -/
def Processed (platform : URLPlatform) (answers : ModelAnswers)
    (aRequest : NSURLRequest) : Prop :=
  ∀ aIsEdge, ∃ newRequest,
    proccessRequest platform answers aRequest aIsEdge none =
      .ok (some newRequest) ∧ newRequest.URL.isSome = true

def SecuresToURL (isProvisioned : Bool) (text : List Char) : Prop :=
  hasPrefix (String.ofList text) "http" = true ∧
    (Reference.parse (securedText isProvisioned
      (String.ofList text)).toList).isSome = true

structure Processable (answers : ModelAnswers) (u : HostedURL) : Prop where
  lowercase : u.scheme = "http".toList ∨ u.scheme = "https".toList
  rewrites : ∃ place, findFirst u.name u.text = some place ∧
    SecuresToURL (answers.isDomainNameProvisioned (String.ofList u.name))
      (replaceAt u.text place u.name answers.edgeHost.toList)

section Processing

variable {platform : URLPlatform} {answers answers' : ModelAnswers}
  {aRequest : NSURLRequest} {handled : Bool} {url : ParsedURL}

theorem securable_iff (hplatform : ReadsReferences platform)
    (hrefuses : RefusesOthers platform) (isProvisioned : Bool)
    (text : List Char) :
    Securable platform isProvisioned (String.ofList text) ↔
      SecuresToURL isProvisioned text := by
  have hreads (secured : String) :
      (platform.URLWithString secured).isSome = true ↔
        (Reference.parse secured.toList).isSome = true := by
    constructor
    · intro hsome
      obtain ⟨url, hurl⟩ := Option.isSome_iff_exists.mp hsome
      exact hrefuses _ _ hurl
    · intro hsome
      obtain ⟨r, hparse⟩ := Option.isSome_iff_exists.mp hsome
      obtain ⟨hvalid, htext⟩ := Reference.parse_eq_some hparse
      obtain ⟨url, hurl, -⟩ := hplatform.reads r hvalid
      rw [htext, String.ofList_toList] at hurl
      simp [hurl]
  exact ⟨fun h => ⟨h.begins, (hreads _).mp h.reads⟩,
    fun h => ⟨h.1, (hreads _).mpr h.2⟩⟩

theorem scheme_of_canInit
    (haccepted : canInitWithRequest answers aRequest handled = true)
    (hurl : aRequest.URL = some url) : url.scheme.isSome = true := by
  unfold canInitWithRequest at haccepted
  rw [hurl, Option.bind_some, Option.bind_some] at haccepted
  cases hscheme : url.scheme with
  | some scheme => rfl
  | none => simp [hscheme] at haccepted

theorem hosted_of_canInit {r : Reference} (hvalid : r.Valid)
    (hurl : aRequest.URL = some url) (hreads : url.Reads r)
    (haccepted : canInitWithRequest answers aRequest handled = true) :
    ∃ u : HostedURL, u.reference = r := by
  obtain ⟨url', host, hurl', hhost, hname⟩ := host_of_canInit haccepted
  obtain rfl : url = url' := Option.some.inj (hurl.symm.trans hurl')
  have habsolute := scheme_of_canInit haccepted hurl
  rw [hreads.scheme, Option.isSome_map] at habsolute
  obtain ⟨scheme, hscheme⟩ := Option.isSome_iff_exists.mp habsolute
  have hnamed := hreads.host
  rw [hhost, Option.filter_some, if_pos (by simpa using hname)] at hnamed
  obtain ⟨name, hname, -⟩ := Option.map_eq_some_iff.mp hnamed.symm
  obtain ⟨u, hreference, -⟩ :=
    HostedURL.exists_of_reference hvalid hscheme hname
  exact ⟨u, hreference⟩

section Hosted

variable {u : HostedURL} (hplatform : ReadsReferences platform)
  (hurl : aRequest.URL = some url) (hreads : url.Reads u.reference)

include hplatform hurl hreads

theorem processed_of_plain
    (hlower : u.scheme = "http".toList ∨ u.scheme = "https".toList)
    {edgeHost : List Char} (hedge : answers.edgeHost = String.ofList edgeHost)
    (hhost : isHost edgeHost = true) (hplain : IsPlain u.host)
    (hearly : ¬ u.Early) : Processed platform answers aRequest := by
  have hcomes (aIsEdge : Bool) : ∃ r,
      ComesOutAs platform answers aRequest aIsEdge none r := by
    cases aIsEdge with
    | false => exact ⟨_, comesOutAs_direct hplatform hlower hurl hreads⟩
    | true =>
        exact ⟨_, (comesOutAs_edge_iff_plain hplatform hlower hedge hurl hreads
          hhost).mpr ⟨hplain, .inr hearly⟩⟩
  intro aIsEdge
  obtain ⟨r, newRequest, hprocessed, htext⟩ := hcomes aIsEdge
  obtain ⟨newURL, hnew, -⟩ := Option.map_eq_some_iff.mp htext
  exact ⟨newRequest, hprocessed, Option.isSome_iff_exists.mpr ⟨newURL, hnew⟩⟩

theorem processed_edge_iff_rewrites (hrefuses : RefusesOthers platform)
    (hscheme : isValidScheme url.scheme = true) :
    (∃ newRequest, proccessRequest platform answers aRequest true none =
        .ok (some newRequest) ∧ newRequest.URL.isSome = true) ↔
      ∃ place, findFirst u.name u.text = some place ∧
        SecuresToURL (answers.isDomainNameProvisioned (String.ofList u.name))
          (replaceAt u.text place u.name answers.edgeHost.toList) := by
  have hrange : rangeOfString url.absoluteString (String.ofList u.name) =
      findFirst u.name u.text := by
    rw [hreads.absoluteString, rangeOfString, String.toList_ofList,
      String.toList_ofList]
    rfl
  rw [processed_edge_iff hurl (HostedURL.host_of_reads hreads)
    u.name_ne_empty hscheme, hrange]
  refine exists_congr fun place => and_congr_right fun _ => ?_
  have htext : edgeText url.absoluteString (String.ofList u.name)
      answers.edgeHost place = String.ofList
        (replaceAt u.text place u.name answers.edgeHost.toList) := by
    rw [edgeText, hreads.absoluteString, String.toList_ofList,
      String.toList_ofList]
    rfl
  rw [htext, securable_iff hplatform hrefuses]

theorem processed_iff_of_hosted (hrefuses : RefusesOthers platform) :
    Processed platform answers aRequest ↔ Processable answers u := by
  have hlower : isValidScheme url.scheme = true ↔
      u.scheme = "http".toList ∨ u.scheme = "https".toList := by
    rw [isValidScheme_iff, hreads.scheme]
    simp [HostedURL.reference, ← String.toList_inj]
  constructor
  · intro hprocessed
    have hscheme : isValidScheme url.scheme = true := by
      obtain ⟨newRequest, hdirect, -⟩ := hprocessed false
      by_contra hinvalid
      rw [proccessRequest_of_hosted hurl (HostedURL.host_of_reads hreads)
        u.name_ne_empty, if_pos (by simpa using hinvalid)] at hdirect
      cases hdirect
    exact ⟨hlower.mp hscheme, (processed_edge_iff_rewrites hplatform hurl hreads
      hrefuses hscheme).mp (hprocessed true)⟩
  · rintro ⟨hscheme, hrewrites⟩ aIsEdge
    cases aIsEdge with
    | false =>
        obtain ⟨newRequest, hprocessed, htext⟩ :=
          comesOutAs_direct hplatform hscheme hurl hreads
        obtain ⟨newURL, hnew, -⟩ := Option.map_eq_some_iff.mp htext
        exact ⟨newRequest, hprocessed,
          Option.isSome_iff_exists.mpr ⟨newURL, hnew⟩⟩
    | true =>
        exact (processed_edge_iff_rewrites hplatform hurl hreads hrefuses
          (hlower.mpr hscheme)).mpr hrewrites

end Hosted

/--
An accepted request can be processed exactly if its scheme is written in lower
case and the name of its host, where it occurs first, may give way to the edge
host.  So it may if the host has no escapes and brackets and occurs neither in
the scheme nor in the user info.
-/
theorem processed_iff_processable (hplatform : ReadsReferences platform)
    (hrefuses : RefusesOthers platform) {r : Reference} (hvalid : r.Valid)
    (hurl : aRequest.URL = some url) (hreads : url.Reads r)
    (haccepted : canInitWithRequest answers aRequest handled = true) :
    ∃ u : HostedURL, u.reference = r ∧
      (Processed platform answers' aRequest ↔ Processable answers' u) ∧
      ((u.scheme = "http".toList ∨ u.scheme = "https".toList) →
        isHost answers'.edgeHost.toList = true → IsPlain u.host → ¬ u.Early →
          Processed platform answers' aRequest) := by
  obtain ⟨u, rfl⟩ := hosted_of_canInit hvalid hurl hreads haccepted
  exact ⟨u, rfl, processed_iff_of_hosted hplatform hurl hreads hrefuses,
    fun hlower hhost hplain hearly => processed_of_plain hplatform hurl hreads
      hlower String.ofList_toList.symm hhost hplain hearly⟩

end Processing

section Spelling

def capitalURL : HostedURL where
  scheme := "HTTP".toList
  authority := { host := "capital.com".toList }
  path := ['/']
  name := "capital.com".toList
  named := hostName_registered (by decide) (by decide)
  hosted := by decide
  valid := by decide

/-- The scheme is accepted in capitals, and then refused. -/
theorem capitalScheme_not_processed :
    canInitWithRequest edgeAnswers (requestOf capitalURL) false = true ∧
      shouldRedirectRequest edgeAnswers (requestOf capitalURL) = true ∧
      ¬ Processed referencePlatform edgeAnswers (requestOf capitalURL) := by
  refine ⟨by decide +kernel, by decide +kernel, fun hprocessed => ?_⟩
  obtain ⟨newRequest, hnone, -⟩ := hprocessed false
  have hrefused : proccessRequest referencePlatform edgeAnswers
      (requestOf capitalURL) false none = .ok none := rfl
  rw [hrefused] at hnone
  cases hnone

theorem processed_iff_processable_fullURL :
    canInitWithRequest edgeAnswers (requestOf fullURL) false = true ∧
      shouldRedirectRequest edgeAnswers (requestOf fullURL) = true ∧
      Processed referencePlatform edgeAnswers (requestOf fullURL) := by
  have haccepted :
      canInitWithRequest edgeAnswers (requestOf fullURL) false = true := by
    decide +kernel
  obtain ⟨u, hreference, -, hplain⟩ := processed_iff_processable
    referencePlatform_reads referencePlatform_refusesOthers fullURL.valid rfl
    (reads_readURL _) haccepted
  obtain rfl : u = fullURL := HostedURL.reference_injective hreference
  exact ⟨haccepted, by decide +kernel,
    hplain (.inl rfl) (by decide)
      (hostName_registered (by decide) (by decide)) (by decide)⟩

end Spelling

end RevSDK
