import RevSDK.Connection.RedirectHeaders
import RevSDK.Connection.RequestTarget

/-!
# Redirections over QUIC

The target of a redirection should be its `Location`, resolved against the URL
of the connection.  `correctURLIfNeeded` puts a scheme in front of a reference
without one, and `decomposeURL` then takes no reference to be relative.
-/

namespace RevSDK

open RevSDK.Foundation

structure IsRequestFor (request : Request) (t : Reference) : Prop where
  url : request.mURL = String.ofList t.text
  host : t.hostName.map String.ofList = some request.mHost
  path : request.mPath = String.ofList t.path
  scheme : t.scheme.map String.ofList = some request.mOriginalScheme

/-- A redirection goes to the reference, and there is one if that has a
host. -/
def RedirectsTo (platform : URLPlatform) (connection : QUICConnection)
    (aHeaders : SpdyHeaderBlock) (aCode : Int) (t : Reference) : Prop :=
  (∀ connection' calls newRequest aResponse,
      connection.quicSessionDidReceiveResponse platform aHeaders aCode =
        .ok (connection', calls) →
      .connectionWasRedirected newRequest aResponse ∈ calls →
      IsRequestFor newRequest t) ∧
    (t.hostName.isSome = true → ∃ connection' newRequest aResponse,
      connection.quicSessionDidReceiveResponse platform aHeaders aCode =
        .ok (connection', [.connectionWasRedirected newRequest aResponse]))

namespace HostedURL

def FindsPath (u : HostedURL) : Prop :=
  if IsPlain u.host then
    ¬ u.Early ∧ u.authority.port = none ∧ u.query = none ∧ u.fragment = none
  else literalAddress u.host = none ∧
    ∃ rest ∈ u.behindName, partsPath rest = u.path

end HostedURL

/-- The reference as `correctURLIfNeeded` leaves it. -/
def corrected (r : Reference) (aScheme : List Char) : Reference :=
  { r with scheme := some (r.scheme.getD aScheme) }

theorem corrected_of_scheme {r : Reference}
    (hscheme : r.scheme.isSome = true) (aScheme : List Char) :
    corrected r aScheme = r := by
  obtain ⟨scheme, authority, path, query, fragment⟩ := r
  cases scheme with
  | none => contradiction
  | some scheme => rfl

theorem valid_corrected {r : Reference} (hvalid : r.Valid)
    {aScheme : List Char} (hscheme : isScheme aScheme = true) :
    (corrected r aScheme).Valid := by
  cases hown : r.scheme with
  | some scheme =>
      rw [corrected_of_scheme (by rw [hown]; rfl)]
      exact hvalid
  | none =>
      rw [corrected, hown]
      exact hvalid.withScheme hscheme

/-- A reference that needs no resolution. -/
structure ResolvedAsWritten (base : HostedURL) (aScheme : List Char)
    (r : Reference) : Prop where
  absolute : r.authority = none → r.scheme.isSome = true
  hosted : ∀ u : HostedURL, u.reference = corrected r aScheme →
    (r.scheme = none → aScheme = base.scheme) ∧
      removeDotSegments u.path = u.path ∧ u.FindsPath

/-! ## The path -/

namespace HostedURL

variable (u : HostedURL)

theorem length_le_partsPath (rest : List Char) :
    rest.length ≤ (partsPath rest).length := by
  unfold partsPath
  split
  next hempty => simp [hempty]
  next => exact length_le_slashed rest

theorem partsPath_path : partsPath u.path = u.path := by
  unfold partsPath slashed
  rcases u.path_head with hpath | hpath
  · simp [hpath]
  · have hnonempty : u.path ≠ [] := by
      rintro hnil
      simp [hnil] at hpath
    rw [if_neg hnonempty, if_pos hpath]

theorem length_tail_eq :
    u.tail.length = u.path.length + (behind ':' u.authority.port).length +
      (behind '?' u.query).length + (behind '#' u.fragment).length := by
  simp only [tail, List.length_append]
  omega

theorem behind_eq_nil_iff (delimiter : Char)
    (component : Option (List Char)) :
    (behind delimiter component).length = 0 ↔ component = none := by
  cases component <;> simp [behind]

theorem length_of_partsPath (rest : List Char)
    (hpath : partsPath rest = u.path) : rest.length ≤ u.path.length :=
  hpath ▸ length_le_partsPath rest

theorem partsPath_tail_eq_path_iff :
    partsPath u.tail = u.path ↔
      u.authority.port = none ∧ u.query = none ∧ u.fragment = none := by
  have hlength := u.length_tail_eq
  constructor
  · intro hpath
    have hle := u.length_of_partsPath _ hpath
    refine ⟨(behind_eq_nil_iff ':' _).mp ?_,
      (behind_eq_nil_iff '?' _).mp ?_, (behind_eq_nil_iff '#' _).mp ?_⟩ <;>
    omega
  · rintro ⟨hport, hquery, hfragment⟩
    have htail : u.tail = u.path := by
      simp [tail, hport, hquery, hfragment, behind]
    rw [htail]
    exact u.partsPath_path

theorem findsPath_iff :
    (∃ rest ∈ u.behindName, partsPath rest = u.path) ↔ u.FindsPath := by
  have hlength := u.length_tail_eq
  have hshort (rest : List Char) (hpath : partsPath rest = u.path) :
      rest.length < u.tail.length + 2 := by
    have hle := u.length_of_partsPath rest hpath
    omega
  unfold FindsPath
  split
  next hplain =>
    rw [u.plain_finds_iff hshort hplain, u.partsPath_tail_eq_path_iff]
  next =>
    cases hliteral : literalAddress u.host with
    | none => simp
    | some address =>
        simp only [reduceCtorEq, false_and, iff_false]
        intro hfinds
        have hle := u.length_of_partsPath _
          (u.literal_finds hshort hliteral hfinds)
        rw [List.length_cons] at hle
        omega

end HostedURL

/-! ## The redirection -/

section Redirection

variable {platform : URLPlatform} {connection : QUICConnection}
  {aHeaders : SpdyHeaderBlock} {aCode : Int} {base : HostedURL}
  {aScheme : List Char} {r t : Reference}

structure ReceivesLocation (connection : QUICConnection)
    (aHeaders : SpdyHeaderBlock) (aCode : Int) (base : HostedURL)
    (aScheme : List Char) (r : Reference) : Prop
    extends AsksRedirect connection aCode where
  first : connection.mRedirect = none
  url : connection.mURL = String.ofList base.text
  originalScheme : connection.mRequest.mOriginalScheme = String.ofList aScheme
  location : aHeaders.lookup "Location" = some (String.ofList r.text)

theorem redirectsTo_iff (hasks : AsksRedirect connection aCode)
    (hfirst : connection.mRedirect = none) :
    RedirectsTo platform connection aHeaders aCode t ↔
      (∀ newRequest, connection.redirection platform aHeaders =
          .ok (some newRequest) → IsRequestFor newRequest t) ∧
        (t.hostName.isSome = true → ∃ newRequest,
          connection.redirection platform aHeaders =
            .ok (some newRequest)) := by
  unfold RedirectsTo
  rw [receiveResponse_of_asks hasks hfirst]
  cases connection.redirection platform aHeaders with
  | error fault => simp [Except.bind]
  | ok result =>
      cases result with
      | none =>
          constructor
          · rintro ⟨-, hhost⟩
            refine ⟨fun _ hnone => (by cases hnone), fun hsome => ?_⟩
            obtain ⟨_, _, _, hcall⟩ := hhost hsome
            simp [Except.bind, QUICConnection.deliverResponse] at hcall
          · rintro ⟨-, hhost⟩
            refine ⟨?_, fun hsome => ?_⟩
            · rintro _ _ _ _ hdelivered hcall
              obtain ⟨-, rfl⟩ := Prod.mk.inj (Except.ok.inj hdelivered)
              simp at hcall
            · obtain ⟨_, hnone⟩ := hhost hsome
              cases hnone
      | some newRequest =>
          simp only [Except.bind, Except.ok.injEq, Prod.mk.injEq,
            Option.some.injEq]
          constructor
          · rintro ⟨hall, -⟩
            refine ⟨?_, fun _ => ⟨newRequest, rfl⟩⟩
            rintro _ rfl
            exact hall _ _ _ (connection.receivedResponse aHeaders aCode)
              ⟨rfl, rfl⟩ (by simp)
          · rintro ⟨hall, -⟩
            refine ⟨?_, fun _ => ⟨_, _, _, rfl, rfl⟩⟩
            rintro _ _ newRequest' aResponse ⟨rfl, rfl⟩ hcall
            obtain ⟨rfl, -⟩ : newRequest' = newRequest ∧ _ := by
              simpa using hcall
            exact hall _ rfl

/-! ### Its target -/

section Target

theorem host_of_filter {url : ParsedURL}
    (hhost : url.host.filter (!·.isEmpty) = none) :
    url.host = none ∨ url.host = some "" := by
  cases hsome : url.host with
  | none => exact .inl rfl
  | some host =>
      rw [hsome] at hhost
      simpa [Option.filter] using hhost

theorem partsOfURL_empty (urlStr scheme : String) :
    partsOfURL urlStr "" scheme =
      .error (.exceptionRaised "NSRangeException") := rfl

variable (hreads : ReadsReferences platform) (hbase : IgnoresBase platform)
  (hprints : PrintsScheme platform) (hvalid : r.Valid)
  (hscheme : isScheme aScheme = true)

include hprints hvalid hscheme

theorem correctURLIfNeeded_eq :
    correctURLIfNeeded platform (String.ofList r.text)
        (String.ofList aScheme) =
      String.ofList (corrected r aScheme).text := by
  obtain ⟨components, hcomponents, hread, hkept, hset⟩ := hprints r hvalid
  unfold correctURLIfNeeded
  rw [hcomponents]
  dsimp only
  cases hown : r.scheme with
  | some scheme =>
      obtain ⟨url, hurl, hreadURL⟩ := hkept
      rw [hread, hown, Option.map_some, Option.isNone_some,
        if_neg (by decide), hurl]
      rw [corrected_of_scheme (by rw [hown]; rfl)]
      simp [hreadURL.absoluteString]
  | none =>
      obtain ⟨url, hurl, hreadURL⟩ := hset aScheme hscheme
      rw [hread, hown, Option.map_none, Option.isNone_none, if_pos rfl, hurl]
      simp [hreadURL.absoluteString, corrected, hown]

include hreads

variable (hreceives : ReceivesLocation connection aHeaders aCode base aScheme r)

include hreceives

theorem redirection_of_host {u : HostedURL}
    (hu : u.reference = corrected r aScheme) :
    connection.redirection platform aHeaders =
      match u.behindName with
      | none => .error (.exceptionRaised "NSRangeException")
      | some rest => .ok (some { connection.mRequest with
          mURL := String.ofList u.text
          mHost := String.ofList u.name
          mPath := String.ofList (partsPath rest)
          mRest := String.ofList (partsPath rest)
          mOriginalScheme := String.ofList u.scheme }) := by
  unfold QUICConnection.redirection
  rw [hreceives.location]
  dsimp only
  rw [hreceives.originalScheme, correctURLIfNeeded_eq hprints hvalid hscheme,
    ← hu, ← HostedURL.text, decomposeURL_of_leadsTo hreads (.absolute rfl),
    partsOfURL_eq]
  cases u.behindName <;> rfl

include hbase in
theorem redirection_of_no_host (hnone : r.hostName = none)
    (newRequest : Request) :
    connection.redirection platform aHeaders ≠ .ok (some newRequest) := by
  have hcorrected := valid_corrected hvalid hscheme
  have hhost {url : ParsedURL} (hread : url.Reads (corrected r aScheme)) :
      url.host = none ∨ url.host = some "" := by
    have hname : (corrected r aScheme).hostName = none := hnone
    exact host_of_filter (by rw [hread.host, hname]; rfl)
  have hdecompose (parts : URLParts) :
      decomposeURL platform connection.mURL
        (String.ofList (corrected r aScheme).text) ≠ .ok (some parts) := by
    obtain ⟨url, hread, hreadURL⟩ := hreads.reads _ hcorrected
    unfold decomposeURL
    split
    · simp
    · rw [hread]
      dsimp only
      rcases hhost hreadURL with hnil | hempty
      · rw [hnil]
        dsimp only
        split
        · simp
        next baseURL _ =>
          split
          · simp
          next resolved hresolved =>
            have hresolvedURL := hbase _ hcorrected rfl _ _ hresolved
            rcases hhost hresolvedURL with hnil | hempty
            · simp [hnil]
            · rw [hempty, hresolvedURL.scheme]
              simp [corrected, partsOfURL_empty]
      · rw [hempty, hreadURL.scheme]
        simp [corrected, partsOfURL_empty]
  unfold QUICConnection.redirection
  rw [hreceives.location]
  dsimp only
  rw [hreceives.originalScheme, correctURLIfNeeded_eq hprints hvalid hscheme]
  intro hredirection
  obtain ⟨parts, hparts, hsome⟩ :=
    (Outcome.bind_eq_ok _ _ _).mp hredirection
  cases parts with
  | none => cases hsome
  | some parts => exact hdecompose parts hparts

end Target

/-! ### Resolved or not -/

theorem text_path_injective {path path' : List Char}
    (htext : { r with path := path }.text = { r with path := path' }.text) :
    path = path' := by
  simpa [Reference.text, Reference.authorityText] using htext

theorem authority_of_corrected {u : HostedURL}
    (hu : u.reference = corrected r aScheme) :
    r.authority = some u.authority :=
  (congrArg Reference.authority hu).symm

theorem isRequestFor_resolved_iff {u : HostedURL} {rest : List Char}
    {request : Request} (hu : u.reference = corrected r aScheme) :
    IsRequestFor { request with
        mURL := String.ofList u.text
        mHost := String.ofList u.name
        mPath := String.ofList (partsPath rest)
        mRest := String.ofList (partsPath rest)
        mOriginalScheme := String.ofList u.scheme }
      (base.reference.resolve r) ↔
        (r.scheme = none → aScheme = base.scheme) ∧
          removeDotSegments u.path = u.path ∧ partsPath rest = u.path := by
  have hauthority : r.authority.isSome = true := by
    rw [authority_of_corrected hu]
    rfl
  have hresolved : base.reference.resolve r =
      { u.reference with
        scheme := r.scheme.or (some base.scheme)
        path := removeDotSegments u.path } := by
    have hpath : u.path = r.path := congrArg Reference.path hu
    rw [Reference.resolve_of_authority _ hauthority, hu, hpath]
    rfl
  have hscheme : r.scheme.or (some base.scheme) = some u.scheme ↔
      (r.scheme = none → aScheme = base.scheme) := by
    have hsame : u.scheme = r.scheme.getD aScheme :=
      Option.some.inj (congrArg Reference.scheme hu)
    rw [hsame]
    cases r.scheme <;> simp [eq_comm]
  rw [← hscheme, hresolved]
  constructor
  · intro hrequest
    have hown : r.scheme.or (some base.scheme) = some u.scheme :=
      Option.map_injective (fun _ _ => String.ofList_injective)
        hrequest.scheme
    have hpath : partsPath rest = removeDotSegments u.path :=
      String.ofList_injective hrequest.path
    have htext := String.ofList_injective hrequest.url
    rw [hown] at htext
    have hsame : u.path = removeDotSegments u.path :=
      @text_path_injective u.reference _ _ htext
    exact ⟨hown, hsame.symm, hpath.trans hsame.symm⟩
  · rintro ⟨hown, hdots, hpath⟩
    rw [hown, hdots, hpath]
    exact ⟨rfl, congrArg (Option.map String.ofList) u.hostName_reference,
      rfl, rfl⟩

theorem hostName_resolve_of_no_host (hnone : r.hostName = none) :
    (base.reference.resolve r).hostName = none ↔
      (r.authority = none → r.scheme.isSome = true) := by
  cases hauthority : r.authority with
  | some authority =>
      rw [Reference.resolve_of_authority _ (by rw [hauthority]; rfl)]
      exact iff_of_true hnone fun habsent => (by cases habsent)
  | none =>
      cases hscheme : r.scheme with
      | some scheme =>
          rw [Reference.resolve_of_scheme _ (by rw [hscheme]; rfl)]
          exact iff_of_true hnone fun _ => rfl
      | none =>
          have hown := Reference.authority_resolve base.reference hscheme
            hauthority
          have hname : (base.reference.resolve r).hostName =
              base.reference.hostName := by
            simp only [Reference.hostName, hown]
          simp [hname, HostedURL.hostName_reference]

/-! ### References with and without a host -/

theorem resolvedAsWritten_of_no_host (hname : r.hostName = none) :
    ResolvedAsWritten base aScheme r ↔
      (r.authority = none → r.scheme.isSome = true) := by
  refine ⟨ResolvedAsWritten.absolute, fun habsolute => ⟨habsolute, ?_⟩⟩
  intro u hu
  have hother : r.hostName = some u.name := by
    rw [← u.hostName_reference, hu]
    rfl
  exact absurd (hname.symm.trans hother) (by simp)

theorem resolvedAsWritten_of_host {u : HostedURL}
    (hu : u.reference = corrected r aScheme) :
    ResolvedAsWritten base aScheme r ↔
      (r.scheme = none → aScheme = base.scheme) ∧
        removeDotSegments u.path = u.path ∧ u.FindsPath := by
  constructor
  · intro hwritten
    exact hwritten.hosted u hu
  · intro hkept
    refine ⟨fun hnone => ?_, fun u' hu' => ?_⟩
    · rw [authority_of_corrected hu] at hnone
      cases hnone
    · obtain rfl := HostedURL.reference_injective (hu.trans hu'.symm)
      exact hkept

theorem hostName_resolve_of_host {u : HostedURL}
    (hu : u.reference = corrected r aScheme) :
    (base.reference.resolve r).hostName = some u.name := by
  have hauthority : r.authority.isSome = true := by
    rw [authority_of_corrected hu]
    rfl
  rw [Reference.resolve_of_authority _ hauthority, ← u.hostName_reference, hu]
  rfl

/--
A redirection goes to the resolved `Location` exactly if that is what was
written: it is absolute, or scheme-relative and of the original scheme, its path
has no dot segments and is all that stands behind the first occurrence of the
name of its host.
-/
theorem redirectsTo_iff_resolvedAsWritten (hreads : ReadsReferences platform)
    (hbase : IgnoresBase platform) (hprints : PrintsScheme platform)
    (hvalid : r.Valid) (hscheme : isScheme aScheme = true)
    (hreceives : ReceivesLocation connection aHeaders aCode base aScheme r) :
    RedirectsTo platform connection aHeaders aCode
        (base.reference.resolve r) ↔ ResolvedAsWritten base aScheme r := by
  rw [redirectsTo_iff hreceives.toAsksRedirect hreceives.first]
  cases hname : r.hostName with
  | none =>
      have hnever := redirection_of_no_host hreads hbase hprints hvalid hscheme
        hreceives hname
      rw [resolvedAsWritten_of_no_host hname,
        ← @hostName_resolve_of_no_host base r hname,
        ← Option.not_isSome_iff_eq_none]
      constructor
      · rintro ⟨-, hsome⟩ hhost
        obtain ⟨newRequest, hredirection⟩ := hsome hhost
        exact hnever newRequest hredirection
      · intro hhost
        exact ⟨fun newRequest hredirection =>
          absurd hredirection (hnever newRequest), fun h => absurd h hhost⟩
  | some name =>
      obtain ⟨u, hu, rfl⟩ := HostedURL.exists_of_reference
        (valid_corrected hvalid hscheme) rfl hname
      rw [redirection_of_host hreads hprints hvalid hscheme hreceives hu,
        resolvedAsWritten_of_host hu, ← u.findsPath_iff,
        hostName_resolve_of_host hu]
      cases u.behindName with
      | none => simp
      | some rest =>
          have hrequest := @isRequestFor_resolved_iff base aScheme r u rest
            connection.mRequest hu
          constructor
          · rintro ⟨hall, -⟩
            obtain ⟨hown, hdots, hpath⟩ := hrequest.mp (hall _ rfl)
            exact ⟨hown, hdots, rest, rfl, hpath⟩
          · rintro ⟨hown, hdots, rest', hrest, hpath⟩
            obtain rfl := Option.some.inj hrest
            refine ⟨fun newRequest hredirection => ?_, fun _ => ⟨_, rfl⟩⟩
            obtain rfl := Option.some.inj (Except.ok.inj hredirection)
            exact hrequest.mpr ⟨hown, hdots, hpath⟩

end Redirection

/-! ## Two locations -/

section Locations

def connectionTo (u : HostedURL) : QUICConnection where
  mURL := String.ofList u.text
  mRequest :=
    { mMethod := "GET"
      mOriginalURL := String.ofList u.text
      mURL := String.ofList u.text
      mHeaders := []
      mBody := ⟨[]⟩
      mOriginalScheme := String.ofList u.scheme }

theorem connectionTo_receives (u : HostedURL) (r : Reference) :
    ReceivesLocation (connectionTo u)
      [("Location", String.ofList r.text)] 302 u u.scheme r where
  first := rfl
  code := .inr rfl
  depth := show 0 < 10 by decide
  url := rfl
  originalScheme := rfl
  location := List.lookup_cons_self

/-- From `https://example.com?q`, `/x` leads to no redirection at all. -/
theorem absolutePath_not_resolved :
    ¬ RedirectsTo referencePlatform (connectionTo queryURL)
      [("Location", "/x")] 302
      (queryURL.reference.resolve { path := "/x".toList }) := by
  have hreceives := connectionTo_receives queryURL { path := "/x".toList }
  have hnever := redirection_of_no_host referencePlatform_reads
    referencePlatform_ignoresBase referencePlatform_printsScheme (by decide)
    queryURL.isScheme_scheme hreceives rfl
  have hhost := (@hostName_resolve_of_no_host queryURL
    { path := "/x".toList } rfl).not.mpr (by decide)
  intro hredirects
  obtain ⟨-, hsome⟩ :=
    (redirectsTo_iff hreceives.toAsksRedirect hreceives.first).mp hredirects
  obtain ⟨newRequest, hredirection⟩ :=
    hsome (Option.isSome_iff_ne_none.mpr hhost)
  exact hnever newRequest hredirection

def otherURL : HostedURL where
  scheme := "https".toList
  authority := { host := "example.org".toList }
  path := "/b/c".toList
  name := "example.org".toList
  named := hostName_registered (by decide) (by decide)
  hosted := by decide
  valid := by decide

theorem redirectsTo_iff_resolvedAsWritten_otherURL :
    RedirectsTo referencePlatform (connectionTo queryURL)
      [("Location", String.ofList otherURL.text)] 302
      (queryURL.reference.resolve otherURL.reference) := by
  refine (redirectsTo_iff_resolvedAsWritten referencePlatform_reads
    referencePlatform_ignoresBase referencePlatform_printsScheme
    otherURL.valid queryURL.isScheme_scheme
    (connectionTo_receives queryURL otherURL.reference)).mpr
      ⟨fun habsent => (by cases habsent), fun u hu => ?_⟩
  obtain rfl : u = otherURL := HostedURL.reference_injective hu
  have hplain : IsPlain otherURL.host :=
    hostName_registered (by decide) (by decide)
  refine ⟨fun hnone => (by cases hnone), by decide, ?_⟩
  rw [HostedURL.FindsPath, if_pos hplain]
  exact ⟨by decide, rfl, rfl, rfl⟩

end Locations

end RevSDK
