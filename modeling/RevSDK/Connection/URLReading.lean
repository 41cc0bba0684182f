import RevSDK.Connection.Request
import RevSDK.Foundation.UriResolution

/-!
# Reading and printing URLs

What the code relies on in `NSURL` and `NSURLComponents`: the text of a valid
reference is read as the generic syntax says.  `referencePlatform` does so.
-/

namespace RevSDK

open RevSDK.Foundation

structure ParsedURL.Reads (url : ParsedURL) (r : Reference) : Prop where
  absoluteString : url.absoluteString = String.ofList r.text
  scheme : url.scheme = r.scheme.map String.ofList
  host : url.host.filter (!·.isEmpty) = r.hostName.map String.ofList

/-- Every valid reference is read, and a text is kept as it is. -/
structure ReadsReferences (platform : URLPlatform) : Prop where
  reads : ∀ r : Reference, r.Valid → ∃ url,
    platform.URLWithString (String.ofList r.text) = some url ∧ url.Reads r
  keeps : ∀ text url, platform.URLWithString text = some url →
    url.absoluteString = text

def RefusesOthers (platform : URLPlatform) : Prop :=
  ∀ text url, platform.URLWithString text = some url →
    (Reference.parse text.toList).isSome = true

def IgnoresBase (platform : URLPlatform) : Prop :=
  ∀ r : Reference, r.Valid → r.scheme.isSome = true → ∀ baseURL url,
    platform.initWithString_relativeToURL (String.ofList r.text) baseURL =
      some url → url.Reads r

/-- The components of a valid reference are printed as they were or with
another scheme. -/
def PrintsScheme (platform : URLPlatform) : Prop :=
  ∀ r : Reference, r.Valid → ∃ components,
    platform.componentsWithString (String.ofList r.text) = some components ∧
      components.scheme = r.scheme.map String.ofList ∧
      (∃ url, platform.URL components = some url ∧ url.Reads r) ∧
      ∀ scheme, isScheme scheme = true → ∃ url,
        platform.URL { components with
          scheme := some (String.ofList scheme) } = some url ∧
        url.Reads { r with scheme := some scheme }

/-- Another host is printed so that its name is read back. -/
def PrintsHost (platform : URLPlatform) : Prop :=
  ∀ (r : Reference) (authority : Authority), r.Valid →
    r.authority = some authority → ∃ components,
      platform.componentsWithString (String.ofList r.text) = some components ∧
      (∀ name, name ≠ "" → ∃ host url,
        isHost host = true ∧ hostName host = some name.toList ∧
          platform.URL { components with host := some name } = some url ∧
          url.Reads { r with
            authority := some { authority with host := host } }) ∧
      ∀ host url, host.filter (!·.isEmpty) = none →
        platform.URL { components with host := host } = some url →
          url.host.filter (!·.isEmpty) = none

/-! ## A platform of references -/

def readURL (r : Reference) : ParsedURL where
  absoluteString := String.ofList r.text
  scheme := r.scheme.map String.ofList
  host := r.hostName.map String.ofList
  path := some (String.ofList r.path)

/-- A host that was not set keeps its spelling. -/
def printComponents (components : NSURLComponents) : Option ParsedURL := do
  let r ← Reference.parse components.rest.toList
  let authority := r.authority.getD { host := [] }
  let printed : Reference :=
    { r with
      scheme := components.scheme.map String.toList
      authority :=
        if components.host = r.hostName.map String.ofList then r.authority
        else some { authority with
          host := spelled (components.host.getD "").toList } }
  if printed.Valid then some (readURL printed) else none

def referencePlatform : URLPlatform where
  URLWithString text := (Reference.parse text.toList).map readURL
  initWithString_relativeToURL text baseURL := do
    let base ← Reference.parse baseURL.absoluteString.toList
    let r ← Reference.parse text.toList
    if r.scheme.isSome then some (readURL r)
    else some (readURL (base.resolve r))
  componentsWithString text := do
    let r ← Reference.parse text.toList
    return { scheme := r.scheme.map String.ofList
             host := r.hostName.map String.ofList
             rest := text }
  URL := printComponents

theorem reads_readURL (r : Reference) : (readURL r).Reads r where
  absoluteString := rfl
  scheme := rfl
  host := by
    have hname : r.hostName.filter (!·.isEmpty) = r.hostName := by
      unfold Reference.hostName
      rw [Option.filter_filter]
      simp
    unfold readURL
    cases h : r.hostName with
    | none => rfl
    | some name =>
        rw [h, Option.filter_eq_some_iff] at hname
        simpa [Option.filter] using hname.2

section Platform

theorem referencePlatform_reads : ReadsReferences referencePlatform where
  reads r hvalid := by
    refine ⟨readURL r, ?_, reads_readURL r⟩
    simp [referencePlatform, Reference.parse_text hvalid]
  keeps text url hread := by
    obtain ⟨r, hparse, rfl⟩ := Option.map_eq_some_iff.mp hread
    simp [readURL, (Reference.parse_eq_some hparse).2]

theorem referencePlatform_refusesOthers : RefusesOthers referencePlatform := by
  intro text url hread
  obtain ⟨r, hparse, -⟩ := Option.map_eq_some_iff.mp hread
  rw [hparse]
  rfl

theorem referencePlatform_ignoresBase : IgnoresBase referencePlatform := by
  intro r hvalid hscheme baseURL url hread
  simp only [referencePlatform, String.toList_ofList,
    Reference.parse_text hvalid, hscheme, if_true, Option.bind_eq_bind,
    Option.bind_eq_some_iff, Option.some.injEq, exists_eq_left'] at hread
  obtain ⟨base, -, rfl⟩ := hread
  exact reads_readURL r

def componentsOf (r : Reference) : NSURLComponents where
  scheme := r.scheme.map String.ofList
  host := r.hostName.map String.ofList
  rest := String.ofList r.text

theorem componentsWithString_text {r : Reference} (hvalid : r.Valid) :
    referencePlatform.componentsWithString (String.ofList r.text) =
      some (componentsOf r) := by
  simp [referencePlatform, Reference.parse_text hvalid, componentsOf]

theorem printComponents_scheme {r : Reference} (hvalid : r.Valid)
    {scheme : Option (List Char)}
    (hprinted : { r with scheme := scheme }.Valid) :
    printComponents { componentsOf r with
        scheme := scheme.map String.ofList } =
      some (readURL { r with scheme := scheme }) := by
  have hscheme : (scheme.map String.ofList).map String.toList = scheme := by
    cases scheme <;> simp
  simp [printComponents, componentsOf, Reference.parse_text hvalid, hscheme,
    hprinted]

theorem referencePlatform_printsScheme : PrintsScheme referencePlatform := by
  intro r hvalid
  refine ⟨componentsOf r, componentsWithString_text hvalid, rfl,
    ⟨readURL r, ?_, reads_readURL r⟩, ?_⟩
  · exact @printComponents_scheme r hvalid r.scheme hvalid
  · intro scheme hscheme
    refine ⟨readURL { r with scheme := some scheme }, ?_, reads_readURL _⟩
    exact @printComponents_scheme r hvalid (some scheme)
      (hvalid.withScheme hscheme)

theorem printComponents_host {r : Reference} {authority : Authority}
    (hvalid : r.Valid) (hauthority : r.authority = some authority)
    {host : Option String} (hother : host ≠ r.hostName.map String.ofList) :
    printComponents { componentsOf r with host := host } =
      some (readURL { r with authority := some { authority with
        host := spelled (host.getD "").toList } }) := by
  have hprinted := hvalid.withHost hauthority
    (spelled_isHost (host.getD "").toList).1
  have hscheme : (r.scheme.map String.ofList).map String.toList =
      r.scheme := by
    cases r.scheme <;> simp
  simp only [printComponents, componentsOf, String.toList_ofList,
    Reference.parse_text hvalid, Option.bind_eq_bind, Option.bind_some,
    hauthority, Option.getD_some, hscheme, if_neg hother]
  exact if_pos hprinted

theorem referencePlatform_printsHost : PrintsHost referencePlatform := by
  intro r authority hvalid hauthority
  refine ⟨componentsOf r, componentsWithString_text hvalid, ?_, ?_⟩
  · intro name hname
    by_cases hsame : some name = r.hostName.map String.ofList
    · obtain ⟨host, hhost, rfl⟩ := Option.map_eq_some_iff.mp hsame.symm
      have hnamed := (Option.filter_eq_some_iff.mp hhost).1
      rw [hauthority, Option.bind_some] at hnamed
      refine ⟨authority.host, readURL r, (hvalid.authority _ hauthority).host,
        ?_, ?_, ?_⟩
      · rw [hnamed, String.toList_ofList]
      · rw [hsame]
        exact @printComponents_scheme r hvalid r.scheme hvalid
      · have hkept : { r with authority := some authority } = r := by
          rw [← hauthority]
        exact hkept ▸ reads_readURL r
    · obtain ⟨hhost, hnamed⟩ := spelled_isHost name.toList
      exact ⟨spelled name.toList, _, hhost, hnamed,
        printComponents_host hvalid hauthority hsame, reads_readURL _⟩
  · intro host url hempty hprinted
    by_cases hsame : host = r.hostName.map String.ofList
    · have hread : printComponents { componentsOf r with host := host } =
          some (readURL r) := by
        rw [hsame]
        exact @printComponents_scheme r hvalid r.scheme hvalid
      obtain rfl := Option.some.inj (hread.symm.trans hprinted)
      rw [hsame] at hempty
      exact hempty
    · have hprint := printComponents_host hvalid hauthority hsame
      obtain rfl := Option.some.inj (hprint.symm.trans hprinted)
      have hnone : host.getD "" = "" := by
        cases host with
        | none => rfl
        | some name => simpa [Option.filter] using hempty
      rw [(reads_readURL _).host, Reference.hostName]
      simp [hnone, (spelled_isHost []).2]

end Platform

end RevSDK
