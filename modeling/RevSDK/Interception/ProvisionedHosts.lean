import RevSDK.Connection.HostedURL
import RevSDK.Interception.RSURLRequestProcessor
import RevSDK.Model.ConfigurationPersistence

/-!
# The two tests of a provisioned host

The filter reads an entry of the provisioned list as a URL and compares the
hosts; the processor looks for the host among the entries as they are written.
-/

namespace RevSDK

open RevSDK.Foundation

/-- The host that a valid reference has, and no host of another text. -/
def ReadsHosts (urlWithString : String → Option NSURL) : Prop :=
  ∀ text, (urlWithString text).bind NSURL.host =
    ((Reference.parse text.toList).bind Reference.hostName).map String.ofList

def spelledHost (aDomainName : String) : Option (List Char) :=
  (Reference.parse (withScheme (cString aDomainName)).toList).bind
    Reference.hostName

/--
A name whose host is spelled in the list is an entry itself, and an entry that
is such a name has a host.
-/
structure ListedAsSpelled (aDomains : List String) (aDomainName : String) :
    Prop where
  listed : ∀ domain ∈ aDomains, ∀ host, spelledHost domain = some host →
    spelledHost aDomainName = some host → aDomainName ∈ aDomains
  spelled : aDomainName ∈ aDomains → (spelledHost aDomainName).isSome = true

/-- The filter and the processor take the same hosts for provisioned. -/
def Configuration.TestsAgree (conf : Configuration)
    (urlWithString : String → Option NSURL) (isTest : Bool) (mSDKKey : String)
    (aDomainName : String) : Prop :=
  (conf.answers urlWithString isTest mSDKKey).isDomainNameProvisioned
      aDomainName =
    domainsContainDomainName urlWithString conf.domainsProvisionedList
      aDomainName

section Spellings

variable {urlWithString : String → Option NSURL}

theorem areDomainNamesEqual_iff (hreads : ReadsHosts urlWithString)
    (aDomainName1 aDomainName2 : String) :
    areDomainNamesEqual urlWithString aDomainName1 aDomainName2 = true ↔
      ∃ host, spelledHost aDomainName1 = some host ∧
        spelledHost aDomainName2 = some host := by
  have hhost : ∀ aDomainName,
      (urlWithString (withScheme (cString aDomainName))).bind NSURL.host =
        (spelledHost aDomainName).map String.ofList := fun _ => hreads _
  unfold areDomainNamesEqual
  dsimp only
  rw [hhost aDomainName1, hhost aDomainName2]
  cases spelledHost aDomainName1 with
  | none => simp
  | some host1 =>
      cases spelledHost aDomainName2 with
      | none => simp
      | some host2 =>
          rw [Option.map_some, Option.map_some]
          dsimp only
          rw [beq_iff_eq, String.ofList_inj]
          constructor
          · rintro rfl
            exact ⟨host1, rfl, rfl⟩
          · rintro ⟨host, hhost1, hhost2⟩
            exact Option.some.inj (hhost1.trans hhost2.symm)

theorem domainsContainDomainName_iff (hreads : ReadsHosts urlWithString)
    (aDomains : List String) (aDomainName : String) :
    domainsContainDomainName urlWithString aDomains aDomainName = true ↔
      ∃ domain ∈ aDomains, ∃ host, spelledHost domain = some host ∧
        spelledHost aDomainName = some host := by
  unfold domainsContainDomainName
  rw [List.any_eq_true]
  exact exists_congr fun domain =>
    and_congr_right fun _ => areDomainNamesEqual_iff hreads _ _

/--
The tests agree on a name exactly if the list has it as it is wherever it
spells its host, and has it only if it has a host.
-/
theorem testsAgree_iff_listedAsSpelled (hreads : ReadsHosts urlWithString)
    (conf : Configuration) (isTest : Bool) (mSDKKey aDomainName : String) :
    conf.TestsAgree urlWithString isTest mSDKKey aDomainName ↔
      ListedAsSpelled conf.domainsProvisionedList aDomainName := by
  unfold Configuration.TestsAgree
  rw [Bool.eq_iff_iff, domainsContainDomainName_iff hreads]
  have hlist : (conf.answers urlWithString isTest
      mSDKKey).isDomainNameProvisioned aDomainName = true ↔
        aDomainName ∈ conf.domainsProvisionedList := List.contains_iff_mem
  rw [hlist]
  constructor
  · intro hagree
    refine ⟨fun domain hdomain host hhost hname =>
      hagree.mpr ⟨domain, hdomain, host, hhost, hname⟩, fun hlisted => ?_⟩
    obtain ⟨-, -, host, -, hname⟩ := hagree.mp hlisted
    rw [hname]
    rfl
  · intro hspelled
    constructor
    · intro hlisted
      obtain ⟨host, hhost⟩ := Option.isSome_iff_exists.mp
        (hspelled.spelled hlisted)
      exact ⟨aDomainName, hlisted, host, hhost, hhost⟩
    · rintro ⟨domain, hdomain, host, hhost, hname⟩
      exact hspelled.listed domain hdomain host hhost hname

end Spellings

/-! ## Hosts without escapes and brackets -/

section Plain

variable {host : List Char}

def bareReference (host : List Char) : Reference where
  scheme := some "http".toList
  authority := some { host := host }

theorem bareReference_valid (hhost : isEscapedText isNameChar host = true) :
    (bareReference host).Valid where
  scheme scheme hscheme := by
    obtain rfl := Option.some.inj hscheme
    decide
  authority authority hauthority := by
    obtain rfl := Option.some.inj hauthority
    refine ⟨by simp, ?_, by simp⟩
    rw [isHost, hhost, Bool.or_true]
  path := rfl
  query := by simp [bareReference]
  fragment := by simp [bareReference]
  fits := rfl

theorem withScheme_host (hhost : isEscapedText isNameChar host = true) :
    (withScheme (String.ofList host)).toList = (bareReference host).text := by
  have hslash : '/' ∉ host :=
    notMem_of_isHost (by rw [isHost, hhost, Bool.or_true]) (by simp)
  have hnone : ∀ scheme : List Char, '/' ∈ scheme →
      scheme.isPrefixOf host = false := by
    intro scheme hscheme
    rw [Bool.eq_false_iff, ne_eq, List.isPrefixOf_iff_prefix]
    exact fun hbegins => hslash (List.IsPrefix.subset hbegins hscheme)
  have hhttp := hnone "http://".toList (by decide)
  have hhttps := hnone "https://".toList (by decide)
  unfold withScheme hasPrefix
  rw [@String.toList_ofList host, hhttp, hhttps]
  simp [bareReference, Reference.text, Reference.authorityText, Authority.text,
    ahead, behind]

theorem spelledHost_plain (u : HostedURL) (hplain : IsPlain u.host) :
    spelledHost (String.ofList u.name) = some u.name := by
  have hhost := u.registered hplain
  rw [u.isPlain_iff.mp hplain]
  have hfree : NulFree (String.ofList u.host) := by
    unfold NulFree
    rw [String.toList_ofList]
    exact notMem_of_isEscapedText hhost (by decide) (by decide) (by decide)
  have hname : (bareReference u.host).hostName = some u.host := by
    have hnonempty : u.host.isEmpty = false := by
      simpa using u.host_ne_nil
    have hplain' : hostName u.host = some u.host := hplain
    simp [Reference.hostName, bareReference, hplain', hnonempty]
  unfold spelledHost
  rw [cString_of_nulFree hfree, withScheme_host hhost,
    Reference.parse_text (bareReference_valid hhost), Option.bind_some, hname]

theorem listedAsSpelled_plain_iff (u : HostedURL) (hplain : IsPlain u.host)
    (aDomains : List String) :
    ListedAsSpelled aDomains (String.ofList u.name) ↔
      ((∃ domain ∈ aDomains, spelledHost domain = some u.name) →
        String.ofList u.name ∈ aDomains) := by
  have hself := spelledHost_plain u hplain
  constructor
  · rintro hspelled ⟨domain, hdomain, hhost⟩
    exact hspelled.listed domain hdomain u.name hhost hself
  · intro hlisted
    refine ⟨fun domain hdomain host hhost hname => ?_, fun _ => ?_⟩
    · obtain rfl := Option.some.inj (hself.symm.trans hname)
      exact hlisted ⟨domain, hdomain, hhost⟩
    · rw [hself]
      rfl

end Plain

/-! ## An entry with its scheme -/

def referenceNSURL (text : String) : Option NSURL :=
  (Reference.parse text.toList).map fun r =>
    ⟨r.scheme.map String.ofList, r.hostName.map String.ofList⟩

theorem referenceNSURL_readsHosts : ReadsHosts referenceNSURL := by
  intro text
  unfold referenceNSURL
  cases Reference.parse text.toList <;> rfl

def withEntry (domain : String) : Configuration :=
  { operationMode := .kRSOperationModeInnerTransport
    domainsProvisionedList := [domain] }

/-- The host is transported as provisioned and processed as not. -/
theorem schemedEntry_tests :
    (((withEntry "https://a.com").answers referenceNSURL false "key")
        |>.isDomainNameProvisioned "a.com") = false ∧
      domainsContainDomainName referenceNSURL
        (withEntry "https://a.com").domainsProvisionedList "a.com" = true := by
  decide +kernel

theorem testsAgree_iff_listedAsSpelled_bareEntry :
    (withEntry "a.com").TestsAgree referenceNSURL false "key" "a.com" := by
  refine (testsAgree_iff_listedAsSpelled referenceNSURL_readsHosts _ _ _
    _).mpr ⟨?_, ?_⟩
  · exact fun _ _ _ _ _ => List.mem_singleton_self _
  · exact fun _ => by decide +kernel

end RevSDK
