import RevSDK.Connection.URLReading
import RevSDK.Foundation.Search

/-!
# URLs with a host

The code finds the host of a URL in its text, where the name of the host occurs
first.  Here it is worked out what stands there: a host without escapes and
brackets is its own name, and no delimiter of the syntax is in it, so it occurs
before its place only within the scheme or the user info.
-/

namespace RevSDK

open RevSDK.Foundation

structure HostedURL where
  scheme : List Char
  authority : Authority
  path : List Char := []
  query : Option (List Char) := none
  fragment : Option (List Char) := none
  name : List Char
  named : hostName authority.host = some name
  hosted : name ≠ []
  valid : (Reference.mk (some scheme) (some authority) path query
    fragment).Valid

namespace HostedURL

def reference (u : HostedURL) : Reference :=
  ⟨some u.scheme, some u.authority, u.path, u.query, u.fragment⟩

def host (u : HostedURL) : List Char := u.authority.host

def text (u : HostedURL) : List Char := u.reference.text

def front (u : HostedURL) : List Char :=
  u.scheme ++ [':', '/', '/'] ++ ahead '@' u.authority.userInfo

def tail (u : HostedURL) : List Char :=
  behind ':' u.authority.port ++ u.path ++ behind '?' u.query ++
    behind '#' u.fragment

/-- The host also occurs before its place. -/
def Early (u : HostedURL) : Prop :=
  u.host <:+: u.scheme ∨ ∃ info ∈ u.authority.userInfo, u.host <:+: info

def behindName (u : HostedURL) : Option (List Char) :=
  (findFirst u.name u.text).map fun place =>
    u.text.drop (place + u.name.length)

instance (u : HostedURL) : Decidable u.Early :=
  inferInstanceAs (Decidable (_ ∨ _))

variable (u : HostedURL)

theorem text_eq : u.text = u.front ++ u.host ++ u.tail := by
  simp [text, Reference.text, reference, Reference.authorityText,
    Authority.text, front, host, tail, ahead]

theorem hostName_reference : u.reference.hostName = some u.name := by
  have hsome : (u.name.isEmpty) = false := by simpa using u.hosted
  simp [Reference.hostName, reference, u.named, hsome]

theorem valid_authority : u.authority.Valid := u.valid.authority _ rfl

theorem isHost_host : isHost u.host = true := u.valid_authority.host

theorem isScheme_scheme : isScheme u.scheme = true := u.valid.scheme _ rfl

theorem isPlain_iff : IsPlain u.host ↔ u.name = u.host := by
  unfold IsPlain host
  rw [u.named, Option.some.injEq]

theorem registered (hplain : IsPlain u.host) :
    isEscapedText isNameChar u.host = true := by
  rcases isPlain_or_shorter u.isHost_host u.named with hname | hshort
  · exact hname.2
  · rw [u.isPlain_iff.mp hplain] at hshort
    omega

theorem length_name_of_not_plain (hplain : ¬ IsPlain u.host) :
    u.name.length + 2 ≤ u.host.length := by
  rcases isPlain_or_shorter u.isHost_host u.named with hname | hshort
  · exact absurd (u.isPlain_iff.mpr hname.1) hplain
  · exact hshort

theorem host_ne_nil : u.host ≠ [] := by
  intro hnil
  have hempty : hostName u.host = some [] := by
    rw [hnil]
    exact decodeEscapes_of_notMem (by simp)
  have hname := u.named.symm.trans hempty
  exact u.hosted (Option.some.inj hname)

theorem reference_injective {u u' : HostedURL}
    (hsame : u.reference = u'.reference) : u = u' := by
  obtain ⟨scheme, authority, path, query, fragment, name, named, _, _⟩ := u
  obtain ⟨_, _, _, _, _, name', named', _, _⟩ := u'
  simp only [reference, Reference.mk.injEq, Option.some.injEq] at hsame
  obtain ⟨rfl, rfl, rfl, rfl, rfl⟩ := hsame
  obtain rfl := Option.some.inj (named.symm.trans named')
  rfl

theorem exists_of_reference {r : Reference} (hvalid : r.Valid)
    {scheme name : List Char} (hscheme : r.scheme = some scheme)
    (hname : r.hostName = some name) :
    ∃ u : HostedURL, u.reference = r ∧ u.name = name := by
  obtain ⟨_, authority, path, query, fragment⟩ := r
  obtain rfl := hscheme
  obtain ⟨hnamed, hnonempty⟩ := Option.filter_eq_some_iff.mp hname
  obtain ⟨authority, rfl, hnamed⟩ := Option.bind_eq_some_iff.mp hnamed
  exact ⟨⟨scheme, authority, path, query, fragment, name, hnamed,
    by simpa using hnonempty, hvalid⟩, rfl, rfl⟩

theorem name_ne_empty : String.ofList u.name ≠ "" := by
  simpa [String.ofList_eq_empty_iff] using u.hosted

theorem host_of_reads {u : HostedURL} {url : ParsedURL}
    (hreads : url.Reads u.reference) :
    url.host = some (String.ofList u.name) := by
  have hhost := hreads.host
  rw [hostName_reference, Option.map_some, Option.filter_eq_some_iff] at hhost
  exact hhost.1

section Plain

variable {u : HostedURL} (hplain : IsPlain u.host)

include hplain

theorem clear_scheme (hscheme : ¬ u.host <:+: u.scheme) :
    Clear u.host (u.scheme ++ [':', '/', '/']) := by
  have hcolon : ':' ∉ u.host :=
    notMem_of_registered (u.registered hplain) (by simp)
  have hslash : '/' ∉ u.host := notMem_of_isHost u.isHost_host (by simp)
  have hempty : ¬ u.host <:+: [] := by simpa using u.host_ne_nil
  have hlast := @Clear.segment _ _ [] _ _ hslash hempty .nil
  exact .segment hcolon hscheme (@Clear.segment _ _ [] _ _ hslash hempty hlast)

theorem findFirst_host (hearly : ¬ u.Early) :
    findFirst u.host u.text = some u.front.length := by
  simp only [Early, not_or, not_exists, not_and] at hearly
  have hat : '@' ∉ u.host := notMem_of_isHost u.isHost_host (by simp)
  have hinfo : Clear u.host (ahead '@' u.authority.userInfo) := by
    cases hsome : u.authority.userInfo with
    | none => exact .nil
    | some info => exact .segment hat (hearly.2 info hsome) .nil
  have hclear : Clear u.host u.front :=
    (clear_scheme hplain hearly.1).append hinfo
  rw [text_eq, List.append_assoc, findFirst_of_clear u.host_ne_nil hclear,
    findFirst_append_self u.host_ne_nil]
  simp

theorem findFirst_early (hearly : u.Early) :
    ∃ before after delimiter rest,
      u.front = before ++ u.host ++ after ++ delimiter :: rest ∧
        delimiter ∈ ['@', '/', '?', '#'] ∧ delimiter ∉ after ∧
        findFirst u.host u.text = some before.length := by
  have hcolon : ':' ∉ u.host :=
    notMem_of_registered (u.registered hplain) (by simp)
  have hat : '@' ∉ u.host := notMem_of_isHost u.isHost_host (by simp)
  by_cases hscheme : u.host <:+: u.scheme
  · obtain ⟨before, after, hsplit, hfirst⟩ := findFirst_of_infix
      u.host_ne_nil hcolon hscheme
      ('/' :: '/' :: ahead '@' u.authority.userInfo ++ u.host ++ u.tail)
    have hslash : '/' ∉ u.scheme := notMem_scheme u.isScheme_scheme (by simp)
    have hafter : '/' ∉ after ++ [':'] := by
      simp only [hsplit, List.mem_append, not_or] at hslash
      simpa using hslash.2
    refine ⟨before, after ++ [':'], '/',
      '/' :: ahead '@' u.authority.userInfo, ?_, by simp, hafter, ?_⟩
    · simp [front, hsplit]
    · rw [← hfirst, text_eq, front]
      simp
  · obtain ⟨info, hinfo, hoccurs⟩ := hearly.resolve_left hscheme
    obtain ⟨before, after, hsplit, hfirst⟩ := findFirst_of_infix
      u.host_ne_nil hat hoccurs (u.host ++ u.tail)
    have hnot : '@' ∉ info :=
      notMem_of_isEscapedText (u.valid_authority.userInfo info hinfo)
        (by decide) (by decide) (by decide)
    have hafter : '@' ∉ after := by
      simp only [hsplit, List.mem_append, not_or] at hnot
      exact hnot.2
    have hfront : u.front = u.scheme ++ [':', '/', '/'] ++ info ++ ['@'] := by
      simp [front, Option.mem_def.mp hinfo, ahead]
    refine ⟨u.scheme ++ [':', '/', '/'] ++ before, after, '@', [], ?_,
      by simp, hafter, ?_⟩
    · simp [hfront, hsplit]
    · have htext : u.text = (u.scheme ++ [':', '/', '/']) ++
          (info ++ '@' :: (u.host ++ u.tail)) := by
        simp [text_eq, hfront]
      rw [htext, findFirst_of_clear u.host_ne_nil (clear_scheme hplain hscheme),
        hfirst]
      simp
      omega

theorem behindName_plain :
    ∃ extra, u.behindName = some (extra ++ u.tail) ∧
      (u.Early ∧ 2 ≤ extra.length ∨ ¬ u.Early ∧ extra = []) := by
  have hname := u.isPlain_iff.mp hplain
  unfold behindName
  rw [hname]
  by_cases hearly : u.Early
  · obtain ⟨before, after, delimiter, rest, hfront, -, -, hplace⟩ :=
      findFirst_early hplain hearly
    have hlength := List.length_pos_iff.mpr u.host_ne_nil
    refine ⟨after ++ delimiter :: rest ++ u.host, ?_, .inl ⟨hearly, ?_⟩⟩
    · have htext : u.text = before ++ u.host ++
          (after ++ delimiter :: rest ++ u.host ++ u.tail) := by
        simp [text_eq, hfront]
      rw [hplace, Option.map_some, htext, ← List.length_append,
        List.drop_left]
    · simp only [List.length_append, List.length_cons]
      omega
  · refine ⟨[], ?_, .inr ⟨hearly, rfl⟩⟩
    rw [findFirst_host hplain hearly, Option.map_some, text_eq,
      ← List.length_append, List.drop_left, List.nil_append]

end Plain

theorem behindName_literal {address : List Char}
    (hliteral : literalAddress u.host = some address) :
    ∃ extra, u.behindName = some (extra ++ ']' :: u.tail) := by
  have hname : u.name = address := by
    have hnamed := u.named
    unfold host at hliteral
    rw [hostName, hliteral] at hnamed
    exact (Option.some.inj hnamed).symm
  obtain ⟨hhost, -, -⟩ := literalAddress_eq_some.mp hliteral
  have htext : u.text =
      u.front ++ ['['] ++ u.name ++ ']' :: u.tail := by
    simp [text_eq, hhost, hname]
  obtain ⟨place, hle, hplace⟩ :=
    findFirst_le u.hosted (u.front ++ ['[']) (']' :: u.tail)
  refine ⟨(u.front ++ ['['] ++ u.name).drop (place + u.name.length), ?_⟩
  rw [behindName, htext, hplace, Option.map_some,
    List.drop_append_of_le_length]
  rw [List.length_append]
  omega

/-! ### What may be found behind the name -/

section Finding

variable {wanted : List Char → Prop}
  (hshort : ∀ rest, wanted rest → rest.length < u.tail.length + 2)

include hshort

theorem plain_finds_iff (hplain : IsPlain u.host) :
    (∃ rest ∈ u.behindName, wanted rest) ↔ ¬ u.Early ∧ wanted u.tail := by
  obtain ⟨extra, hbehind, hextra⟩ := behindName_plain hplain
  rw [hbehind]
  simp only [Option.mem_some_iff, exists_eq_left']
  rcases hextra with ⟨hearly, hlong⟩ | ⟨hearly, rfl⟩
  · simp only [hearly, not_true, false_and, iff_false]
    intro hwanted
    have hlength := hshort _ hwanted
    rw [List.length_append] at hlength
    omega
  · simp [hearly]

theorem literal_finds {address : List Char}
    (hliteral : literalAddress u.host = some address)
    (hfinds : ∃ rest ∈ u.behindName, wanted rest) :
    wanted (']' :: u.tail) := by
  obtain ⟨extra, hbehind⟩ := u.behindName_literal hliteral
  rw [hbehind] at hfinds
  simp only [Option.mem_some_iff, exists_eq_left'] at hfinds
  have hlength := hshort _ hfinds
  rw [List.length_append, List.length_cons] at hlength
  have hnil : extra = [] := List.length_eq_zero_iff.mp (by omega)
  rwa [hnil] at hfinds

end Finding

end HostedURL

/-! ## Searching strings -/

section Strings

variable {text name : List Char}

theorem afterFirst_eq (hname : name ≠ []) (text : List Char) :
    afterFirst name text =
      (findFirst name text).map fun place =>
        text.drop (place + name.length) := by
  induction text with
  | nil => simp [afterFirst, findFirst_nil]
  | cons char text ih =>
      rw [afterFirst, findFirst_cons hname]
      by_cases hprefix : name <+: char :: text
      · rw [if_pos (List.isPrefixOf_iff_prefix.mpr hprefix), if_pos hprefix]
        simp
      · rw [if_neg (List.isPrefixOf_iff_prefix.not.mpr hprefix),
          if_neg hprefix, ih, Option.map_map]
        congr 1
        funext place
        simp [Nat.add_right_comm]

theorem restAfterHost_ofList (hname : name ≠ []) :
    restAfterHost (String.ofList text) (String.ofList name) =
      match findFirst name text with
      | none => .error (.exceptionRaised "NSRangeException")
      | some place =>
          .ok (String.ofList (text.drop (place + name.length))) := by
  have hempty : (String.ofList name).isEmpty = false := by
    simpa [String.isEmpty_eq_false_iff] using hname
  unfold restAfterHost
  rw [hempty, String.toList_ofList, String.toList_ofList,
    afterFirst_eq hname]
  cases findFirst name text <;> rfl

theorem HostedURL.restAfterHost_eq (u : HostedURL) :
    restAfterHost (String.ofList u.text) (String.ofList u.name) =
      match u.behindName with
      | none => .error (.exceptionRaised "NSRangeException")
      | some rest => .ok (String.ofList rest) := by
  rw [restAfterHost_ofList u.hosted, behindName]
  cases findFirst u.name u.text <;> rfl

end Strings

end RevSDK
