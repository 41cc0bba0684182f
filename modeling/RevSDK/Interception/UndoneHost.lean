import RevSDK.Interception.HostReplacement

/-!
# Undoing the edge rewrite

The host that a request was sent with gives way to the header `X-Rev-Host`,
again where it occurs first in the text.  Here it is worked out when the text
of the client comes back.
-/

namespace RevSDK

open RevSDK.Foundation

namespace HostedURL

def IsClientText (u : HostedURL) (text : List Char) : Prop :=
  ∃ isProvisioned, text = (u.rewritten isProvisioned u.host).text

def undone (u : HostedURL) (header : Option (List Char)) : List Char :=
  match header, findFirst u.name u.text with
  | some host, some place =>
      let text := replaceAt u.text place u.name host
      if host ≠ [] ∧ (Reference.parse text).isSome = true then text else u.text
  | _, _ => u.text

/-- A header that makes no URL but the client's. -/
def Harmless (u : HostedURL) (header : Option (List Char)) : Prop :=
  ∀ host ∈ header, host ≠ [] → ∀ place ∈ findFirst u.name u.text,
    ∀ r ∈ Reference.parse (replaceAt u.text place u.name host),
      u.IsClientText r.text

/--
The processor finds the host in its place, and finds there what may stand for
it: the host itself or the name of another, with no escapes and brackets.
-/
def Replaceable (u : HostedURL) (edgeHost : List Char) : Prop :=
  IsPlain u.host ∧
    (edgeHost = u.host ∨
      ¬ u.Early ∧ isHost edgeHost = true ∧ IsPlain edgeHost ∧ edgeHost ≠ [])

/--
What has to hold for the record: over the standard transport the host must be
replaceable, and if it is another host, the header must be the host of the
client and the edge host must not occur before its place.  Otherwise the header
must do no harm.
-/
def Undoes (u : HostedURL) (isProvisioned isEdge : Bool) (edgeHost : List Char)
    (header : Option (List Char)) : Prop :=
  (isEdge = true → u.Replaceable edgeHost) ∧
    if isEdge = true ∧ edgeHost ≠ u.host then
      header = some u.host ∧
        ¬ edgeHost <:+: (if isProvisioned then u.scheme else "https".toList) ∧
        ∀ info ∈ u.authority.userInfo, ¬ edgeHost <:+: info
    else u.Harmless header

/-! ## Undoing the replacement -/

theorem text_ne_nil (u : HostedURL) : u.text ≠ [] := by
  rw [text_eq]
  simp [u.host_ne_nil]

section Undoing

variable {u v : HostedURL} {isProvisioned : Bool} {host : List Char}
  {header : Option (List Char)}

theorem isClientText_self (u : HostedURL) : u.IsClientText u.text :=
  ⟨true, rfl⟩

theorem undone_self (hheader : header = some u.name) :
    u.undone header = u.text := by
  subst hheader
  unfold undone
  cases hplace : findFirst u.name u.text with
  | none => rfl
  | some place =>
      obtain ⟨before, after, htext, rfl⟩ := findFirst_eq_some hplace
      have hsame : replaceAt u.text before.length u.name u.name = u.text := by
        rw [htext, replaceAt_append]
      simp [hsame]

theorem undone_of_found {place : Nat}
    (hplace : findFirst u.name u.text = some place) :
    u.undone (some host) =
      if host ≠ [] ∧ (Reference.parse
        (replaceAt u.text place u.name host)).isSome = true then
        replaceAt u.text place u.name host
      else u.text := by
  simp only [undone, hplace]

theorem undone_client_iff : u.IsClientText (u.undone header) ↔
    u.Harmless header := by
  cases header with
  | none => exact iff_of_true u.isClientText_self (by simp [Harmless])
  | some host =>
      cases hplace : findFirst u.name u.text with
      | none =>
          have hkept : u.undone (some host) = u.text := by
            simp [undone, hplace]
          rw [hkept]
          exact iff_of_true u.isClientText_self (by simp [Harmless, hplace])
      | some place =>
          rw [undone_of_found hplace]
          constructor
          · rintro hclient _ ⟨rfl⟩ hnonempty _ hsame r hr
            obtain rfl := Option.some.inj (hplace.symm.trans hsame)
            have hparsed : (Reference.parse
                (replaceAt u.text place u.name host)).isSome = true := by
              rw [Option.mem_def.mp hr]
              rfl
            rw [if_pos ⟨hnonempty, hparsed⟩] at hclient
            rwa [(Reference.parse_eq_some hr).2]
          · intro hharmless
            split
            next hreplaced =>
              obtain ⟨hnonempty, hparsed⟩ := hreplaced
              obtain ⟨r, hr⟩ := Option.isSome_iff_exists.mp hparsed
              have hclient := hharmless host rfl hnonempty place hplace r hr
              rwa [(Reference.parse_eq_some hr).2] at hclient
            next => exact u.isClientText_self

/-! ### A URL that was sent with another host -/

def beforeHost (u : HostedURL) (scheme : List Char) : List Char :=
  scheme ++ [':', '/', '/'] ++ ahead '@' u.authority.userInfo

theorem beforeHost_ends (u : HostedURL) :
    ∃ delimiter ∈ ['@', '/', '?', '#'], ∀ scheme, ∃ start,
      u.beforeHost scheme = start ++ [delimiter] := by
  unfold beforeHost
  cases u.authority.userInfo with
  | none => exact ⟨'/', by simp, fun scheme => ⟨scheme ++ [':', '/'], by
      simp [ahead]⟩⟩
  | some info => exact ⟨'@', by simp, fun scheme =>
      ⟨scheme ++ [':', '/', '/'] ++ info, by simp [ahead]⟩⟩

theorem rewritten_text (u : HostedURL) (isProvisioned : Bool)
    (host : List Char) :
    (u.rewritten isProvisioned host).text =
      u.beforeHost (if isProvisioned then u.scheme else "https".toList) ++
        host ++ u.tail := by
  simp [rewritten, reference, Reference.text, Reference.authorityText,
    Authority.text, beforeHost, tail, ahead]

theorem eq_of_beforeHost
    (hlower : u.scheme = "http".toList ∨ u.scheme = "https".toList)
    {isProvisioned' : Bool} {rest rest' : List Char}
    (hsame :
      u.beforeHost (if isProvisioned then u.scheme else "https".toList) ++
          rest =
        u.beforeHost (if isProvisioned' then u.scheme else "https".toList) ++
          rest') : rest = rest' := by
  revert hsame
  rcases hlower with hscheme | hscheme <;> cases isProvisioned <;>
    cases isProvisioned' <;> simp [beforeHost, hscheme]

theorem host_eq_of_texts {delimiter : Char}
    {start start' other rest : List Char} (hhost : delimiter ∉ host)
    (hother : delimiter ∉ other)
    (htexts : start ++ [delimiter] ++ host ++ rest =
      start' ++ [delimiter] ++ other ++ rest) : host = other := by
  have hfronts := congrArg List.reverse (List.append_cancel_right htexts)
  simp only [List.reverse_append, List.reverse_singleton,
    List.singleton_append] at hfronts
  have hcut := congrArg (fun text => (cut delimiter text).1) hfronts
  rw [cut_append (by simpa using hhost), cut_append (by simpa using hother)]
    at hcut
  exact List.reverse_injective hcut

theorem ends_behind {before start rest : List Char} {other delimiter : Char}
    (hsame : before ++ other :: rest = start ++ [delimiter]) :
    ∃ middle, other :: rest = middle ++ [delimiter] := by
  rcases List.eq_nil_or_concat (other :: rest) with hnil | ⟨middle, last, hlast⟩
  · cases hnil
  · rw [hlast, List.concat_eq_append, ← List.append_assoc] at hsame
    obtain ⟨-, hlast'⟩ := List.append_inj' hsame rfl
    exact ⟨middle, by rw [hlast, List.concat_eq_append, hlast']⟩

section Sent

variable {edgeHost : List Char}
  (hsent : v.reference = u.rewritten isProvisioned edgeHost)

include hsent

theorem sent_parts :
    v.scheme = (if isProvisioned then u.scheme else "https".toList) ∧
      v.authority = { u.authority with host := edgeHost } ∧
      v.front = u.beforeHost v.scheme ∧ v.tail = u.tail := by
  simp only [reference, rewritten, Reference.mk.injEq,
    Option.some.injEq] at hsent
  obtain ⟨hscheme, hauthority, hpath, hquery, hfragment⟩ := hsent
  refine ⟨hscheme, hauthority, ?_, ?_⟩
  · rw [front, beforeHost, hauthority]
  · rw [tail, tail, hauthority, hpath, hquery, hfragment]

theorem not_client_of_ends (hother : edgeHost ≠ u.host) :
    ∃ delimiter, (∃ start, v.front = start ++ [delimiter]) ∧ ∀ start,
      ¬ u.IsClientText (start ++ [delimiter] ++ edgeHost ++ u.tail) := by
  obtain ⟨-, hauthority, hfront, -⟩ := sent_parts hsent
  have hedge : isHost edgeHost = true := by
    have hhost := v.isHost_host
    rwa [HostedURL.host, hauthority] at hhost
  obtain ⟨delimiter, hdelimiter, hends⟩ := u.beforeHost_ends
  refine ⟨delimiter, hfront ▸ hends v.scheme, ?_⟩
  rintro start ⟨isProvisioned, htexts⟩
  obtain ⟨start', hstart⟩ :=
    hends (if isProvisioned then u.scheme else "https".toList)
  rw [rewritten_text, hstart] at htexts
  exact hother (host_eq_of_texts (notMem_of_isHost hedge hdelimiter)
    (notMem_of_isHost u.isHost_host hdelimiter) htexts)

variable (hname : v.name = edgeHost)

include hname

theorem sent_plain : v.host = edgeHost ∧ IsPlain v.host := by
  have hhost : v.host = edgeHost := by
    rw [HostedURL.host, (sent_parts hsent).2.1]
  exact ⟨hhost, v.isPlain_iff.mpr (hname.trans hhost.symm)⟩

variable (hother : edgeHost ≠ u.host)

include hother

theorem sent_not_client : ¬ u.IsClientText v.text := by
  obtain ⟨_, ⟨start, hstart⟩, hnot⟩ := not_client_of_ends hsent hother
  rw [text_eq, hstart, (sent_plain hsent hname).1, (sent_parts hsent).2.2.2]
  exact hnot start

theorem undone_early (hearly : v.Early) :
    ¬ u.IsClientText (v.undone header) := by
  obtain ⟨hhost, hplain⟩ := sent_plain hsent hname
  have hkept := sent_not_client hsent hname hother
  obtain ⟨delimiter, ⟨start, hstart⟩, hnot⟩ := not_client_of_ends hsent hother
  obtain ⟨before, after, other, rest, hfront, -, -, hplace⟩ :=
    findFirst_early hplain hearly
  rw [← v.isPlain_iff.mp hplain] at hplace
  cases header with
  | none => exact hkept
  | some replacing =>
      rw [undone_of_found hplace]
      split
      next =>
        rw [hfront] at hstart
        obtain ⟨middle, hmiddle⟩ := ends_behind hstart
        have htext : v.text = before ++ v.name ++
            (after ++ middle ++ [delimiter] ++ edgeHost ++ u.tail) := by
          rw [text_eq, hfront, hmiddle, v.isPlain_iff.mp hplain, hhost,
            (sent_parts hsent).2.2.2]
          simp
        rw [htext, replaceAt_append]
        have hreplaced := hnot (before ++ replacing ++ after ++ middle)
        simpa using hreplaced
      next => exact hkept

theorem undone_in_place (hlower : u.scheme = "http".toList ∨
    u.scheme = "https".toList) (hearly : ¬ v.Early) :
    u.IsClientText (v.undone header) ↔ header = some u.host := by
  obtain ⟨hscheme, -, hfront, htail⟩ := sent_parts hsent
  obtain ⟨-, hplain⟩ := sent_plain hsent hname
  have hkept := sent_not_client hsent hname hother
  have hplace := findFirst_host hplain hearly
  rw [← v.isPlain_iff.mp hplain] at hplace
  cases header with
  | none => exact iff_of_false hkept (by simp)
  | some replacing =>
      rw [undone_of_found hplace, v.isPlain_iff.mp hplain, replaced_in_place,
        hfront, htail, Option.some.injEq]
      constructor
      · intro hclient
        split at hclient
        next =>
          obtain ⟨isProvisioned', htexts⟩ := hclient
          rw [rewritten_text, hscheme] at htexts
          exact eq_of_beforeHost hlower (List.append_cancel_right htexts)
        next => exact absurd hclient hkept
      · rintro rfl
        have hvalid : (u.rewritten isProvisioned u.host).Valid :=
          valid_rewritten u.isHost_host
        have hparsed := Reference.parse_text hvalid
        rw [rewritten_text, ← hscheme] at hparsed
        rw [if_pos ⟨u.host_ne_nil, by rw [hparsed]; rfl⟩]
        exact ⟨isProvisioned, by rw [rewritten_text, hscheme]⟩

theorem undone_sent_iff (hlower : u.scheme = "http".toList ∨
    u.scheme = "https".toList) :
    u.IsClientText (v.undone header) ↔
      header = some u.host ∧
        ¬ edgeHost <:+: (if isProvisioned then u.scheme else "https".toList) ∧
        ∀ info ∈ u.authority.userInfo, ¬ edgeHost <:+: info := by
  obtain ⟨hscheme, hauthority, -, -⟩ := sent_parts hsent
  have hearly : v.Early ↔
      edgeHost <:+: (if isProvisioned then u.scheme else "https".toList) ∨
        ∃ info ∈ u.authority.userInfo, edgeHost <:+: info := by
    rw [Early, HostedURL.host, hauthority, hscheme]
  have hclear : ¬ v.Early ↔
      ¬ edgeHost <:+: (if isProvisioned then u.scheme else "https".toList) ∧
        ∀ info ∈ u.authority.userInfo, ¬ edgeHost <:+: info := by
    rw [hearly, not_or]
    simp
  rw [← hclear]
  by_cases hbefore : v.Early
  · exact iff_of_false (undone_early hsent hname hother hbefore)
      fun h => h.2 hbefore
  · rw [undone_in_place hsent hname hother hlower hbefore]
    exact (and_iff_left hbefore).symm

end Sent

theorem undone_own_iff (hsent : v.reference = u.rewritten isProvisioned u.host)
    (hheader : isProvisioned = false → header = some u.name) :
    u.IsClientText (v.undone header) ↔ u.Harmless header := by
  cases isProvisioned with
  | true =>
      obtain rfl : v = u := reference_injective hsent
      exact undone_client_iff
  | false =>
      obtain rfl := hheader rfl
      have hharmless : u.Harmless (some u.name) := by
        rw [← undone_client_iff, undone_self rfl]
        exact u.isClientText_self
      have hname : v.name = u.name := by
        have hnamed := v.named
        rw [(sent_parts hsent).2.1] at hnamed
        exact Option.some.inj (hnamed.symm.trans u.named)
      have hkept : v.undone (some u.name) = v.text :=
        undone_self (by rw [hname])
      rw [hkept]
      exact iff_of_true ⟨false, congrArg Reference.text hsent⟩ hharmless

end Undoing

end HostedURL

end RevSDK
