import Mathlib.Data.List.Basic
import Mathlib.Data.List.Infix

/-!
# URI references

The generic syntax: a reference is its five components, its text is made by
putting them together again, and `read` takes a text apart at the delimiters.
A host is a registered name, in which octets may be escaped, or the literal of
an address in brackets; its name is what is left without escapes and brackets.
-/

namespace RevSDK.Foundation

structure Authority where
  userInfo : Option (List Char) := none
  host : List Char
  port : Option (List Char) := none
  deriving DecidableEq

structure Reference where
  scheme : Option (List Char) := none
  authority : Option Authority := none
  path : List Char := []
  query : Option (List Char) := none
  fragment : Option (List Char) := none
  deriving DecidableEq

/-! ## Characters -/

def isHexDigit (c : Char) : Bool :=
  c.isDigit || ('a' ≤ c && c ≤ 'f') || ('A' ≤ c && c ≤ 'F')

def isUnreserved (c : Char) : Bool :=
  c.isAlphanum || c == '-' || c == '.' || c == '_' || c == '~'

def isSubDelim (c : Char) : Bool :=
  c == '!' || c == '$' || c == '&' || c.toNat == 39 || c == '(' || c == ')' ||
    c == '*' || c == '+' || c == ',' || c == ';' || c == '='

def isNameChar (c : Char) : Bool := isUnreserved c || isSubDelim c

def isUserInfoChar (c : Char) : Bool := isNameChar c || c == ':'

def isPathChar (c : Char) : Bool :=
  isNameChar c || c == ':' || c == '@' || c == '/'

def isQueryChar (c : Char) : Bool := isPathChar c || c == '?'

def isAddressChar (c : Char) : Bool := isHexDigit c || c == ':' || c == '.'

def isEscapedText (allowed : Char → Bool) : List Char → Bool
  | [] => true
  | '%' :: high :: low :: rest =>
      isHexDigit high && isHexDigit low && isEscapedText allowed rest
  | c :: rest => c != '%' && allowed c && isEscapedText allowed rest

/-! ## Hosts -/

def isDecOctet (text : List Char) : Bool :=
  text.all Char.isDigit && !text.isEmpty && text.length ≤ 3 &&
    text.foldl (fun value c => value * 10 + (c.toNat - '0'.toNat)) 0 ≤ 255

def isIPv4Address (text : List Char) : Bool :=
  let octets := text.splitOn '.'
  octets.length == 4 && octets.all isDecOctet

def isGroup (text : List Char) : Bool :=
  text.all isHexDigit && !text.isEmpty && text.length ≤ 4

/-- The number of 16-bit groups; an address of version 4 may stand last. -/
def groupsOf (text : List Char) : Option Nat :=
  if text.isEmpty then some 0
  else
    let parts := text.splitOn ':'
    if parts.all isGroup then some parts.length
    else if parts.dropLast.all isGroup &&
        (parts.getLast?.map isIPv4Address).getD false then
      some (parts.length + 1)
    else none

def cutDoubleColon : List Char → Option (List Char × List Char)
  | [] => none
  | ':' :: ':' :: rest => some ([], rest)
  | c :: rest => (cutDoubleColon rest).map fun cut => (c :: cut.1, cut.2)

def isIPv6Address (text : List Char) : Bool :=
  match cutDoubleColon text with
  | none => groupsOf text == some 8
  | some (before, behind) =>
      (before.isEmpty || (before.splitOn ':').all isGroup) &&
        match groupsOf before, groupsOf behind with
        | some left, some right => left + right ≤ 7
        | _, _ => false

def literalAddress : List Char → Option (List Char)
  | '[' :: rest =>
      if rest.getLast? = some ']' ∧ rest.dropLast.all isAddressChar = true ∧
          isIPv6Address rest.dropLast = true then some rest.dropLast
      else none
  | _ => none

def isHost (host : List Char) : Bool :=
  (literalAddress host).isSome || isEscapedText isNameChar host

def hexValue (c : Char) : Nat :=
  if c.isDigit then c.toNat - '0'.toNat
  else if 'a' ≤ c && c ≤ 'f' then c.toNat - 'a'.toNat + 10
  else c.toNat - 'A'.toNat + 10

def unescape : List Char → List UInt8
  | [] => []
  | '%' :: high :: low :: rest =>
      (hexValue high * 16 + hexValue low).toUInt8 :: unescape rest
  | c :: rest => String.utf8EncodeChar c ++ unescape rest

def decodeEscapes (text : List Char) : Option (List Char) :=
  (unescape text).toByteArray.utf8Decode?.map Array.toList

def escape (text : List Char) : List Char :=
  (text.flatMap String.utf8EncodeChar).flatMap fun octet =>
    ['%', Nat.digitChar (octet.toNat / 16), Nat.digitChar (octet.toNat % 16)]

def hostName (host : List Char) : Option (List Char) :=
  match literalAddress host with
  | some address => some address
  | none => decodeEscapes host

/-! ## Validity -/

def isScheme (scheme : List Char) : Bool :=
  (scheme.head?.map Char.isAlpha).getD false &&
    scheme.all fun c => c.isAlphanum || c == '+' || c == '-' || c == '.'

structure Authority.Valid (authority : Authority) : Prop where
  userInfo : ∀ userInfo ∈ authority.userInfo,
    isEscapedText isUserInfoChar userInfo = true
  host : isHost authority.host = true
  port : ∀ port ∈ authority.port, port.all Char.isDigit = true

/-- The path does not look like another component. -/
def Reference.pathFits (r : Reference) : Bool :=
  match r.authority with
  | some _ => r.path.isEmpty || r.path.head? == some '/'
  | none => !(['/', '/'].isPrefixOf r.path) &&
      (r.scheme.isSome || !(r.path.takeWhile (· != '/')).contains ':')

structure Reference.Valid (r : Reference) : Prop where
  scheme : ∀ scheme ∈ r.scheme, isScheme scheme = true
  authority : ∀ authority ∈ r.authority, authority.Valid
  path : isEscapedText isPathChar r.path = true
  query : ∀ query ∈ r.query, isEscapedText isQueryChar query = true
  fragment : ∀ fragment ∈ r.fragment, isEscapedText isQueryChar fragment = true
  fits : r.pathFits = true

instance (authority : Authority) : Decidable authority.Valid :=
  decidable_of_iff
    ((∀ userInfo ∈ authority.userInfo,
        isEscapedText isUserInfoChar userInfo = true) ∧
      isHost authority.host = true ∧
      ∀ port ∈ authority.port, port.all Char.isDigit = true)
    ⟨fun ⟨h₁, h₂, h₃⟩ => ⟨h₁, h₂, h₃⟩, fun ⟨h₁, h₂, h₃⟩ => ⟨h₁, h₂, h₃⟩⟩

instance (r : Reference) : Decidable r.Valid :=
  decidable_of_iff
    ((∀ scheme ∈ r.scheme, isScheme scheme = true) ∧
      (∀ authority ∈ r.authority, authority.Valid) ∧
      isEscapedText isPathChar r.path = true ∧
      (∀ query ∈ r.query, isEscapedText isQueryChar query = true) ∧
      (∀ fragment ∈ r.fragment, isEscapedText isQueryChar fragment = true) ∧
      r.pathFits = true)
    ⟨fun ⟨h₁, h₂, h₃, h₄, h₅, h₆⟩ => ⟨h₁, h₂, h₃, h₄, h₅, h₆⟩,
      fun ⟨h₁, h₂, h₃, h₄, h₅, h₆⟩ => ⟨h₁, h₂, h₃, h₄, h₅, h₆⟩⟩

/-! ## Texts -/

def behind (delimiter : Char) : Option (List Char) → List Char
  | none => []
  | some component => delimiter :: component

def ahead (delimiter : Char) : Option (List Char) → List Char
  | none => []
  | some component => component ++ [delimiter]

namespace Authority

def text (authority : Authority) : List Char :=
  ahead '@' authority.userInfo ++ authority.host ++ behind ':' authority.port

end Authority

namespace Reference

def authorityText (r : Reference) : List Char :=
  match r.authority with
  | none => []
  | some authority => '/' :: '/' :: authority.text

def text (r : Reference) : List Char :=
  ahead ':' r.scheme ++ r.authorityText ++ r.path ++ behind '?' r.query ++
    behind '#' r.fragment

def hostName (r : Reference) : Option (List Char) :=
  (r.authority.bind fun authority => Foundation.hostName authority.host).filter
    (!·.isEmpty)

end Reference

/-! ## Reading -/

def cut (delimiter : Char) : List Char → List Char × Option (List Char)
  | [] => ([], none)
  | c :: rest =>
      if c = delimiter then ([], some rest)
      else (c :: (cut delimiter rest).1, (cut delimiter rest).2)

def readHostPort (text : List Char) : List Char × Option (List Char) :=
  if text.head? = some '[' then
    match cut ']' text with
    | (literal, none) => (literal, none)
    | (literal, some rest) => (literal ++ [']'], (cut ':' rest).2)
  else cut ':' text

def readAuthority (text : List Char) : Authority :=
  let (userInfo, rest) := match cut '@' text with
    | (userInfo, some rest) => (some userInfo, rest)
    | (rest, none) => (none, rest)
  let (host, port) := readHostPort rest
  ⟨userInfo, host, port⟩

def readHierarchy : List Char → Option Authority × List Char
  | '/' :: '/' :: rest =>
      (some (readAuthority (rest.takeWhile (· != '/'))),
        rest.dropWhile (· != '/'))
  | path => (none, path)

def readScheme (text : List Char) : Option (List Char) × List Char :=
  match cut ':' text with
  | (scheme, some rest) =>
      if isScheme scheme then (some scheme, rest) else (none, text)
  | (_, none) => (none, text)

def Reference.read (text : List Char) : Reference :=
  let (text, fragment) := cut '#' text
  let (text, query) := cut '?' text
  let (scheme, text) := readScheme text
  let (authority, path) := readHierarchy text
  ⟨scheme, authority, path, query, fragment⟩

def Reference.parse (text : List Char) : Option Reference :=
  let r := Reference.read text
  if r.Valid ∧ r.text = text then some r else none

/-! ## Delimiters -/

section Delimiters

variable {delimiter : Char} {allowed : Char → Bool} {text : List Char}

theorem notMem_of_isEscapedText (htext : isEscapedText allowed text = true)
    (hpercent : delimiter ≠ '%') (hhex : isHexDigit delimiter = false)
    (hallowed : allowed delimiter = false) : delimiter ∉ text := by
  induction text using isEscapedText.induct with
  | case1 => simp
  | case2 high low rest ih =>
      simp only [isEscapedText, Bool.and_eq_true] at htext
      obtain ⟨⟨hhigh, hlow⟩, hrest⟩ := htext
      have hne : ∀ {c}, isHexDigit c = true → delimiter ≠ c := by
        rintro c hc rfl
        simp [hhex] at hc
      simp [hpercent, hne hhigh, hne hlow, ih hrest]
  | case3 c rest hescape ih =>
      rw [isEscapedText] at htext
      · simp only [Bool.and_eq_true] at htext
        obtain ⟨⟨-, hc⟩, hrest⟩ := htext
        have hne : delimiter ≠ c := by
          rintro rfl
          simp [hallowed] at hc
        simp [hne, ih hrest]
      · exact hescape

theorem cut_of_notMem (h : delimiter ∉ text) :
    cut delimiter text = (text, none) := by
  induction text with
  | nil => rfl
  | cons c text ih =>
      simp only [List.mem_cons, not_or] at h
      simp [cut, Ne.symm h.1, ih h.2]

theorem cut_append (h : delimiter ∉ text) (rest : List Char) :
    cut delimiter (text ++ delimiter :: rest) = (text, some rest) := by
  induction text with
  | nil => simp [cut]
  | cons c text ih =>
      simp only [List.mem_cons, not_or] at h
      simp [cut, Ne.symm h.1, ih h.2]

theorem cut_behind (h : delimiter ∉ text) (component : Option (List Char)) :
    cut delimiter (text ++ behind delimiter component) =
      (text, component) := by
  cases component with
  | none => simpa [behind] using cut_of_notMem h
  | some component => exact cut_append h component

theorem notMem_behind {other : Char} (hne : delimiter ≠ other)
    {component : Option (List Char)}
    (h : ∀ part ∈ component, delimiter ∉ part) :
    delimiter ∉ behind other component := by
  cases component with
  | none => simp [behind]
  | some part => simpa [behind, hne] using h part rfl

theorem notMem_ahead {other : Char} (hne : delimiter ≠ other)
    {component : Option (List Char)}
    (h : ∀ part ∈ component, delimiter ∉ part) :
    delimiter ∉ ahead other component := by
  cases component with
  | none => simp [ahead]
  | some part => simpa [ahead, hne] using h part rfl

end Delimiters

section Hosts

variable {host address : List Char}

theorem literalAddress_eq_some :
    literalAddress host = some address ↔
      host = '[' :: (address ++ [']']) ∧
        address.all isAddressChar = true ∧ isIPv6Address address = true := by
  constructor
  · intro h
    unfold literalAddress at h
    split at h
    next rest =>
      split at h
      next haddress =>
        obtain ⟨hlast, hchars, hgroups⟩ := haddress
        obtain rfl := Option.some.inj h
        obtain ⟨front, rfl⟩ := List.getLast?_eq_some_iff.mp hlast
        rw [List.dropLast_concat] at hchars hgroups ⊢
        exact ⟨rfl, hchars, hgroups⟩
      next => contradiction
    next => contradiction
  · rintro ⟨rfl, hchars, hgroups⟩
    unfold literalAddress
    simp [hchars, hgroups]

theorem notMem_of_isHost {delimiter : Char} (hhost : isHost host = true)
    (hdelimiter : delimiter ∈ ['@', '/', '?', '#']) : delimiter ∉ host := by
  have hclasses : delimiter ≠ '%' ∧ isHexDigit delimiter = false ∧
      isNameChar delimiter = false ∧ isAddressChar delimiter = false ∧
      delimiter ≠ '[' ∧ delimiter ≠ ']' := by
    simp only [List.mem_cons, List.not_mem_nil, or_false] at hdelimiter
    rcases hdelimiter with rfl | rfl | rfl | rfl <;> decide
  obtain ⟨hpercent, hhex, hname, haddress, hopen, hclose⟩ := hclasses
  rw [isHost, Bool.or_eq_true] at hhost
  rcases hhost with hliteral | hregistered
  · obtain ⟨address, hliteral⟩ := Option.isSome_iff_exists.mp hliteral
    obtain ⟨rfl, hchars, -⟩ := literalAddress_eq_some.mp hliteral
    have hnot : delimiter ∉ address := fun hmem => by
      have hchar := List.all_eq_true.mp hchars delimiter hmem
      simp [haddress] at hchar
    simp [hopen, hclose, hnot]
  · exact notMem_of_isEscapedText hregistered hpercent hhex hname

theorem notMem_of_registered {delimiter : Char}
    (hhost : isEscapedText isNameChar host = true)
    (hdelimiter : delimiter ∈ [':', '[', ']']) : delimiter ∉ host := by
  have hclasses : delimiter ≠ '%' ∧ isHexDigit delimiter = false ∧
      isNameChar delimiter = false := by
    simp only [List.mem_cons, List.not_mem_nil, or_false] at hdelimiter
    rcases hdelimiter with rfl | rfl | rfl <;> decide
  exact notMem_of_isEscapedText hhost hclasses.1 hclasses.2.1 hclasses.2.2

end Hosts

/-! ## Names of hosts -/

section Names

variable {host name text : List Char}

theorem isNameChar_toNat {c : Char} (hc : isNameChar c = true) :
    c.val.toNat ≤ 127 := by
  have halphanum : c.isAlphanum =
      (decide (65 ≤ c.val ∧ c.val ≤ 90) || (97 ≤ c.val && c.val ≤ 122) ||
        (48 ≤ c.val && c.val ≤ 57)) := rfl
  simp only [isNameChar, isUnreserved, isSubDelim, halphanum, Bool.or_eq_true,
    Bool.and_eq_true, decide_eq_true_eq, beq_iff_eq, UInt32.le_iff_toNat_le,
    Char.toNat, Char.ext_iff, ← UInt32.toNat_inj] at hc
  simp only [Char.reduceVal, UInt32.reduceToNat] at hc
  omega

theorem length_utf8EncodeChar_of_isNameChar {c : Char}
    (hc : isNameChar c = true) : (String.utf8EncodeChar c).length = 1 := by
  have hsmall : c.val ≤ 0x7F := by
    rw [UInt32.le_iff_toNat_le]
    exact isNameChar_toNat hc
  rw [String.length_utf8EncodeChar]
  exact if_pos hsmall

theorem unescape_of_notMem (h : '%' ∉ text) :
    unescape text = text.flatMap String.utf8EncodeChar := by
  induction text using unescape.induct with
  | case1 => rfl
  | case2 high low rest ih => simp at h
  | case3 c rest hescape ih =>
      simp only [List.mem_cons, not_or] at h
      rw [unescape]
      · rw [ih h.2]
        rfl
      · exact hescape

theorem decodeEscapes_of_notMem (h : '%' ∉ text) :
    decodeEscapes text = some text := by
  have hencoded : (unescape text).toByteArray = text.utf8Encode := by
    rw [unescape_of_notMem h]
    rfl
  rw [decodeEscapes, hencoded, List.utf8Decode?_utf8Encode]
  simp

theorem length_unescape (h : isEscapedText isNameChar text = true) :
    (unescape text).length + 2 * text.count '%' = text.length := by
  induction text using isEscapedText.induct with
  | case1 => rfl
  | case2 high low rest ih =>
      simp only [isEscapedText, Bool.and_eq_true] at h
      have hne : ∀ {c}, isHexDigit c = true → c ≠ '%' := by
        rintro c hc rfl
        exact absurd hc (by decide)
      have hrest := ih h.2
      simp only [unescape, List.length_cons, List.count_cons_self,
        List.count_cons_of_ne (hne h.1.1), List.count_cons_of_ne (hne h.1.2)]
      omega
  | case3 c rest hescape ih =>
      rw [isEscapedText] at h
      · simp only [Bool.and_eq_true, bne_iff_ne] at h
        obtain ⟨⟨hpercent, hname⟩, hrest⟩ := h
        have hlength := ih hrest
        rw [unescape]
        · rw [List.length_append, length_utf8EncodeChar_of_isNameChar hname,
            List.count_cons_of_ne hpercent, List.length_cons]
          omega
        · exact hescape
      · exact hescape

theorem length_le_unescape (h : decodeEscapes text = some name) :
    name.length ≤ (unescape text).length := by
  obtain ⟨chars, hchars, rfl⟩ := Option.map_eq_some_iff.mp h
  have hsome : ((unescape text).toByteArray.utf8Decode?).isSome = true := by
    rw [hchars]
    rfl
  have hencoded := @ByteArray.utf8Encode_get_utf8Decode? _ hsome
  simp only [hchars, Option.get_some] at hencoded
  have hsize := congrArg ByteArray.size hencoded
  rw [List.utf8Encode, List.size_toByteArray, List.size_toByteArray,
    List.length_flatMap] at hsize
  rw [← hsize]
  generalize chars.toList = text
  induction text with
  | nil => simp
  | cons c text ih =>
      have hc := List.length_pos_iff.mpr (@String.utf8EncodeChar_ne_nil c)
      simp only [List.length_cons, List.map_cons, List.sum_cons]
      omega

/-- A host without escapes and brackets is its own name. -/
def IsPlain (host : List Char) : Prop := hostName host = some host

instance (host : List Char) : Decidable (IsPlain host) :=
  inferInstanceAs (Decidable (_ = _))

theorem literalAddress_registered
    (hhost : isEscapedText isNameChar host = true) :
    literalAddress host = none := by
  rw [Option.eq_none_iff_forall_ne_some]
  intro address haddress
  obtain ⟨rfl, -, -⟩ := literalAddress_eq_some.mp haddress
  have hopen : '[' ∉ '[' :: (address ++ [']']) :=
    notMem_of_registered hhost (by simp)
  simp at hopen

theorem hostName_registered (hhost : isEscapedText isNameChar host = true)
    (hpercent : '%' ∉ host) : hostName host = some host := by
  rw [hostName, literalAddress_registered hhost]
  exact decodeEscapes_of_notMem hpercent

theorem isPlain_or_shorter (hhost : isHost host = true)
    (hname : hostName host = some name) :
    (name = host ∧ isEscapedText isNameChar host = true) ∨
      name.length + 2 ≤ host.length := by
  unfold hostName at hname
  cases hliteral : literalAddress host with
  | some address =>
      rw [hliteral] at hname
      obtain rfl := Option.some.inj hname
      obtain ⟨rfl, -, -⟩ := literalAddress_eq_some.mp hliteral
      exact .inr (by simp)
  | none =>
      rw [isHost, hliteral, Option.isSome_none, Bool.false_or] at hhost
      rw [hliteral] at hname
      by_cases hpercent : '%' ∈ host
      · have hshort := length_le_unescape hname
        have hlength := length_unescape hhost
        have hcount := List.count_pos_iff.mpr hpercent
        exact .inr (by omega)
      · rw [decodeEscapes_of_notMem hpercent] at hname
        exact .inl ⟨(Option.some.inj hname).symm, hhost⟩

theorem hexValue_digitChar {n : Nat} (hn : n < 16) :
    isHexDigit n.digitChar = true ∧ hexValue n.digitChar = n := by
  have hall : ∀ n < 16, isHexDigit n.digitChar = true ∧
      hexValue n.digitChar = n := by decide
  exact hall n hn

theorem isEscapedText_escape (text : List Char) :
    isEscapedText isNameChar (escape text) = true := by
  unfold escape
  induction text.flatMap String.utf8EncodeChar with
  | nil => rfl
  | cons octet octets ih =>
      have hsize := octet.toNat_lt
      have hhigh := (@hexValue_digitChar (octet.toNat / 16) (by omega)).1
      have hlow := (@hexValue_digitChar (octet.toNat % 16) (by omega)).1
      simpa [isEscapedText, hhigh, hlow] using ih

theorem unescape_escape (text : List Char) :
    unescape (escape text) = text.flatMap String.utf8EncodeChar := by
  unfold escape
  induction text.flatMap String.utf8EncodeChar with
  | nil => rfl
  | cons octet octets ih =>
      have hsize := octet.toNat_lt
      have hhigh := (@hexValue_digitChar (octet.toNat / 16) (by omega)).2
      have hlow := (@hexValue_digitChar (octet.toNat % 16) (by omega)).2
      have hoctet : octet.toNat / 16 * 16 + octet.toNat % 16 =
          octet.toNat := by omega
      simp only [List.flatMap_cons, List.cons_append, List.nil_append,
        unescape, ih, hhigh, hlow, hoctet]
      simp

theorem hostName_escape (text : List Char) :
    hostName (escape text) = some text := by
  have hencoded : (unescape (escape text)).toByteArray = text.utf8Encode := by
    rw [unescape_escape]
    rfl
  rw [hostName, literalAddress_registered (isEscapedText_escape text)]
  simp [decodeEscapes, hencoded, List.utf8Decode?_utf8Encode]

def spelled (name : List Char) : List Char :=
  if isHost name = true ∧ IsPlain name then name else escape name

theorem spelled_isHost (name : List Char) :
    isHost (spelled name) = true ∧ hostName (spelled name) = some name := by
  unfold spelled
  split
  next hplain => exact hplain
  next =>
    refine ⟨?_, hostName_escape name⟩
    rw [isHost, isEscapedText_escape, Bool.or_true]

end Names

/-! ## Reading a text back -/

section RoundTrip

theorem readHostPort_text {host : List Char} (hhost : isHost host = true)
    (port : Option (List Char)) :
    readHostPort (host ++ behind ':' port) = (host, port) := by
  rw [isHost, Bool.or_eq_true] at hhost
  rcases hhost with hliteral | hregistered
  · obtain ⟨address, hliteral⟩ := Option.isSome_iff_exists.mp hliteral
    obtain ⟨rfl, hchars, -⟩ := literalAddress_eq_some.mp hliteral
    have hclose : ']' ∉ '[' :: address := by
      intro hmem
      simp only [List.mem_cons, show (']' : Char) ≠ '[' by decide,
        false_or] at hmem
      have hchar := List.all_eq_true.mp hchars ']' hmem
      exact absurd hchar (by decide)
    have hcut := cut_append hclose (behind ':' port)
    have hport : (cut ':' (behind ':' port)).2 = port := by
      cases port <;> simp [behind, cut]
    unfold readHostPort
    simp only [List.cons_append, List.append_assoc, List.head?_cons, if_true,
      List.nil_append] at hcut ⊢
    rw [hcut]
    simp [hport]
  · have hopen : '[' ∉ host := notMem_of_registered hregistered (by simp)
    have hcolon : ':' ∉ host := notMem_of_registered hregistered (by simp)
    have hhead : (host ++ behind ':' port).head? ≠ some '[' := by
      cases host with
      | nil => cases port <;> simp [behind]
      | cons c host =>
          simp only [List.mem_cons, not_or] at hopen
          simpa using Ne.symm hopen.1
    rw [readHostPort, if_neg hhead]
    exact cut_behind hcolon port

theorem Authority.Valid.at_notMem {authority : Authority}
    (h : authority.Valid) :
    '@' ∉ authority.host ++ behind ':' authority.port := by
  have hport : '@' ∉ behind ':' authority.port := by
    refine notMem_behind (by decide) fun port hport hmem => ?_
    have hdigit := List.all_eq_true.mp (h.port port hport) '@' hmem
    exact absurd hdigit (by decide)
  simp [notMem_of_isHost h.host (List.mem_cons_self), hport]

theorem readAuthority_text {authority : Authority} (h : authority.Valid) :
    readAuthority authority.text = authority := by
  obtain ⟨userInfo, host, port⟩ := authority
  unfold readAuthority Authority.text
  cases userInfo with
  | none =>
      have hcut := cut_of_notMem h.at_notMem
      simp only [ahead, List.nil_append] at hcut ⊢
      rw [hcut]
      simp only [readHostPort_text h.host]
  | some userInfo =>
      have hat : '@' ∉ userInfo :=
        notMem_of_isEscapedText (h.userInfo userInfo rfl) (by decide)
          (by decide) (by decide)
      have hcut := cut_append hat (host ++ behind ':' port)
      simp only [ahead, List.append_assoc, List.cons_append,
        List.nil_append] at hcut ⊢
      rw [hcut]
      simp only [readHostPort_text h.host]

theorem Authority.Valid.notMem_text {authority : Authority}
    (h : authority.Valid) {delimiter : Char}
    (hdelimiter : delimiter ∈ ['/', '?', '#']) :
    delimiter ∉ authority.text := by
  have hclasses : delimiter ≠ '%' ∧ isHexDigit delimiter = false ∧
      isUserInfoChar delimiter = false ∧ delimiter.isDigit = false ∧
      delimiter ≠ '@' ∧ delimiter ≠ ':' ∧
      delimiter ∈ ['@', '/', '?', '#'] := by
    simp only [List.mem_cons, List.not_mem_nil, or_false] at hdelimiter
    rcases hdelimiter with rfl | rfl | rfl <;> decide
  obtain ⟨hpercent, hhex, huser, hdigit, hat, hcolon, hhost⟩ := hclasses
  have huserInfo : delimiter ∉ ahead '@' authority.userInfo :=
    notMem_ahead hat fun userInfo hinfo =>
      notMem_of_isEscapedText (h.userInfo userInfo hinfo) hpercent hhex huser
  have hport : delimiter ∉ behind ':' authority.port :=
    notMem_behind hcolon fun port hport hmem => by
      have hall := List.all_eq_true.mp (h.port port hport) delimiter hmem
      simp [hdigit] at hall
  simp [Authority.text, huserInfo, hport, notMem_of_isHost h.host hhost]

theorem takeWhile_append_slash {front path : List Char} (hfront : '/' ∉ front)
    (hpath : path = [] ∨ path.head? = some '/') :
    (front ++ path).takeWhile (· != '/') = front ∧
      (front ++ path).dropWhile (· != '/') = path := by
  induction front with
  | nil =>
      rcases hpath with rfl | hhead
      · exact ⟨rfl, rfl⟩
      · cases path with
        | nil => cases hhead
        | cons c path =>
            obtain rfl := Option.some.inj hhead
            exact ⟨rfl, rfl⟩
  | cons c front ih =>
      simp only [List.mem_cons, not_or] at hfront
      have hc : (c != '/') = true := by simpa using Ne.symm hfront.1
      simp [hc, ih hfront.2]

theorem cut_eq_some {delimiter : Char} {text front rest : List Char}
    (h : cut delimiter text = (front, some rest)) :
    text = front ++ delimiter :: rest ∧ delimiter ∉ front := by
  induction text generalizing front with
  | nil => simp [cut] at h
  | cons c text ih =>
      rw [cut] at h
      split at h
      next hc =>
        obtain ⟨rfl, hrest⟩ := Prod.mk.inj h
        obtain rfl := Option.some.inj hrest
        simp [hc]
      next hc =>
        obtain ⟨rfl, hrest⟩ := Prod.mk.inj h
        obtain ⟨htext, hfront⟩ := ih (Prod.ext rfl hrest)
        refine ⟨congrArg (c :: ·) htext, ?_⟩
        simp [Ne.symm hc, hfront]

theorem readScheme_none {text : List Char}
    (h : ':' ∉ text.takeWhile (· != '/')) :
    readScheme text = (none, text) := by
  unfold readScheme
  split
  next front rest hcut =>
    obtain ⟨rfl, hcolon⟩ := cut_eq_some hcut
    have hslash : '/' ∈ front := by
      by_contra hnone
      refine h ?_
      have hall : ∀ c ∈ front, (c != '/') = true := by
        intro c hc
        rw [bne_iff_ne]
        rintro rfl
        exact hnone hc
      rw [List.takeWhile_append_of_pos hall]
      simp
    have hscheme : isScheme front = false := by
      rw [isScheme, Bool.and_eq_false_iff]
      refine .inr (List.all_eq_false.mpr ⟨'/', hslash, by decide⟩)
    rw [if_neg (by simp [hscheme])]
  next => rfl

theorem notMem_scheme {scheme : List Char} {delimiter : Char}
    (hscheme : isScheme scheme = true)
    (hdelimiter : delimiter ∈ [':', '/', '?', '#', '@', '%']) :
    delimiter ∉ scheme := by
  intro hmem
  rw [isScheme, Bool.and_eq_true] at hscheme
  have hchar := List.all_eq_true.mp hscheme.2 delimiter hmem
  simp only [List.mem_cons, List.not_mem_nil, or_false] at hdelimiter
  rcases hdelimiter with rfl | rfl | rfl | rfl | rfl | rfl <;>
    exact absurd hchar (by decide)

namespace Reference

def hierarchy (r : Reference) : List Char := r.authorityText ++ r.path

variable {r : Reference}

theorem readHierarchy_hierarchy (h : r.Valid) :
    readHierarchy r.hierarchy = (r.authority, r.path) := by
  have hfits := h.fits
  unfold hierarchy authorityText
  unfold pathFits at hfits
  cases hauthority : r.authority with
  | none =>
      simp only [hauthority, Bool.and_eq_true] at hfits
      have hslashes := hfits.1
      simp only [List.nil_append]
      unfold readHierarchy
      split
      next rest hpath => simp [hpath] at hslashes
      next => rfl
  | some authority =>
      simp only [hauthority, Bool.or_eq_true, List.isEmpty_iff,
        beq_iff_eq] at hfits
      obtain ⟨htake, hdrop⟩ := takeWhile_append_slash
        ((h.authority authority hauthority).notMem_text (by simp)) hfits
      simp only [List.cons_append, readHierarchy, htake, hdrop,
        readAuthority_text (h.authority authority hauthority)]

theorem readScheme_hierarchy (h : r.Valid) :
    readScheme (ahead ':' r.scheme ++ r.hierarchy) =
      (r.scheme, r.hierarchy) := by
  cases hscheme : r.scheme with
  | some scheme =>
      have hvalid := h.scheme scheme hscheme
      have hcolon : ':' ∉ scheme := notMem_scheme hvalid (by simp)
      have hcut := cut_append hcolon r.hierarchy
      unfold readScheme
      simp only [ahead, List.append_assoc, List.cons_append, List.nil_append]
      rw [hcut]
      simp [hvalid]
  | none =>
      refine readScheme_none ?_
      have hfits := h.fits
      unfold pathFits at hfits
      unfold hierarchy authorityText
      cases hauthority : r.authority with
      | none =>
          simp only [hauthority, hscheme, Option.isSome_none, Bool.false_or,
            Bool.and_eq_true] at hfits
          simpa [ahead] using hfits.2
      | some authority => simp [ahead]

theorem Valid.withScheme (h : r.Valid) {scheme : List Char}
    (hscheme : isScheme scheme = true) :
    { r with scheme := some scheme }.Valid where
  scheme other hother := by
    obtain rfl := Option.some.inj hother
    exact hscheme
  authority := h.authority
  path := h.path
  query := h.query
  fragment := h.fragment
  fits := by
    have hfits := h.fits
    unfold pathFits at hfits ⊢
    cases hauthority : r.authority with
    | some authority => simpa [hauthority] using hfits
    | none =>
        simp only [hauthority, Bool.and_eq_true] at hfits
        simpa using hfits.1

theorem Valid.withHost (h : r.Valid) {authority : Authority}
    (hauthority : r.authority = some authority) {host : List Char}
    (hhost : isHost host = true) :
    { r with authority := some { authority with host := host } }.Valid where
  scheme := h.scheme
  authority other hother := by
    obtain rfl := Option.some.inj hother
    have hvalid := h.authority authority hauthority
    exact ⟨hvalid.userInfo, hhost, hvalid.port⟩
  path := h.path
  query := h.query
  fragment := h.fragment
  fits := by
    have hfits := h.fits
    unfold pathFits at hfits ⊢
    simpa [hauthority] using hfits

theorem notMem_hierarchy (h : r.Valid) {delimiter : Char}
    (hdelimiter : delimiter ∈ ['?', '#']) :
    delimiter ∉ ahead ':' r.scheme ++ r.hierarchy := by
  have hclasses : delimiter ≠ '%' ∧ isHexDigit delimiter = false ∧
      isPathChar delimiter = false ∧ delimiter ≠ ':' ∧ delimiter ≠ '/' ∧
      delimiter ∈ [':', '/', '?', '#', '@', '%'] ∧
      delimiter ∈ ['/', '?', '#'] := by
    simp only [List.mem_cons, List.not_mem_nil, or_false] at hdelimiter
    rcases hdelimiter with rfl | rfl <;> decide
  obtain ⟨hpercent, hhex, hpath, hcolon, hslash, hscheme, hauthority⟩ :=
    hclasses
  have hschemes : delimiter ∉ ahead ':' r.scheme :=
    notMem_ahead hcolon fun scheme hsome =>
      notMem_scheme (h.scheme scheme hsome) hscheme
  have hauthorities : delimiter ∉ r.authorityText := by
    unfold authorityText
    cases hsome : r.authority with
    | none => simp
    | some authority =>
        simp [hslash, (h.authority authority hsome).notMem_text hauthority]
  have hpaths := notMem_of_isEscapedText h.path hpercent hhex hpath
  simp [hierarchy, hschemes, hauthorities, hpaths]

theorem text_eq (r : Reference) :
    r.text = ahead ':' r.scheme ++ r.hierarchy ++ behind '?' r.query ++
      behind '#' r.fragment := by
  simp [text, hierarchy]

theorem read_text (h : r.Valid) : read r.text = r := by
  have hquery : '#' ∉ behind '?' r.query :=
    notMem_behind (by decide) fun query hquery =>
      notMem_of_isEscapedText (h.query query hquery) (by decide) (by decide)
        (by decide)
  have hfront : '#' ∉ ahead ':' r.scheme ++ r.hierarchy ++
      behind '?' r.query := by
    rw [List.mem_append, not_or]
    exact ⟨notMem_hierarchy h (by simp), hquery⟩
  unfold read
  rw [text_eq, cut_behind hfront]
  dsimp only
  rw [cut_behind (notMem_hierarchy h (by simp))]
  dsimp only
  rw [readScheme_hierarchy h]
  dsimp only
  rw [readHierarchy_hierarchy h]

theorem parse_text (h : r.Valid) : parse r.text = some r := by
  unfold parse
  simp only [read_text h, h, and_self, if_true]

theorem parse_eq_some {text : List Char} (hparse : parse text = some r) :
    r.Valid ∧ r.text = text := by
  unfold parse at hparse
  dsimp only at hparse
  split at hparse
  next hvalid =>
    obtain rfl := Option.some.inj hparse
    exact hvalid
  next => contradiction

end Reference

end RoundTrip

end RevSDK.Foundation
