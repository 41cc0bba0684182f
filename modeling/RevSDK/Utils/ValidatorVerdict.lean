import RevSDK.Utils.RSUtils

/-!
# When the validator returns

The checks of `_isValidConfiguration` ask for the class of a value before they
use it, with four exceptions: the document, the value of `configs`, and the
two texts that are put into an error without `description`.
`AnswersMessages` is the exact condition under which the validator returns.
-/

namespace RevSDK

open RevSDK.Foundation

namespace NSObject

/-- `nil` and texts have a `UTF8String`. -/
def IsNilOrText (object : Option Json) : Prop :=
  object = none ∨ ∃ text, object = some (.string text)

/-- `nil` and arrays have a `lastObject`. -/
def IsNilOrArray (object : Option Json) : Prop :=
  object = none ∨ ∃ elements, object = some (.array elements)

end NSObject

/-- The element gets as far as the second check only with some protocol. -/
structure ElementAnswers (element : List (String × Json)) : Prop where
  configurationApiURL : ∀ name names,
    element.lookup kAllowedTransportProtocolsKey =
        some (.array (name :: names)) →
      NSObject.IsNilOrText (element.lookup kConfigurationApiURLKey)

structure ObjectAnswers (document : List (String × Json)) : Prop where
  os : NSObject.IsNilOrText (document.lookup kOSKey)
  configs : document.lookup kOSKey = some (.string "iOS") →
    NSObject.IsNilOrArray (document.lookup kConfigsKey)
  element : document.lookup kOSKey = some (.string "iOS") →
    ∀ elements element, document.lookup kConfigsKey = some (.array elements) →
      elements.getLast? = some (.object element) → ElementAnswers element

def AnswersMessages (platform : ConfigurationPlatform) (data : Data) : Prop :=
  data.isEmpty = false → ∀ document,
    jsonObjectWithData platform data = some document →
      ∃ members, document = .object members ∧ ObjectAnswers members

section Proofs

variable {platform : ConfigurationPlatform} {aError : Error}

/-! ## One message -/

theorem stdStringFromNSString_isOk_iff (object : Option Json) :
    (∃ text, stdStringFromNSString object = .ok text) ↔
      NSObject.IsNilOrText object := by
  unfold stdStringFromNSString NSObject.IsNilOrText
  split <;> simp_all [NSObject.doesNotRecognizeSelector]

theorem NSObject.lastObject_isOk_iff (object : Option Json) :
    (∃ last, NSObject.lastObject object = .ok last) ↔
      NSObject.IsNilOrArray object := by
  unfold NSObject.lastObject NSObject.IsNilOrArray
  split <;> simp_all [NSObject.doesNotRecognizeSelector]

theorem describe_isOk (object : Option Json) :
    ∃ text, describe platform object = .ok text := by
  cases object with
  | none => exact ⟨_, rfl⟩
  | some object => exact ⟨_, rfl⟩

theorem messageText_isOk_iff (message : String) (text : Outcome String) :
    (∃ value, messageText message text = .ok value) ↔
      ∃ value, text = .ok value := by
  cases text with
  | error fault => simp [messageText]
  | ok text => simp [messageText, pure, Except.pure]

theorem refuse_isOk_iff (text : Outcome String) :
    (∃ verdict, refuse aError text = .ok verdict) ↔
      ∃ value, text = .ok value := by
  cases text with
  | error fault => simp [refuse]
  | ok text => simp [refuse, pure, Except.pure]

/-! ## One check -/

theorem check_isOk_iff {valid : Bool} {text : Outcome String}
    {next : Outcome (Bool × Error)} :
    (∃ verdict, check valid aError text next = .ok verdict) ↔
      (valid = false → ∃ value, text = .ok value) ∧
        (valid = true → ∃ verdict, next = .ok verdict) := by
  unfold check
  cases valid with
  | true => simp
  | false => simpa using refuse_isOk_iff text

theorem check_described {valid : Bool} {message : String}
    {object : Option Json} {next : Outcome (Bool × Error)}
    (hnext : ∃ verdict, next = .ok verdict) :
    ∃ verdict, check valid aError
      (messageText message (describe platform object)) next = .ok verdict :=
  check_isOk_iff.mpr
    ⟨fun _ => (messageText_isOk_iff _ _).mpr (describe_isOk object),
      fun _ => hnext⟩

theorem _isValidURL_isText {object : Option Json}
    (h : _isValidURL platform object = true) : NSObject.IsNilOrText object := by
  unfold _isValidURL at h
  cases htext : NSObject.string? object with
  | none => simp [htext] at h
  | some text => exact .inr ⟨text, NSObject.string?_eq_some.mp htext⟩

theorem check_url_isOk_iff {message : String} {object : Option Json}
    {next : Outcome (Bool × Error)} (hnext : ∃ verdict, next = .ok verdict) :
    (∃ verdict, check (_isValidURL platform object) aError
        (messageText message (stdStringFromNSString object)) next =
          .ok verdict) ↔ NSObject.IsNilOrText object := by
  rw [check_isOk_iff, messageText_isOk_iff, stdStringFromNSString_isOk_iff]
  constructor
  · rintro ⟨htext, -⟩
    cases hvalid : _isValidURL platform object with
    | false => exact htext hvalid
    | true => exact _isValidURL_isText hvalid
  · intro htext
    exact ⟨fun _ => htext, fun _ => hnext⟩

/-! ## The whole validator -/

theorem isValidElement_isOk_iff (element : List (String × Json)) :
    (∃ verdict, isValidElement platform element aError = .ok verdict) ↔
      ElementAnswers element := by
  unfold isValidElement
  dsimp only
  rw [check_isOk_iff, check_url_isOk_iff]
  · constructor
    · rintro ⟨-, hurl⟩
      refine ⟨fun name names hnames => hurl ?_⟩
      rw [NSObject.array?_eq_some.mpr hnames]
      rfl
    · rintro ⟨hurl⟩
      refine ⟨fun _ => (messageText_isOk_iff _ _).mpr (describe_isOk _), ?_⟩
      intro hallowed
      obtain ⟨names, harray, hne⟩ := (any_not_isEmpty_iff _).mp hallowed
      rw [NSObject.array?_eq_some] at harray
      cases names with
      | nil => exact absurd rfl hne
      | cons name names => exact hurl name names harray
  · -- the other checks put descriptions into their errors
    iterate 14 apply check_described
    exact ⟨_, rfl⟩

theorem isOS_iff (object : Option Json) :
    (NSObject.string? object == some "iOS") = true ↔
      object = some (.string "iOS") := by
  rw [beq_iff_eq, NSObject.string?_eq_some]

theorem configs_isOk_iff (document : List (String × Json)) :
    (∃ verdict, (do
      let configsArray ← NSObject.objectForKeyedSubscript
        (some (.object document)) kConfigsKey
      let configsDict ← NSObject.lastObject configsArray
      match NSObject.dictionary? configsDict with
      | none => refuse aError (.ok "configs missing")
      | some members => isValidElement platform members aError) =
        .ok verdict) ↔
      NSObject.IsNilOrArray (document.lookup kConfigsKey) ∧
        ∀ elements element,
          document.lookup kConfigsKey = some (.array elements) →
            elements.getLast? = some (.object element) →
              ElementAnswers element := by
  have hmember : NSObject.objectForKeyedSubscript (some (.object document))
      kConfigsKey = .ok (document.lookup kConfigsKey) := rfl
  rw [hmember, Outcome.ok_bind, ← NSObject.lastObject_isOk_iff]
  cases hlast : NSObject.lastObject (document.lookup kConfigsKey) with
  | error fault => simp
  | ok configsDict =>
      rw [Outcome.ok_bind]
      cases hmembers : NSObject.dictionary? configsDict with
      | none =>
          dsimp only
          rw [refuse_isOk_iff]
          refine iff_of_true ⟨_, rfl⟩ ⟨⟨_, rfl⟩, ?_⟩
          intro elements element helements helement
          rw [helements] at hlast
          obtain rfl : elements.getLast? = configsDict := Except.ok.inj hlast
          rw [NSObject.dictionary?_eq_some.mpr helement] at hmembers
          cases hmembers
      | some members =>
          dsimp only
          rw [isValidElement_isOk_iff]
          obtain rfl := NSObject.dictionary?_eq_some.mp hmembers
          obtain ⟨elements, helements, helement⟩ :=
            NSObject.lastObject_eq_ok.mp hlast
          constructor
          · intro hanswers
            refine ⟨⟨_, rfl⟩, ?_⟩
            intro others element hothers hother
            obtain rfl : elements = others := by
              rw [helements] at hothers
              simpa using hothers
            obtain rfl : members = element := by
              rw [helement] at hother
              simpa using hother
            exact hanswers
          · rintro ⟨-, hanswers⟩
            exact hanswers elements members helements helement

theorem isValidObject_isOk_iff {data : Data} {document : List (String × Json)}
    (hdata : data.isEmpty = false)
    (hdocument : jsonObjectWithData platform data = some (.object document)) :
    (∃ verdict, _isValidConfiguration platform data aError = .ok verdict) ↔
      ObjectAnswers document := by
  have hmember : NSObject.objectForKeyedSubscript (some (.object document))
      kOSKey = .ok (document.lookup kOSKey) := rfl
  unfold _isValidConfiguration
  rw [hdata, if_neg Bool.false_ne_true, hdocument]
  dsimp only
  rw [hmember, Outcome.ok_bind, check_isOk_iff, messageText_isOk_iff,
    stdStringFromNSString_isOk_iff]
  have hrest := @configs_isOk_iff platform aError document
  constructor
  · rintro ⟨htext, hconfigs⟩
    have hrest (hos : document.lookup kOSKey = some (.string "iOS")) :=
      hrest.mp (hconfigs ((isOS_iff _).mpr hos))
    refine ⟨?_, fun hos => (hrest hos).1, fun hos => (hrest hos).2⟩
    by_cases hos : document.lookup kOSKey = some (.string "iOS")
    · exact .inr ⟨_, hos⟩
    · exact htext (Bool.eq_false_iff.mpr fun h => hos ((isOS_iff _).mp h))
  · intro hanswers
    refine ⟨fun _ => hanswers.os, fun hios => hrest.mpr ?_⟩
    have hos := (isOS_iff _).mp hios
    exact ⟨hanswers.configs hos, hanswers.element hos⟩

end Proofs

/-- Exactly then the validator has a verdict. -/
theorem _isValidConfiguration_returns_iff (platform : ConfigurationPlatform)
    (data : Data) (aError : Error) :
    (∃ verdict, _isValidConfiguration platform data aError = .ok verdict) ↔
      AnswersMessages platform data := by
  unfold AnswersMessages
  cases hdata : data.isEmpty with
  | true =>
      refine iff_of_true ⟨(false, aError), ?_⟩ (fun h => by cases h)
      unfold _isValidConfiguration
      rw [hdata, if_pos rfl]
  | false =>
      cases hparsed : jsonObjectWithData platform data with
      | none =>
          refine iff_of_true ⟨(false, aError), ?_⟩ (fun _ _ h => by cases h)
          unfold _isValidConfiguration
          rw [hdata, if_neg Bool.false_ne_true, hparsed]
      | some document =>
          cases document with
          | object members =>
              rw [isValidObject_isOk_iff hdata hparsed]
              constructor
              · intro hanswers _ document hdocument
                exact ⟨members, (Option.some.inj hdocument).symm, hanswers⟩
              · intro hanswers
                obtain ⟨_, hsame, hanswers⟩ := hanswers rfl _ rfl
                obtain rfl := Json.object.inj hsame
                exact hanswers
          | _ =>
              -- the subscript of an object without keyed access
              refine iff_of_false ?_ ?_
              · rintro ⟨verdict, hverdict⟩
                unfold _isValidConfiguration at hverdict
                rw [hdata, if_neg Bool.false_ne_true, hparsed] at hverdict
                cases hverdict
              · intro hanswers
                obtain ⟨_, hsame, -⟩ := hanswers rfl _ rfl
                cases hsame

/-! ## A number for the operating system -/

def numberedOSData : Data :=
  ⟨[0x7b, 0x22, 0x6f, 0x73, 0x22, 0x3a, 0x31, 0x7d]⟩

def numberedOSPlatform : ConfigurationPlatform where
  parse data :=
    if data = numberedOSData then some (.object [(kOSKey, .int 1)]) else none
  urlWithString _ := none
  description _ := ""
  realText value := toString value.num
  toFloat value := value

/-- The number is asked for its `UTF8String`. -/
theorem numberedOS_raises :
    ¬∃ verdict,
      _isValidConfiguration numberedOSPlatform numberedOSData {} =
        .ok verdict := by
  rintro ⟨verdict, hverdict⟩
  cases hverdict

end RevSDK
