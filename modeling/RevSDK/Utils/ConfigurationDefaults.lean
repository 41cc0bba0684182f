import RevSDK.Utils.ConfigurationAgreement
import RevSDK.Utils.ValidatorVerdict

/-!
# Defaults of the optional settings

Both decoders convert whatever stands under a key and assign it, so a missing
setting is read as zero or as the empty text and replaces the default of the
constructor.
-/

namespace RevSDK

open RevSDK.Foundation

/-! ## The decoder of documents -/

section Document

variable (platform : ConfigurationPlatform)

/-- The document and the element of `configs` that are decoded. -/
def DecodedFrom (data : Data) (document first : List (String × Json)) : Prop :=
  ∃ elements, platform.parse data = some (.object document) ∧
    document.lookup kConfigsKey = some (.array elements) ∧
      elements.head? = some (.object first)

def DocumentKeepsDefaults (data : Data) : Prop :=
  ∃ document first, DecodedFrom platform data document first ∧
    ∃ configuration, processConfigurationData platform data =
        .ok configuration ∧
      KeepsDefaults (documentReaders platform) document first configuration

/-- All values convert, and no key with a default of its own is missing. -/
def CompleteDocument (data : Data) : Prop :=
  ∃ document first, DecodedFrom platform data document first ∧
    Convertible (documentKinds platform) document first ∧
      NamesDefaulted first

end Document

section DocumentProofs

variable {platform : ConfigurationPlatform} {data : Data}
  {document first : List (String × Json)}

theorem documentReaders_missing (hzero : platform.toFloat 0 = 0) :
    (documentReaders platform).MissingIsZero where
  text := rfl
  integer := rfl
  threshold := by
    have hpercent : platform.toFloat (platform.toFloat ((0 : Int) : ℚ) / 100) =
        0 := by
      rw [Rat.intCast_zero, hzero, Rat.div_def, Rat.zero_mul, hzero]
    exact congrArg Except.ok hpercent
  list := rfl

theorem DecodedFrom.processConfigurationData
    (h : DecodedFrom platform data document first) :
    processConfigurationData platform data =
      decodeConfiguration platform (.object document) (.object first) := by
  obtain ⟨elements, hparsed, hconfigs, hfirst⟩ := h
  cases elements with
  | nil => cases hfirst
  | cons element elements =>
      obtain rfl := Option.some.inj hfirst
      unfold RevSDK.processConfigurationData
      rw [hparsed]
      dsimp only
      simp only [Json.member, hconfigs, Option.getD_some, Json.element,
        Outcome.ok_bind]
      rfl

theorem documentKeepsDefaults_iff (hzero : platform.toFloat 0 = 0)
    (data : Data) :
    DocumentKeepsDefaults platform data ↔ CompleteDocument platform data := by
  unfold DocumentKeepsDefaults CompleteDocument
  refine exists_congr fun document => exists_congr fun first =>
    and_congr_right fun hfrom => ?_
  apply keepsDefaults_iff documentReaders_take (documentReaders_missing hzero)
  intro configuration
  rw [hfrom.processConfigurationData]
  exact decodeConfiguration_readsFields configuration

end DocumentProofs

/-! ## The decoder of stored dictionaries -/

namespace NSObject

def IsNilOrNumber : Option Json → Prop
  | none => True
  | some (.bool _) => True
  | some (.int _) => True
  | some (.real _) => True
  | some (.string _) => True
  | some _ => False

def IsNilOrTexts : Option Json → Prop
  | none => True
  | some (.array elements) =>
      ∀ element ∈ elements, ∃ text, element = .string text
  | some (.object _) => True
  | some _ => False

end NSObject

section Dictionary

variable (conversions : NumberConversions)

def dictionaryReaders : FieldReaders where
  text := stdStringFromNSString
  integer := NSObject.intValue
  version := NSObject.floatValue conversions
  threshold := NSObject.doubleValue conversions
  list := vectorFromNSArray
  flag := NSObject.boolValue
  operationMode object := do
    castNumber operationModes (← NSObject.integerValue object)
  statsLevel object := do castNumber statsLevels (← NSObject.intValue object)

def dictionaryKinds : FieldKinds where
  text := NSObject.IsNilOrText
  integer := NSObject.IsNilOrNumber
  version := NSObject.IsNilOrNumber
  threshold := NSObject.IsNilOrNumber
  list := NSObject.IsNilOrTexts
  flag := NSObject.IsNilOrNumber
  operationMode object := ∃ value : Int,
    NSObject.integerValue object = .ok value ∧ 0 ≤ value ∧ value < 4
  statsLevel object := ∃ value : Int,
    NSObject.intValue object = .ok value ∧ 0 ≤ value ∧ value < 2

def DictionaryKeepsDefaults (dictionary : PropertyList) : Prop :=
  ∃ configuration, configurationFromNSDictionary conversions dictionary =
      .ok configuration ∧
    KeepsDefaults (dictionaryReaders conversions) dictionary dictionary
      configuration

def CompleteDictionary (dictionary : PropertyList) : Prop :=
  Convertible dictionaryKinds dictionary dictionary ∧
    NamesDefaulted dictionary

end Dictionary

section DictionaryProofs

variable {conversions : NumberConversions} {dictionary : PropertyList}

theorem intValue_isOk_iff (object : Option Json) :
    (∃ value, NSObject.intValue object = .ok value) ↔
      NSObject.IsNilOrNumber object := by
  cases object with
  | none => exact iff_of_true ⟨0, rfl⟩ trivial
  | some object =>
      cases object <;> simp [NSObject.intValue, NSObject.intValue?,
        NSObject.signedValue?, NSObject.IsNilOrNumber,
        NSObject.doesNotRecognizeSelector]

theorem floatValue_isOk_iff (object : Option Json) :
    (∃ value, NSObject.floatValue conversions object = .ok value) ↔
      NSObject.IsNilOrNumber object := by
  cases object with
  | none => exact iff_of_true ⟨0, rfl⟩ trivial
  | some object =>
      cases object <;> simp [NSObject.floatValue, NSObject.IsNilOrNumber,
        NSObject.doesNotRecognizeSelector]

theorem doubleValue_isOk_iff (object : Option Json) :
    (∃ value, NSObject.doubleValue conversions object = .ok value) ↔
      NSObject.IsNilOrNumber object := by
  cases object with
  | none => exact iff_of_true ⟨0, rfl⟩ trivial
  | some object =>
      cases object <;> simp [NSObject.doubleValue, NSObject.IsNilOrNumber,
        NSObject.doesNotRecognizeSelector]

theorem boolValue_isOk_iff (object : Option Json) :
    (∃ value, NSObject.boolValue object = .ok value) ↔
      NSObject.IsNilOrNumber object := by
  cases object with
  | none => exact iff_of_true ⟨false, rfl⟩ trivial
  | some object =>
      cases object <;> simp [NSObject.boolValue, NSObject.IsNilOrNumber,
        NSObject.doesNotRecognizeSelector]

theorem vectorFromNSArray_isOk_iff (object : Option Json) :
    (∃ texts, vectorFromNSArray object = .ok texts) ↔
      NSObject.IsNilOrTexts object := by
  cases object with
  | none => exact iff_of_true ⟨[], rfl⟩ trivial
  | some object =>
      cases object with
      | array elements =>
          unfold vectorFromNSArray NSObject.IsNilOrTexts
          dsimp only
          rw [Outcome.mapM_isOk_iff]
          simp only [stdStringFromNSString_isOk_iff, NSObject.IsNilOrText,
            reduceCtorEq, false_or, Option.some.injEq]
      | object _ =>
          unfold vectorFromNSArray NSObject.IsNilOrTexts
          dsimp only
          rw [Outcome.mapM_isOk_iff]
          exact iff_of_true (fun member _ => ⟨_, rfl⟩) trivial
      | _ => simp [vectorFromNSArray, NSObject.IsNilOrTexts,
          NSObject.doesNotRecognizeSelector]

theorem castNumber_isOk_iff {α : Type} (enumerators : List α) (value : Int) :
    (∃ enumerator, castNumber enumerators value = .ok enumerator) ↔
      0 ≤ value ∧ value < enumerators.length := by
  unfold castNumber
  by_cases hnegative : value < 0
  · rw [if_pos hnegative]
    exact iff_of_false (by simp) (by omega)
  · rw [if_neg hnegative]
    constructor
    · rintro ⟨enumerator, h⟩
      have hlt := (castEnum_isOk_iff enumerators _).mp ⟨enumerator, h⟩
      omega
    · rintro ⟨-, hlt⟩
      exact (castEnum_isOk_iff enumerators _).mpr (by omega)

theorem readNumber_isOk_iff {α : Type} (enumerators : List α)
    (read : Outcome Int) :
    (∃ enumerator, (do castNumber enumerators (← read)) = .ok enumerator) ↔
      ∃ value : Int, read = .ok value ∧ 0 ≤ value ∧
        value < enumerators.length := by
  cases read with
  | error fault => simp
  | ok value =>
      rw [Outcome.ok_bind, castNumber_isOk_iff]
      simp

theorem dictionaryReaders_take :
    (dictionaryReaders conversions).Take dictionaryKinds where
  text := stdStringFromNSString_isOk_iff
  integer := intValue_isOk_iff
  version := floatValue_isOk_iff
  threshold := doubleValue_isOk_iff
  list := vectorFromNSArray_isOk_iff
  flag := boolValue_isOk_iff
  operationMode _ := readNumber_isOk_iff operationModes _
  statsLevel _ := readNumber_isOk_iff statsLevels _

theorem dictionaryReaders_missing :
    (dictionaryReaders conversions).MissingIsZero where
  text := rfl
  integer := rfl
  threshold := rfl
  list := rfl

theorem configurationFromNSDictionary_readsFields
    (configuration : Configuration) :
    configurationFromNSDictionary conversions dictionary =
        .ok configuration ↔
      ReadsFields (dictionaryReaders conversions) dictionary dictionary
        configuration := by
  constructor
  · intro h
    unfold configurationFromNSDictionary at h
    simp only [Outcome.bind_eq_ok] at h
    obtain ⟨os, hos, appName, happName, version, hversion, api, hapi, refresh,
      hrefresh, stale, hstale, edge, hedge, number, hnumber, mode, hmode,
      allowed, hallowed, protocol, hprotocol, monitoring, hmonitoring, stats,
      hstats, interval, hinterval, rank, hrank, level, hlevel, requests,
      hrequests, provisioned, hprovisioned, white, hwhite, black, hblack,
      internal, hinternal, logging, hlogging, flag, hflag, ratio, hratio,
      threshold, hthreshold, failures, hfailures, port, hport, domain, hdomain,
      hconfiguration⟩ := h
    obtain rfl := Except.ok.inj hconfiguration
    exact ⟨⟨hos, happName, hversion, hapi, hrefresh, hstale, hedge,
      (Outcome.bind_eq_ok _ _ _).mpr ⟨number, hnumber, hmode⟩, hallowed,
      hprotocol, hmonitoring, hstats, hinterval,
      (Outcome.bind_eq_ok _ _ _).mpr ⟨rank, hrank, hlevel⟩, hrequests,
      hprovisioned, hwhite, hblack, hlogging, hflag⟩,
      ⟨hdomain, hport, hfailures, hthreshold, hratio, hinternal⟩⟩
  · rintro ⟨⟨hos, happName, hversion, hapi, hrefresh, hstale, hedge, hmode,
      hallowed, hprotocol, hmonitoring, hstats, hinterval, hlevel, hrequests,
      hprovisioned, hwhite, hblack, hlogging, hflag⟩,
      ⟨hdomain, hport, hfailures, hthreshold, hratio, hinternal⟩⟩
    obtain ⟨number, hnumber, hmode⟩ := (Outcome.bind_eq_ok _ _ _).mp hmode
    obtain ⟨rank, hrank, hlevel⟩ := (Outcome.bind_eq_ok _ _ _).mp hlevel
    unfold configurationFromNSDictionary
    simp only [Outcome.bind_eq_ok]
    exact ⟨_, hos, _, happName, _, hversion, _, hapi, _, hrefresh, _, hstale,
      _, hedge, _, hnumber, _, hmode, _, hallowed, _, hprotocol, _,
      hmonitoring, _, hstats, _, hinterval, _, hrank, _, hlevel, _, hrequests,
      _, hprovisioned, _, hwhite, _, hblack, _, hinternal, _, hlogging, _,
      hflag, _, hratio, _, hthreshold, _, hfailures, _, hport, _, hdomain, rfl⟩

theorem dictionaryKeepsDefaults_iff (conversions : NumberConversions)
    (dictionary : PropertyList) :
    DictionaryKeepsDefaults conversions dictionary ↔
      CompleteDictionary dictionary :=
  keepsDefaults_iff dictionaryReaders_take dictionaryReaders_missing
    configurationFromNSDictionary_readsFields

end DictionaryProofs

/-! ## Both decoders -/

/--
The defaults are kept exactly for the documents and the dictionaries that
convert and miss no key whose default is not zero.
-/
theorem decoders_keepDefaults_iff (platform : ConfigurationPlatform)
    (conversions : NumberConversions) (hzero : platform.toFloat 0 = 0) :
    (∀ data, DocumentKeepsDefaults platform data ↔
        CompleteDocument platform data) ∧
      ∀ dictionary, DictionaryKeepsDefaults conversions dictionary ↔
        CompleteDictionary dictionary :=
  ⟨documentKeepsDefaults_iff hzero, dictionaryKeepsDefaults_iff conversions⟩

/-- The accepted sample names none of the optional settings. -/
theorem decoders_keepDefaults_iff_sample :
    ¬DocumentKeepsDefaults (samplePlatform "debug") (sampleData "debug") := by
  rw [(decoders_keepDefaults_iff (samplePlatform "debug") ⟨id, id, fun _ => 0⟩
    rfl).1]
  rintro ⟨document, first, ⟨elements, hparsed, hconfigs, hfirst⟩, -, hnames⟩
  rw [samplePlatform_parse] at hparsed
  cases hparsed
  cases hconfigs
  cases hfirst
  exact absurd (hnames kQuicUDPPort (by decide)) (by decide)

/-- The port and the domain of the accepted sample are zero and empty. -/
theorem accepted_without_defaults :
    _isValidConfiguration (samplePlatform "debug") (sampleData "debug") {} =
        .ok (true, {}) ∧
      ¬DocumentKeepsDefaults (samplePlatform "debug") (sampleData "debug") ∧
      ¬DictionaryKeepsDefaults ⟨id, id, fun _ => 0⟩ [] := by
  have hvalid := sampleDocument_valid "debug" (by decide)
  refine ⟨hvalid.accepted (sampleData_nonempty "debug"), ?_, ?_⟩
  · rintro ⟨document, first, hfrom, configuration, hdecoded, hkeeps⟩
    obtain ⟨elements, hparsed, hconfigs, hfirst⟩ := hfrom
    rw [samplePlatform_parse] at hparsed
    cases hparsed
    cases hconfigs
    cases hfirst
    rw [hvalid.processConfigurationData rfl] at hdecoded
    obtain rfl := Except.ok.inj hdecoded
    exact absurd hkeeps.optional.quicUDPPort (by decide)
  · rintro ⟨configuration, hdecoded, hkeeps⟩
    obtain rfl := Except.ok.inj hdecoded
    exact absurd hkeeps.optional.quicUDPPort (by decide)

end RevSDK
