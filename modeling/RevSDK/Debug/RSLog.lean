import Mathlib.Data.List.TakeWhile
import RevSDK.Foundation.Outcome
import RevSDK.Foundation.Printf

/-!
# Log

`Log::p_vsprintf` prints a message with `vsprintf` into a buffer of 65536 bytes
and hands the buffer to the targets.  The entry points pass their format on as
it is, so a text that was built before the call is read as a format.
-/

namespace RevSDK

open Foundation Foundation.Printf

inductive Level where
  | info
  | warning
  | error
  deriving DecidableEq

structure LogPrint where
  target : Nat
  level : Level
  tag : Nat
  message : List UInt8
  deriving DecidableEq

/-- `mBuffer.size()`, as the constructor sets it. -/
def mBufferSize : Nat := 65536

structure Log where
  mDefaultTarget : Nat
  mCustomTargets : List Nat

namespace Log

/-- The targets read the buffer as a C string. -/
def p_printBufferToTargets (log : Log) (aLevel : Level) (aTag : Nat)
    (mBuffer : List UInt8) : List LogPrint :=
  (log.mDefaultTarget :: log.mCustomTargets).map fun target =>
    { target := target, level := aLevel, tag := aTag, message := cText mBuffer }

/-- `vsprintf` writes a terminator after what it prints. -/
def p_vsprintf (log : Log) (floatText : FloatText) (aLevel : Level) (aTag : Nat)
    (aFormat : List UInt8) (aArgs : List Argument) :
    Outcome (Int × List LogPrint) :=
  match sprintf floatText aFormat aArgs with
  | none => .error (.undefinedBehaviour "vsprintf: no argument for a directive")
  | some printed =>
      if printed.length + 1 ≤ mBufferSize then
        .ok (printed.length, log.p_printBufferToTargets aLevel aTag printed)
      else .error (.undefinedBehaviour "vsprintf: past the end of mBuffer")

def printAt (aLevel : Level) (log : Log) (floatText : FloatText) (aTag : Nat)
    (aFormat : Option (List UInt8)) (aArgs : List Argument) :
    Outcome (Int × List LogPrint) :=
  match aFormat with
  | none => .ok (-1, [])
  | some aFormat => log.p_vsprintf floatText aLevel aTag (cText aFormat) aArgs

def error := printAt .error

def warning := printAt .warning

def info := printAt .info

end Log

structure LogCall where
  level : Level
  aTag : Nat
  aFormat : Option (List UInt8)
  aArgs : List Argument

namespace LogCall

def run (call : LogCall) (log : Log) (floatText : FloatText) :
    Outcome (Int × List LogPrint) :=
  match call.level with
  | .info => log.info floatText call.aTag call.aFormat call.aArgs
  | .warning => log.warning floatText call.aTag call.aFormat call.aArgs
  | .error => log.error floatText call.aTag call.aFormat call.aArgs

/--
The call ends well: no argument is read that was not passed, and the result
fits the buffer.  A text without arguments reaches the targets verbatim.
-/
def PrintsFaithfully (call : LogCall) (log : Log) (floatText : FloatText) :
    Prop :=
  ∃ cursor prints, call.run log floatText = .ok (cursor, prints) ∧
    ∀ text, call.aFormat = some text → call.aArgs = [] →
      prints = log.p_printBufferToTargets call.level call.aTag text

/--
A text without arguments has no percent sign and at most 65535 bytes.  Other
formats find what their directives read, and literal text and fields together
have at most 65535 bytes.
-/
def Harmless (call : LogCall) (floatText : FloatText) : Prop :=
  ∀ text, call.aFormat = some text →
    if call.aArgs = [] then
      percentSign ∉ cText text ∧ (cText text).length < mBufferSize
    else
      Supplied (cText text) call.aArgs ∧
        printedLength floatText (cText text) call.aArgs < mBufferSize

theorem run_eq (call : LogCall) (log : Log) (floatText : FloatText) :
    call.run log floatText =
      Log.printAt call.level log floatText call.aTag call.aFormat
        call.aArgs := by
  cases call with
  | mk level aTag aFormat aArgs => cases level <;> rfl

end LogCall

theorem Log.p_vsprintf_eq_ok (log : Log) (floatText : FloatText)
    (aLevel : Level) (aTag : Nat) (aFormat : List UInt8)
    (aArgs : List Argument) (cursor : Int) (prints : List LogPrint) :
    log.p_vsprintf floatText aLevel aTag aFormat aArgs = .ok (cursor, prints) ↔
      ∃ printed, sprintf floatText aFormat aArgs = some printed ∧
        printedLength floatText aFormat aArgs < mBufferSize ∧
        cursor = printed.length ∧
        prints = log.p_printBufferToTargets aLevel aTag printed := by
  unfold p_vsprintf
  cases hprinted : sprintf floatText aFormat aArgs with
  | none => simp
  | some out =>
      rw [← length_sprintf floatText aFormat aArgs out hprinted]
      simp only [Option.some.injEq, exists_eq_left']
      split
      next hfits => simp [Nat.lt_of_succ_le hfits, eq_comm]
      next hoverflows => simp; omega

theorem length_cText_le (text : List UInt8) :
    (cText text).length ≤ text.length :=
  (List.takeWhile_prefix _).length_le

@[simp] theorem cText_cText (text : List UInt8) :
    cText (cText text) = cText text :=
  List.takeWhile_idem

theorem Log.plain_of_prints (log : Log) (floatText : FloatText)
    (aLevel : Level) (aTag : Nat) (text printed : List UInt8)
    (hprinted : sprintf floatText (cText text) [] = some printed)
    (hverbatim : log.p_printBufferToTargets aLevel aTag printed =
      log.p_printBufferToTargets aLevel aTag text) :
    percentSign ∉ cText text := by
  intro hformatted
  have hsameText : cText printed = cText text :=
    congrArg LogPrint.message (List.head_eq_of_cons_eq hverbatim)
  have hshorter :=
    length_sprintf_lt floatText (cText text) printed hformatted hprinted
  have hcut := length_cText_le printed
  rw [hsameText] at hcut
  omega

theorem LogCall.prebuilt_iff (call : LogCall) (log : Log)
    (floatText : FloatText) (text : List UInt8)
    (htext : call.aFormat = some text) (halone : call.aArgs = []) :
    call.PrintsFaithfully log floatText ↔
      percentSign ∉ cText text ∧ (cText text).length < mBufferSize := by
  simp only [PrintsFaithfully, run_eq, Log.printAt, htext, halone,
    Log.p_vsprintf_eq_ok]
  constructor
  · rintro ⟨-, prints, ⟨printed, hprinted, hfits, -, rfl⟩, hverbatim⟩
    have hplain := log.plain_of_prints floatText call.level call.aTag text
      printed hprinted (hverbatim text rfl trivial)
    rw [printedLength_plain floatText (cText text) [] hplain] at hfits
    exact ⟨hplain, hfits⟩
  · rintro ⟨hplain, hfits⟩
    rw [← printedLength_plain floatText (cText text) [] hplain] at hfits
    refine ⟨_, _, ⟨cText text, sprintf_plain floatText _ [] hplain, hfits,
      rfl, rfl⟩, ?_⟩
    rintro _ ⟨⟩ -
    simp [Log.p_printBufferToTargets]

theorem LogCall.supplied_iff (call : LogCall) (log : Log)
    (floatText : FloatText) (text : List UInt8)
    (htext : call.aFormat = some text) (hsupplied : call.aArgs ≠ []) :
    call.PrintsFaithfully log floatText ↔
      Supplied (cText text) call.aArgs ∧
        printedLength floatText (cText text) call.aArgs < mBufferSize := by
  rw [Printf.supplied_iff floatText]
  simp only [PrintsFaithfully, run_eq, Log.printAt, htext,
    Log.p_vsprintf_eq_ok]
  constructor
  · rintro ⟨-, prints, ⟨printed, hprinted, hfits, -, -⟩, -⟩
    exact ⟨⟨printed, hprinted⟩, hfits⟩
  · rintro ⟨⟨printed, hprinted⟩, hfits⟩
    exact ⟨_, _, ⟨printed, hprinted, hfits, rfl, rfl⟩,
      fun _ _ halone => absurd halone hsupplied⟩

end RevSDK
