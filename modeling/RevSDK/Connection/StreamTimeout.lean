import RevSDK.Connection.QUICDataStream
import RevSDK.Foundation.Runs

/-!
# The timeout of a stream

The timer of a data stream starts at the first tick that is not 0 after some
activity, and the age at a later tick is a difference of `size_t`.  A tick
below the start of the timer makes that difference wrap around.  The first
tick since the last activity, and the one that timed out, are kept beside the
stream.
-/

namespace RevSDK

open RevSDK.Foundation

/-- A tick is a `size_t`. -/
inductive TimerEvent where
  | update (aNowMS : UInt64)
  | onStreamFrame
  | onInitialHeadersComplete (responseCode : Int) (headers : SpdyHeaderBlock)
  deriving DecidableEq

/-- `timedOut` holds that first tick and the tick that failed the stream. -/
structure TimedStream where
  stream : QUICDataStream
  firstTick : Option Nat
  timedOut : Option (Nat × Nat)
  deriving DecidableEq

namespace TimedStream

def start : TimedStream where
  stream := {}
  firstTick := none
  timedOut := none

def update (timed : TimedStream) (aNowMS : Nat) : TimedStream :=
  let (stream, calls) := timed.stream.update aNowMS
  let first := timed.firstTick.getD aNowMS
  { stream
    firstTick := some first
    timedOut := if calls.isEmpty then timed.timedOut
      else some (first, aNowMS) }

def react (timed : TimedStream) : TimerEvent → TimedStream
  | .update aNowMS => timed.update aNowMS.toNat
  | .onStreamFrame =>
      { timed with
        stream := timed.stream.onStreamFrame, firstTick := none }
  | .onInitialHeadersComplete responseCode headers =>
      { timed with
        stream :=
          (timed.stream.onInitialHeadersComplete responseCode headers).1
        firstTick := none }

def system : EventSystem TimedStream TimerEvent where
  initial timed := timed = start
  step timed event := some (timed.react event)

/-- A stream times out after twenty seconds without activity only. -/
def TimesOutInactive (timed : TimedStream) : Prop :=
  ∀ first tick, timed.timedOut = some (first, tick) → first + 20000 < tick

/--
While the timer runs, a tick is not below its start, or so far below that the
difference wraps to no age at all, or late enough after the first tick, which
was 0 if it did not start the timer.
-/
def Forward (timed : TimedStream) : TimerEvent → Prop
  | .update aNowMS =>
      timed.stream.mFailed = true ∨ timed.stream.mInitialMS ≤ aNowMS.toNat ∨
        aNowMS.toNat + 2 ^ 64 ≤ timed.stream.mInitialMS + 20000 ∨
        timed.firstTick.getD 0 + 20000 < aNowMS.toNat
  | .onStreamFrame => True
  | .onInitialHeadersComplete _ _ => True

instance (timed : TimedStream) (event : TimerEvent) :
    Decidable (timed.Forward event) := by
  cases event <;> unfold Forward <;> infer_instance

structure Running (timed : TimedStream) : Prop where
  timeout : timed.stream.mTimeoutMS = 20000
  bounded : timed.stream.mInitialMS < 2 ^ 64
  stopped : timed.stream.mFailed = false → timed.stream.mInitialMS = 0 →
    timed.firstTick.getD 0 = 0
  started : timed.stream.mFailed = false → timed.stream.mInitialMS ≠ 0 →
    timed.firstTick = some 0 ∨
      timed.firstTick = some timed.stream.mInitialMS

theorem start_running : start.Running where
  timeout := rfl
  bounded := Nat.two_pow_pos 64
  stopped _ _ := rfl
  started _ h := absurd rfl h

section Ticks

variable {timed : TimedStream} {aNowMS : Nat}

theorem sizeDifference_gt_iff {initialMS : Nat} (hinitial : initialMS < 2 ^ 64)
    (hnow : aNowMS < 2 ^ 64) :
    QUICDataStream.sizeDifference aNowMS initialMS > 20000 ↔
      initialMS + 20000 < aNowMS ∨
        aNowMS < initialMS ∧ initialMS + 20000 < aNowMS + 2 ^ 64 := by
  unfold QUICDataStream.sizeDifference
  omega

theorem update_failed (hfailed : timed.stream.mFailed = true) :
    timed.update aNowMS =
      { timed with firstTick := some (timed.firstTick.getD aNowMS) } := by
  simp [update, QUICDataStream.update, hfailed]

theorem update_stopped (hworking : timed.stream.mFailed = false)
    (hstopped : timed.stream.mInitialMS = 0) :
    timed.update aNowMS =
      { timed with
        stream := { timed.stream with mInitialMS := aNowMS }
        firstTick := some (timed.firstTick.getD aNowMS) } := by
  simp [update, QUICDataStream.update, hworking, hstopped]

theorem update_young (hworking : timed.stream.mFailed = false)
    (hstarted : timed.stream.mInitialMS ≠ 0)
    (hage : ¬ QUICDataStream.sizeDifference aNowMS timed.stream.mInitialMS >
      timed.stream.mTimeoutMS) :
    timed.update aNowMS =
      { timed with firstTick := some (timed.firstTick.getD aNowMS) } := by
  unfold update QUICDataStream.update
  dsimp only
  rw [if_neg (by simp [hworking]), if_neg hstarted, if_neg hage]
  simp

theorem update_old (hworking : timed.stream.mFailed = false)
    (hstarted : timed.stream.mInitialMS ≠ 0)
    (hage : QUICDataStream.sizeDifference aNowMS timed.stream.mInitialMS >
      timed.stream.mTimeoutMS) :
    timed.update aNowMS =
      { stream := (timed.stream.fail QUICDataStream.timeoutError).1
        firstTick := some (timed.firstTick.getD aNowMS)
        timedOut := some (timed.firstTick.getD aNowMS, aNowMS) } := by
  unfold update QUICDataStream.update
  dsimp only
  rw [if_neg (by simp [hworking]), if_neg hstarted, if_pos hage]
  simp [QUICDataStream.fail]

theorem update_cases (timed : TimedStream) (aNowMS : Nat) :
    (timed.stream.mFailed = true ∧ timed.update aNowMS =
      { timed with firstTick := some (timed.firstTick.getD aNowMS) }) ∨
    (timed.stream.mFailed = false ∧ timed.stream.mInitialMS = 0 ∧
      timed.update aNowMS =
        { timed with
          stream := { timed.stream with mInitialMS := aNowMS }
          firstTick := some (timed.firstTick.getD aNowMS) }) ∨
    (timed.stream.mFailed = false ∧ timed.stream.mInitialMS ≠ 0 ∧
      ¬ QUICDataStream.sizeDifference aNowMS timed.stream.mInitialMS >
        timed.stream.mTimeoutMS ∧
      timed.update aNowMS =
        { timed with firstTick := some (timed.firstTick.getD aNowMS) }) ∨
    (timed.stream.mFailed = false ∧ timed.stream.mInitialMS ≠ 0 ∧
      QUICDataStream.sizeDifference aNowMS timed.stream.mInitialMS >
        timed.stream.mTimeoutMS ∧
      timed.update aNowMS =
        { stream := (timed.stream.fail QUICDataStream.timeoutError).1
          firstTick := some (timed.firstTick.getD aNowMS)
          timedOut := some (timed.firstTick.getD aNowMS, aNowMS) }) := by
  cases hfailed : timed.stream.mFailed with
  | true => exact .inl ⟨rfl, update_failed hfailed⟩
  | false =>
      by_cases hstarted : timed.stream.mInitialMS = 0
      · exact .inr (.inl ⟨rfl, hstarted, update_stopped hfailed hstarted⟩)
      · by_cases hage : QUICDataStream.sizeDifference aNowMS
            timed.stream.mInitialMS > timed.stream.mTimeoutMS
        · exact .inr (.inr (.inr ⟨rfl, hstarted, hage,
            update_old hfailed hstarted hage⟩))
        · exact .inr (.inr (.inl ⟨rfl, hstarted, hage,
            update_young hfailed hstarted hage⟩))

end Ticks

section Runs

variable {timed : TimedStream}

theorem Running.update (hrunning : timed.Running) {aNowMS : Nat}
    (hsize : aNowMS < 2 ^ 64) : (timed.update aNowMS).Running := by
  obtain ⟨htimeout, hbounded, hstopped, hstarted⟩ := hrunning
  rcases timed.update_cases aNowMS with ⟨hfailed, hupdate⟩ |
    ⟨hworking, hinitial, hupdate⟩ | ⟨hworking, hinitial, -, hupdate⟩ |
    ⟨hworking, hinitial, -, hupdate⟩
  · rw [hupdate]
    exact ⟨htimeout, hbounded, fun h => by simp [hfailed] at h,
      fun h => by simp [hfailed] at h⟩
  · rw [hupdate]
    have hfirst := hstopped hworking hinitial
    refine ⟨htimeout, hsize, fun _ hzero => ?_, fun _ hnow => ?_⟩
    · cases hticked : timed.firstTick with
      | none => exact hzero
      | some first => rwa [hticked] at hfirst
    · cases hticked : timed.firstTick with
      | none => exact .inr rfl
      | some first =>
          rw [hticked] at hfirst
          exact .inl (congrArg some hfirst)
  · rw [hupdate]
    refine ⟨htimeout, hbounded, fun _ hzero => absurd hzero hinitial,
      fun _ _ => ?_⟩
    rcases hstarted hworking hinitial with hfirst | hfirst
    · exact .inl (by simp [hfirst])
    · exact .inr (by simp [hfirst])
  · rw [hupdate]
    exact ⟨htimeout, hbounded, fun h => by simp [QUICDataStream.fail] at h,
      fun h => by simp [QUICDataStream.fail] at h⟩

theorem Running.stop (hrunning : timed.Running) {stream : QUICDataStream}
    (hstream : stream = timed.stream ∧ stream.mFailed = true ∨
      stream.mTimeoutMS = timed.stream.mTimeoutMS ∧ stream.mInitialMS = 0) :
    Running { timed with stream, firstTick := none } := by
  rcases hstream with ⟨rfl, hfailed⟩ | ⟨htimeout, hinitial⟩
  · exact ⟨hrunning.timeout, hrunning.bounded, fun _ _ => rfl,
      fun h => by simp [hfailed] at h⟩
  · refine ⟨htimeout.trans hrunning.timeout, ?_, fun _ _ => rfl,
      fun _ h => absurd hinitial h⟩
    change stream.mInitialMS < 2 ^ 64
    omega

theorem Running.react (hrunning : timed.Running) (event : TimerEvent) :
    (timed.react event).Running := by
  cases event with
  | update aNowMS => exact hrunning.update aNowMS.toNat_lt
  | onStreamFrame =>
      refine hrunning.stop ?_
      unfold QUICDataStream.onStreamFrame
      split
      · exact .inl ⟨rfl, by assumption⟩
      · exact .inr ⟨rfl, rfl⟩
  | onInitialHeadersComplete responseCode headers =>
      refine hrunning.stop ?_
      unfold QUICDataStream.onInitialHeadersComplete
      split
      · exact .inl ⟨rfl, by assumption⟩
      · exact .inr ⟨rfl, rfl⟩

theorem timesOutInactive_react (hrunning : timed.Running)
    (hinactive : timed.TimesOutInactive) {event : TimerEvent}
    (hforward : timed.Forward event) :
    (timed.react event).TimesOutInactive := by
  cases event with
  | onStreamFrame => exact hinactive
  | onInitialHeadersComplete responseCode headers => exact hinactive
  | update aNowMS =>
      rcases timed.update_cases aNowMS.toNat with ⟨-, hupdate⟩ |
        ⟨-, -, hupdate⟩ | ⟨-, -, -, hupdate⟩ |
        ⟨hworking, hinitial, hage, hupdate⟩
      · rw [react, hupdate]
        exact hinactive
      · rw [react, hupdate]
        exact hinactive
      · rw [react, hupdate]
        exact hinactive
      · rw [hrunning.timeout, sizeDifference_gt_iff hrunning.bounded
          aNowMS.toNat_lt] at hage
        rw [react, hupdate]
        rintro first tick hpair
        obtain ⟨rfl, rfl⟩ := Prod.mk.inj (Option.some.inj hpair)
        have hstart := hrunning.started hworking hinitial
        simp only [Forward, hworking, Bool.false_eq_true, false_or] at hforward
        rcases hstart with hfirst | hfirst
        · rw [hfirst] at hforward ⊢
          simp only [Option.getD_some] at hforward ⊢
          omega
        · rw [hfirst] at hforward ⊢
          simp only [Option.getD_some] at hforward ⊢
          omega

theorem not_timesOutInactive_react (hrunning : timed.Running)
    {event : TimerEvent} (hback : ¬ timed.Forward event) :
    ¬ (timed.react event).TimesOutInactive := by
  cases event with
  | onStreamFrame => exact absurd trivial hback
  | onInitialHeadersComplete responseCode headers => exact absurd trivial hback
  | update aNowMS =>
      simp only [Forward, not_or, Bool.not_eq_true] at hback
      obtain ⟨hworking, hbelow, hwraps, hlate⟩ := hback
      have hinitial : timed.stream.mInitialMS ≠ 0 := by omega
      have hage : QUICDataStream.sizeDifference aNowMS.toNat
          timed.stream.mInitialMS > timed.stream.mTimeoutMS := by
        rw [hrunning.timeout, sizeDifference_gt_iff hrunning.bounded
          aNowMS.toNat_lt]
        omega
      rw [react, update_old hworking hinitial hage]
      intro hinactive
      have htime := hinactive _ _ rfl
      rcases hrunning.started hworking hinitial with hfirst | hfirst
      · rw [hfirst] at hlate htime
        exact hlate htime
      · rw [hfirst] at hlate htime
        exact hlate htime

end Runs

/--
A stream times out for inactivity alone in exactly the runs in which no tick
goes back below the start of the timer, unless that makes no difference.
-/
theorem timesOutInactive_iff_forward {trail : List (TimedStream × TimerEvent)}
    {timed : TimedStream}
    (path : system.Path (fun _ _ => True) trail timed) :
    EventSystem.Throughout TimesOutInactive trail timed ↔
      EventSystem.Obeys Forward trail := by
  refine path.throughout_iff_obeys
    (fun timed => timed.Running ∧ timed.TimesOutInactive) ?_ ?_ ?_
      fun _ h => h.2
  · rintro _ rfl
    exact ⟨start_running, fun _ _ h => nomatch h⟩
  · rintro timed event timed' ⟨hrunning, hinactive⟩ - hforward hstep
    obtain rfl := Option.some.inj hstep
    exact ⟨hrunning.react event,
      timesOutInactive_react hrunning hinactive hforward⟩
  · rintro timed event timed' ⟨hrunning, -⟩ - hback hstep
    obtain rfl := Option.some.inj hstep
    exact not_timesOutInactive_react hrunning hback

section ClockSetBack

def startedAt (initialMS : Nat) : TimedStream where
  stream := { mInitialMS := initialMS }
  firstTick := some initialMS
  timedOut := none

theorem startedAt_path :
    system.Path (fun _ _ => True) [(start, TimerEvent.update 5000)]
      (startedAt 5000) :=
  EventSystem.Path.next (e := TimerEvent.update 5000) (.start rfl) trivial
    (by decide)

/-- Five seconds after the start of the timer the clock is set back by one. -/
theorem clockSetBack_not_inactive :
    ∃ timed, system.Reachable (fun _ _ => True) timed ∧
      ¬ timed.TimesOutInactive := by
  refine ⟨(startedAt 5000).react (TimerEvent.update 4000),
    startedAt_path.reachable.next trivial rfl, fun hinactive => ?_⟩
  have hlate := hinactive 5000 4000 (by decide)
  omega

def lateBody : List TimerEvent :=
  [.update 5000, .update 24000, .onStreamFrame, .update 26000,
    .onInitialHeadersComplete 200 [], .update 30000, .update 50000,
    .update 50001, .update 60000]

theorem timesOutInactive_iff_forward_started :
    ∃ trail timed, system.Path (fun _ _ => True) trail timed ∧
      trail.map Prod.snd = lateBody ∧
      EventSystem.Throughout TimesOutInactive trail timed ∧
      timed.timedOut = some (30000, 50001) := by
  obtain ⟨trail, timed, path, hforward, hevents, hlast⟩ :=
    EventSystem.exists_run system (fun _ _ => True) Forward (s := start)
      lateBody (fun timed => timed.timedOut = some (30000, 50001)) rfl
      (by decide)
  exact ⟨trail, timed, path, hevents,
    (timesOutInactive_iff_forward path).mpr hforward,
    of_decide_eq_true hlast⟩

end ClockSetBack

end TimedStream

end RevSDK
