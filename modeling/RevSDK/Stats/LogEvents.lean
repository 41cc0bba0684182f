import RevSDK.Foundation.Runs
import RevSDK.Stats.StatsHandler
import Mathlib.Algebra.BigOperators.Group.List.Basic
import Mathlib.Algebra.Order.Group.Multiset

/-!
# Where the log events are

An event is in the events file until a report is built, and in the body of that
report from then on.  Nothing brings it back from there: the callbacks of a
report restore request records only.
-/

namespace RevSDK

open RevSDK.Foundation
open DataStorage

def eventsOf (body : PropertyList) : List Json :=
  match body.lookup "log_events" with
  | some (.array events) => events
  | _ => []

/-- In flight or reported successful, a report keeps its events. -/
def Report.keeps (report : Report) : Multiset Json :=
  match report.fate with
  | .inFlight => eventsOf report.body
  | .succeeded => eventsOf report.body
  | .failed => 0

structure LogWorld where
  world : ReportWorld
  added : List Json

namespace LogWorld

section Runs

variable (platform : StatsPlatform)

def react (log : LogWorld) (event : ReportEvent) : Outcome LogWorld := do
  let world ← log.world.react platform event
  return {
    world := world
    added :=
      match event with
      | .addEvent aEvent => log.added ++ [eventDictionary platform aEvent]
      | _ => log.added }

def system : EventSystem LogWorld ReportEvent where
  initial log := ∃ requestsFile eventsFile gID,
    log = ⟨.start requestsFile eventsFile gID, loadEvents eventsFile⟩
  step log event := (log.react platform event).toOption

def kept (log : LogWorld) : Multiset Json :=
  (loadEvents log.world.eventsFile : Multiset Json) +
    (log.world.reports.map Report.keeps).sum

/-- No event is lost; equal events count one by one. -/
def NoneLost (log : LogWorld) : Prop := (log.added : Multiset Json) ≤ log.kept

def FailsEmpty (log : LogWorld) (event : ReportEvent) : Prop :=
  ∀ index report, event = .completion index false →
    log.world.reports[index]? = some report → report.fate = .inFlight →
      eventsOf report.body = []

instance (log : LogWorld) (event : ReportEvent) :
    Decidable (log.FailsEmpty event) :=
  match event with
  | .completion index false =>
      decidable_of_iff (∀ report ∈ log.world.reports[index]?,
        report.fate = .inFlight → eventsOf report.body = [])
        ⟨fun h _ report hevent hreport => h report
            ((ReportEvent.completion.inj hevent).1 ▸ hreport),
          fun h report hreport => h index report rfl hreport⟩
  | .completion _ true => isTrue fun _ _ hevent => by cases hevent
  | .addRequestData _ => isTrue fun _ _ hevent => by cases hevent
  | .deleteRequestsData => isTrue fun _ _ hevent => by cases hevent
  | .addEvent _ => isTrue fun _ _ hevent => by cases hevent
  | .createSendTransaction _ _ _ => isTrue fun _ _ hevent => by cases hevent

end Runs

/-! ## The body of a report -/

section Bodies

variable (platform : StatsPlatform)

theorem lookup_cons_ne {key other : String} (hother : other ≠ key)
    (value : Json) (sd : PropertyList) :
    ((key, value) :: sd).lookup other = sd.lookup other := by
  rw [List.lookup_cons, beq_false_of_ne hother]

theorem lookup_setObject {key other : String} (hother : other ≠ key)
    (value : Json) (sd : PropertyList) :
    (NativeStatsHandler.setObject sd key value).lookup other =
      sd.lookup other := by
  unfold NativeStatsHandler.setObject
  induction sd with
  | nil => exact lookup_cons_ne hother value []
  | cons member sd ih =>
      obtain ⟨first, object⟩ := member
      by_cases hkey : first = key
      · rw [List.filter_cons_of_neg (by simp [hkey]), ih,
          lookup_cons_ne (hkey ▸ hother)]
      · rw [List.filter_cons_of_pos (by simpa using hkey), List.cons_append,
          List.lookup_cons, List.lookup_cons, ih]

theorem lookup_setObjects {other : String} {aParams : List (String × String)}
    (hother : ∀ i ∈ aParams, other ≠ cString i.1) (sd : PropertyList) :
    (aParams.foldl (fun sd i => NativeStatsHandler.setObject sd (cString i.1)
      (.string (cString i.2))) sd).lookup other = sd.lookup other := by
  induction aParams generalizing sd with
  | nil => rfl
  | cons i aParams ih =>
      obtain ⟨hfirst, hrest⟩ := List.forall_mem_cons.mp hother
      rw [List.foldl_cons, ih hrest, lookup_setObject hfirst]

theorem createSendTransaction_events {surroundings : Surroundings}
    {handler handler' : StatsHandler} {gID gID' aRequestCount : Int}
    {file file' : EventsFile} {aAppName : String}
    {statsData : ReportTransactionHanle} {sd : PropertyList}
    (hreturns : handler.createSendTransaction platform surroundings gID file
      aRequestCount aAppName = .ok (statsData, sd, handler', gID', file')) :
    eventsOf sd = loadEvents file ∧ loadEvents file' = [] := by
  obtain ⟨requestsData, requests, -, -, -, hall⟩ :=
    StatsHandler.createSendTransaction_spec platform hreturns
  have hsd : sd = _ := congrArg Prod.fst hall
  have hfile : file' = _ := congrArg Prod.snd hall
  refine ⟨?_, by rw [hfile]; rfl⟩
  have hnames : ∀ i ∈ handler.stringMap surroundings aAppName,
      "log_events" ≠ cString i.1 := by
    unfold StatsHandler.stringMap
    simp only [List.forall_mem_cons, List.not_mem_nil, IsEmpty.forall_iff,
      implies_true, and_true]
    decide
  rw [hsd, NativeStatsHandler.allData, eventsOf, lookup_setObjects hnames]
  rfl

end Bodies

section Keeping

variable {platform : StatsPlatform} {log log' : LogWorld} {event : ReportEvent}
  {trail : List (LogWorld × ReportEvent)}

theorem Report.keeps_of_ne {report : Report} (hfate : report.fate ≠ .failed) :
    report.keeps = eventsOf report.body := by
  unfold Report.keeps
  cases hreport : report.fate with
  | failed => exact absurd hreport hfate
  | _ => rfl

theorem completion_cases {world world' : ReportWorld} {index : Nat}
    {isNoError : Bool} (hreturns : world.completion index isNoError =
      .ok world') :
    world'.eventsFile = world.eventsFile ∧
      (world'.reports = world.reports ∧
          (∀ report, world.reports[index]? = some report →
            report.fate ≠ .inFlight) ∨
        ∃ report, world.reports[index]? = some report ∧
          report.fate = .inFlight ∧
          world'.reports = world.reports.set index { report with
            fate := if isNoError then .succeeded else .failed }) := by
  unfold ReportWorld.completion at hreturns
  split at hreturns
  · next statsData body hreport =>
      refine ⟨?_, .inr ⟨_, hreport, rfl, ?_⟩⟩ <;>
        · cases isNoError with
          | true =>
              dsimp only at hreturns
              rw [if_pos rfl] at hreturns
              split at hreturns
              · obtain ⟨⟨handler, file⟩, -, hworld⟩ :=
                  (Outcome.bind_eq_ok _ _ _).mp hreturns
                obtain rfl := Except.ok.inj hworld
                rfl
              · obtain rfl := Except.ok.inj hreturns
                rfl
          | false =>
              dsimp only at hreturns
              rw [if_neg (by decide)] at hreturns
              split at hreturns
              · obtain ⟨handler, -, hworld⟩ :=
                  (Outcome.bind_eq_ok _ _ _).mp hreturns
                obtain rfl := Except.ok.inj hworld
                rfl
              · obtain rfl := Except.ok.inj hreturns
                rfl
  · next hother =>
      obtain rfl := Except.ok.inj hreturns
      refine ⟨rfl, .inl ⟨rfl, ?_⟩⟩
      rintro ⟨statsData, body, fate⟩ hreport rfl
      exact hother statsData body hreport

theorem sum_keeps_set {reports : List Report} {index : Nat} {report : Report}
    (hreport : reports[index]? = some report) (report' : Report) :
    ((reports.set index report').map Report.keeps).sum + report.keeps =
      (reports.map Report.keeps).sum + report'.keeps := by
  obtain ⟨hindex, rfl⟩ := List.getElem?_eq_some_iff.mp hreport
  have hsplit : reports = reports.take index ++
      reports[index] :: reports.drop (index + 1) := by
    rw [← List.drop_eq_getElem_cons hindex, List.take_append_drop]
  rw [List.set_eq_take_append_cons_drop, if_pos hindex]
  conv_rhs => rw [hsplit]
  simp only [List.map_append, List.map_cons, List.sum_append, List.sum_cons]
  ac_rfl

theorem completion_kept {world : ReportWorld} {index : Nat} {isNoError : Bool}
    (hreturns : log.world.completion index isNoError = .ok world) :
    kept { log with world := world } = log.kept ∧ (∀ report,
        log.world.reports[index]? = some report →
          report.fate = .inFlight → isNoError = true) ∨
      ∃ report, log.world.reports[index]? = some report ∧
        report.fate = .inFlight ∧ isNoError = false ∧
        kept { log with world := world } +
          (eventsOf report.body : Multiset Json) = log.kept := by
  obtain ⟨hfile, hsame | ⟨report, hreport, hfate, hreports⟩⟩ :=
    completion_cases hreturns
  · left
    refine ⟨?_, fun report hreport hfate =>
      absurd hfate (hsame.2 report hreport)⟩
    unfold kept
    dsimp only
    rw [hfile, hsame.1]
  · have hkeeps : report.keeps = eventsOf report.body :=
      Report.keeps_of_ne (by simp [hfate])
    have hmoved := sum_keeps_set hreport { report with
      fate := if isNoError then .succeeded else .failed }
    rw [← hreports, hkeeps] at hmoved
    unfold kept
    dsimp only
    rw [hfile]
    cases isNoError with
    | true =>
        left
        refine ⟨?_, fun _ _ _ => rfl⟩
        have hafter : Report.keeps { report with
            fate := if true = true then .succeeded else .failed } =
          eventsOf report.body := Report.keeps_of_ne (by simp)
        rw [hafter] at hmoved
        rw [add_right_cancel hmoved]
    | false =>
        right
        refine ⟨report, hreport, hfate, rfl, ?_⟩
        have hafter : Report.keeps { report with
            fate := if false = true then .succeeded else .failed } =
          0 := rfl
        rw [hafter, add_zero] at hmoved
        rw [add_assoc, hmoved]

theorem react_kept (hreact : log.react platform event = .ok log') :
    match event with
    | .addEvent aEvent =>
        log'.kept = {eventDictionary platform aEvent} + log.kept ∧
          log'.added = log.added ++ [eventDictionary platform aEvent]
    | .completion index isNoError =>
        log'.added = log.added ∧
          (log'.kept = log.kept ∧ (∀ report,
              log.world.reports[index]? = some report →
                report.fate = .inFlight → isNoError = true) ∨
            ∃ report, log.world.reports[index]? = some report ∧
              report.fate = .inFlight ∧ isNoError = false ∧
              log'.kept + (eventsOf report.body : Multiset Json) = log.kept)
    | _ => log'.kept = log.kept ∧ log'.added = log.added := by
  obtain ⟨world, hworld, hlog⟩ := (Outcome.bind_eq_ok _ _ _).mp hreact
  obtain rfl := Except.ok.inj hlog
  cases event with
  | addRequestData aRequestData =>
      obtain ⟨⟨handler, file⟩, -, hnext⟩ :=
        (Outcome.bind_eq_ok _ _ _).mp hworld
      obtain rfl := Except.ok.inj hnext
      exact ⟨rfl, rfl⟩
  | deleteRequestsData =>
      obtain ⟨⟨handler, file⟩, -, hnext⟩ :=
        (Outcome.bind_eq_ok _ _ _).mp hworld
      obtain rfl := Except.ok.inj hnext
      exact ⟨rfl, rfl⟩
  | addEvent aEvent =>
      obtain rfl := Except.ok.inj hworld
      refine ⟨?_, rfl⟩
      unfold kept
      simp only [DataStorage.addEvent, loadEvents, Option.getD_some,
        ← Multiset.coe_add, Multiset.coe_singleton]
      ac_rfl
  | createSendTransaction surroundings aRequestCount aAppName =>
      obtain ⟨⟨statsData, body, handler, gID, file⟩, hcreated, hnext⟩ :=
        (Outcome.bind_eq_ok _ _ _).mp hworld
      obtain rfl := Except.ok.inj hnext
      obtain ⟨hbody, hfile⟩ := createSendTransaction_events platform hcreated
      refine ⟨?_, rfl⟩
      unfold kept
      dsimp only
      rw [hfile, List.map_append, List.sum_append, List.map_singleton,
        List.sum_singleton, Report.keeps_of_ne (by simp), hbody,
        Multiset.coe_nil, zero_add, add_comm]
  | completion index isNoError => exact ⟨rfl, completion_kept hworld⟩

/--
No event is lost in exactly the runs in which only reports without events fail.
-/
theorem noneLost_iff_failsEmpty
    (path : (system platform).Path (fun _ _ => True) trail log) :
    EventSystem.Throughout NoneLost trail log ↔
      EventSystem.Obeys FailsEmpty trail := by
  refine path.throughout_iff_obeys (fun log =>
    (log.added : Multiset Json) = log.kept) ?_ ?_ ?_ fun log h => h.le
  · rintro _ ⟨requestsFile, eventsFile, gID, rfl⟩
    simp [kept, ReportWorld.start]
  · intro log event log' hkept _ hempty hstep
    have hnext := react_kept ((Outcome.toOption_eq_some _ _).mp hstep)
    cases event with
    | addEvent aEvent =>
        obtain ⟨hafter, hadded⟩ := hnext
        rw [hafter, hadded, ← hkept, ← Multiset.coe_add,
          Multiset.coe_singleton, add_comm]
    | completion index isNoError =>
        obtain ⟨hadded, hsame | ⟨report, hreport, hfate, rfl, hmoved⟩⟩ := hnext
        · rw [hadded, hsame.1, hkept]
        · rw [hempty index report rfl hreport hfate, Multiset.coe_nil,
            add_zero] at hmoved
          rw [hadded, hmoved, hkept]
    | _ =>
        obtain ⟨hafter, hadded⟩ := hnext
        rw [hafter, hadded, hkept]
  · intro log event log' hkept _ hfails hstep hnone
    apply hfails
    rintro index report rfl hreport hfate
    obtain ⟨hadded, hsame | ⟨other, hother, -, -, hmoved⟩⟩ :=
      react_kept ((Outcome.toOption_eq_some _ _).mp hstep)
    · simpa using hsame.2 report hreport hfate
    · obtain rfl := Option.some.inj (hother.symm.trans hreport)
      have hle : log'.kept + (eventsOf other.body : Multiset Json) ≤
          log'.kept + 0 := by
        rw [hmoved, ← hkept, ← hadded, add_zero]
        exact hnone
      have hzero := Multiset.le_zero.mp (le_of_add_le_add_left hle)
      exact (Multiset.coe_eq_zero _).mp hzero

end Keeping

section LostEvent

def initialized : Event := ⟨"info", 3, "SDK Initialized", 0, 0⟩

def addInitialized : ReportEvent := .addEvent initialized

def silentStart : LogWorld := ⟨.start none none 0, []⟩

def logged : LogWorld :=
  ⟨{ silentStart.world with
      eventsFile := some [eventDictionary silentPlatform initialized] },
    [eventDictionary silentPlatform initialized]⟩

theorem logged_path :
    (system silentPlatform).Path (fun _ _ => True)
      [(silentStart, addInitialized)] logged := by
  have hstart : (system silentPlatform).Path (fun _ _ => True) [] silentStart :=
    .start ⟨none, none, 0, rfl⟩
  exact hstart.next trivial rfl

def eventReport : PropertyList :=
  (NativeStatsHandler.allData silentPlatform nowhere logged.world.eventsFile
    ⟨[]⟩ (logged.world.mStatsHandler.stringMap nowhere "app")).1

def lostEvent : LogWorld :=
  ⟨{ silentStart.world with
      reports := [⟨⟨none, none, ⟨[1]⟩⟩, eventReport, .failed⟩] },
    [eventDictionary silentPlatform initialized]⟩

theorem lostEvent_not_noneLost :
    (system silentPlatform).Reachable (fun _ _ => True) lostEvent ∧
      ¬ lostEvent.NoneLost := by
  constructor
  · have hbuilt := logged_path.reachable.next
      (e := ReportEvent.createSendTransaction nowhere 500 "app") trivial rfl
    exact hbuilt.next (e := ReportEvent.completion 0 false) trivial rfl
  · intro hnone
    have hempty : lostEvent.kept = 0 := rfl
    rw [NoneLost, hempty] at hnone
    exact absurd (Multiset.le_zero.mp hnone) (Multiset.singleton_ne_zero _)

def eventDelivered : List ReportEvent :=
  [addInitialized, .createSendTransaction nowhere 500 "app",
    .completion 0 true, .createSendTransaction nowhere 500 "app",
    .completion 1 false]

theorem noneLost_iff_failsEmpty_logged :
    ∃ trail log,
      (system silentPlatform).Path (fun _ _ => True) trail log ∧
      trail.map Prod.snd = eventDelivered ∧
      EventSystem.Throughout NoneLost trail log ∧
      log.world.reports.map Report.fate = [.succeeded, .failed] := by
  obtain ⟨trail, log, path, hempty, hevents, hlast⟩ :=
    EventSystem.exists_run (system silentPlatform) (fun _ _ => True)
      FailsEmpty (s := silentStart) eventDelivered
      (fun log => log.world.reports.map Report.fate = [.succeeded, .failed])
      ⟨none, none, 0, rfl⟩ (by decide)
  exact ⟨trail, log, path, hevents,
    (noneLost_iff_failsEmpty path).mpr hempty, of_decide_eq_true hlast⟩

end LostEvent

end LogWorld

end RevSDK
