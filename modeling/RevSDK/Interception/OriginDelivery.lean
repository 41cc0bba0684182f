import RevSDK.Foundation.Dialogue
import RevSDK.Interception.RSOriginSession
import Mathlib.Data.List.Perm.Basic

/-!
# What the delegate of a task receives

A delegate hears every callback of its task until one finds the task completed.
If that is not the completion itself, the delegate is sent a completion without
error in its place and hears nothing more.
-/

namespace RevSDK

open RevSDK.Foundation

def hear (heard : List TaskCall × Bool) (visit : TaskCall × Bool) :
    List TaskCall × Bool :=
  if heard.2 then
    match visit with
    | (.didCompleteWithError error, completed) =>
        (heard.1 ++ [.didCompleteWithError error], !completed)
    | (call, true) => (heard.1 ++ [call, .didCompleteWithError none], false)
    | (call, false) => (heard.1 ++ [call], true)
  else heard

def TaskCall.isCompletion : TaskCall → Bool
  | .didCompleteWithError _ => true
  | _ => false

section Hearing

variable {front : List (TaskCall × Bool)} {error : Option Error}
  {completed : Bool}

theorem hear_silent (history : List (TaskCall × Bool))
    (calls : List TaskCall) :
    history.foldl hear (calls, false) = (calls, false) := by
  induction history with
  | nil => rfl
  | cons visit history ih => exact ih

theorem hear_early {call : TaskCall} (hcall : call.isCompletion = false)
    (calls : List TaskCall) :
    hear (calls, true) (call, true) =
      (calls ++ [call, .didCompleteWithError none], false) := by
  cases call with
  | didCompleteWithError error => contradiction
  | _ => rfl

theorem hear_running {call : TaskCall} (hcall : call.isCompletion = false)
    (calls : List TaskCall) :
    hear (calls, true) (call, false) = (calls ++ [call], true) := by
  cases call with
  | didCompleteWithError error => contradiction
  | _ => rfl

def finishedHistory (front : List (TaskCall × Bool)) (error : Option Error)
    (completed : Bool) : List (TaskCall × Bool) :=
  front ++ [(TaskCall.didCompleteWithError error, completed)]

theorem heard_all_iff (hfront : ∀ visit ∈ front, visit.1.isCompletion = false)
    (calls : List TaskCall) :
    ((finishedHistory front error completed).foldl hear (calls, true)).1 =
        calls ++ (finishedHistory front error completed).map Prod.fst ↔
      ∀ before call after, front = before ++ (call, true) :: after →
        after = [] ∧ error = none := by
  unfold finishedHistory
  induction front generalizing calls with
  | nil => simp [hear]
  | cons visit front ih =>
      obtain ⟨hvisit, hrest⟩ := List.forall_mem_cons.mp hfront
      obtain ⟨call, seen⟩ := visit
      cases seen with
      | true =>
          rw [List.cons_append, List.foldl_cons, hear_early hvisit, hear_silent,
            List.map_cons, List.append_right_inj, List.map_append]
          constructor
          · intro hheard
            have hlast := (List.cons.inj hheard).2
            have hnil : front = [] := by
              have hlength := congrArg List.length hlast
              simp only [List.length_append, List.length_map,
                List.length_singleton] at hlength
              exact List.length_eq_zero_iff.mp (by omega)
            subst hnil
            have herror : error = none := by simpa using hlast.symm
            intro before other after hsplit
            have hlength := congrArg List.length hsplit
            simp only [List.length_append, List.length_cons, List.length_nil]
              at hlength
            exact ⟨List.length_eq_zero_iff.mp (by omega), herror⟩
          · intro honly
            obtain ⟨rfl, rfl⟩ := honly [] call front rfl
            rfl
      | false =>
          have happend := List.append_cons calls call
            ((finishedHistory front error completed).map Prod.fst)
          unfold finishedHistory at happend
          rw [List.cons_append, List.foldl_cons, hear_running hvisit,
            List.map_cons, happend, ih hrest]
          constructor
          · intro honly before other after hsplit
            cases before with
            | nil => simp at hsplit
            | cons first before =>
                exact honly before other after (List.cons.inj hsplit).2
          · intro honly before other after hsplit
            exact honly ((call, false) :: before) other after
              (by rw [hsplit]; rfl)

end Hearing

namespace RSOriginSession

section Tracking

variable {session session' : RSOriginSession} {task other : NSURLSessionTask}
  {event : OriginEvent}

def heardBy (session : RSOriginSession) (task : NSURLSessionTask) :
    List TaskCall × Bool :=
  (session.told task, (session.map task.taskDescription).isSome)

theorem told_send (session : RSOriginSession) (delegate : Option Nat)
    (connectionId : Int) (call : TaskCall) (task : NSURLSessionTask) :
    (session.send delegate connectionId call).told task =
      if connectionId = task.taskDescription ∧ delegate = some task.delegate
      then session.told task ++ [call] else session.told task := by
  cases delegate with
  | none => simp [send]
  | some delegate =>
      unfold send told
      dsimp only
      rw [List.filter_append, List.map_append]
      by_cases hsame : connectionId = task.taskDescription ∧
          delegate = task.delegate
      · simp [hsame]
      · rw [if_neg (by simpa using hsame),
          List.filter_cons_of_neg (by simpa using hsame)]
        simp

@[simp] theorem send_map (session : RSOriginSession) (delegate : Option Nat)
    (connectionId : Int) (call : TaskCall) :
    (session.send delegate connectionId call).map = session.map := by
  cases delegate <;> rfl

def OwnDelegate (session : RSOriginSession) (task : NSURLSessionTask) : Prop :=
  ∀ delegate, session.map task.taskDescription = some delegate →
    delegate = task.delegate

theorem heardBy_removed (session : RSOriginSession) (task : NSURLSessionTask) :
    { session with
      map := session.map.removeConnectionId task.taskDescription }.heardBy
        task = (session.told task, false) := by
  simp [heardBy, told, RSLockedMap.removeConnectionId]

theorem heardBy_unmapped (hnone : session.map task.taskDescription = none) :
    session.heardBy task = (session.told task, false) := by
  simp [heardBy, hnone]

theorem heardBy_mapped {delegate : Nat}
    (hdelegate : session.map task.taskDescription = some delegate) :
    session.heardBy task = (session.told task, true) := by
  simp [heardBy, hdelegate]

theorem taskDidReceive_heardBy (hown : session.OwnDelegate task)
    {call : TaskCall} (hcall : call.isCompletion = false) :
    (session.taskDidReceive task call).heardBy task =
      hear (session.heardBy task) (call, task.completed) := by
  unfold taskDidReceive RSLockedMap.delegateForConnectionId
  dsimp only
  cases hdelegate : session.map task.taskDescription with
  | none =>
      have hdeaf := heardBy_unmapped hdelegate
      have hsilent := hear_silent [(call, task.completed)] (session.told task)
      rw [hdeaf]
      refine Eq.trans ?_ hsilent.symm
      cases task.completed with
      | true => exact heardBy_removed session task
      | false => exact hdeaf
  | some delegate =>
      obtain rfl := hown delegate hdelegate
      rw [heardBy_mapped hdelegate]
      cases task.completed with
      | true =>
          rw [if_pos rfl, hear_early hcall, heardBy_removed, told_send,
            if_pos ⟨rfl, rfl⟩, told_send, if_pos ⟨rfl, rfl⟩, List.append_assoc]
          rfl
      | false =>
          rw [if_neg (by decide), hear_running hcall]
          unfold heardBy
          rw [told_send, if_pos ⟨rfl, rfl⟩, send_map, hdelegate]
          rfl

theorem taskDidComplete_heardBy (hown : session.OwnDelegate task)
    (error : Option Error) :
    (session.taskDidComplete task error).heardBy task =
      hear (session.heardBy task)
        (.didCompleteWithError error, task.completed) := by
  unfold taskDidComplete RSLockedMap.delegateForConnectionId
  dsimp only
  cases hdelegate : session.map task.taskDescription with
  | none =>
      have hdeaf := heardBy_unmapped hdelegate
      rw [hdeaf]
      cases task.completed with
      | true => exact heardBy_removed session task
      | false => exact hdeaf
  | some delegate =>
      obtain rfl := hown delegate hdelegate
      rw [heardBy_mapped hdelegate]
      cases task.completed with
      | true =>
          rw [if_pos rfl, heardBy_removed, told_send, if_pos ⟨rfl, rfl⟩]
          rfl
      | false =>
          rw [if_neg (by decide)]
          unfold heardBy
          rw [told_send, if_pos ⟨rfl, rfl⟩, send_map, hdelegate]
          rfl

structure Elsewhere (session session' : RSOriginSession) (connectionId : Int) :
    Prop where
  cnt : session'.cnt = session.cnt
  performed : session'.performed = session.performed
  tasks : session'.tasks = session.tasks
  told : ∀ task, task.taskDescription ≠ connectionId →
    session'.told task = session.told task
  map : ∀ other, other ≠ connectionId → session'.map other = session.map other
  own : ∀ delegate, session'.map connectionId = some delegate →
    session.map connectionId = some delegate
  messages : ∀ message ∈ session'.messages,
    message ∈ session.messages ∨ message.task = connectionId

theorem Elsewhere.refl (session : RSOriginSession) (connectionId : Int) :
    session.Elsewhere session connectionId where
  cnt := rfl
  performed := rfl
  tasks := rfl
  told _ _ := rfl
  map _ _ := rfl
  own _ h := h
  messages _ h := .inl h

theorem Elsewhere.send {connectionId : Int}
    (helsewhere : session.Elsewhere session' connectionId)
    (delegate : Option Nat) (call : TaskCall) :
    session.Elsewhere (session'.send delegate connectionId call)
      connectionId where
  cnt := by
    rw [← helsewhere.cnt]
    cases delegate <;> rfl
  performed := by
    rw [← helsewhere.performed]
    cases delegate <;> rfl
  tasks := by
    rw [← helsewhere.tasks]
    cases delegate <;> rfl
  told task htask := by
    rw [told_send, if_neg fun h => htask h.1.symm, helsewhere.told task htask]
  map other hother := by rw [send_map, helsewhere.map other hother]
  own delegate' hdelegate := by
    rw [send_map] at hdelegate
    exact helsewhere.own delegate' hdelegate
  messages message hmessage := by
    cases delegate with
    | none => exact helsewhere.messages message hmessage
    | some delegate =>
        rcases List.mem_append.mp hmessage with hold | hnew
        · exact helsewhere.messages message hold
        · rw [List.mem_singleton.mp hnew]
          exact .inr rfl

theorem Elsewhere.remove {connectionId : Int}
    (helsewhere : session.Elsewhere session' connectionId) :
    session.Elsewhere { session' with
      map := session'.map.removeConnectionId connectionId } connectionId where
  cnt := helsewhere.cnt
  performed := helsewhere.performed
  tasks := helsewhere.tasks
  told := helsewhere.told
  map other hother := by
    rw [← helsewhere.map other hother]
    exact Function.update_of_ne hother _ _
  own delegate hdelegate := by
    simp [RSLockedMap.removeConnectionId] at hdelegate
  messages := helsewhere.messages

theorem taskDidReceive_elsewhere (session : RSOriginSession)
    (task : NSURLSessionTask) (call : TaskCall) :
    session.Elsewhere (session.taskDidReceive task call)
      task.taskDescription := by
  have hsent := (Elsewhere.refl session task.taskDescription).send
    (session.map.delegateForConnectionId task.taskDescription) call
  unfold taskDidReceive
  dsimp only
  split
  · exact (hsent.send _ _).remove
  · exact hsent

theorem taskDidComplete_elsewhere (session : RSOriginSession)
    (task : NSURLSessionTask) (error : Option Error) :
    session.Elsewhere (session.taskDidComplete task error)
      task.taskDescription := by
  have hsent := (Elsewhere.refl session task.taskDescription).send
    (session.map.delegateForConnectionId task.taskDescription)
    (.didCompleteWithError error)
  unfold taskDidComplete
  dsimp only
  split
  · exact hsent.remove
  · exact hsent

def identifiers (session : RSOriginSession) : List Int :=
  session.performed.map Prod.fst ++
    session.tasks.map NSURLSessionTask.taskDescription

structure Tracks (session : RSOriginSession) : Prop where
  distinct : session.identifiers.Nodup
  drawn : ∀ connectionId ∈ session.identifiers, connectionId < session.cnt
  heard : ∀ task ∈ session.tasks,
    session.heardBy task = task.history.foldl hear ([], true)
  own : ∀ task ∈ session.tasks, session.OwnDelegate task
  addressed : ∀ message ∈ session.messages,
    message.task ∈ session.tasks.map NSURLSessionTask.taskDescription
  ordered : ∀ task ∈ session.tasks, ∀ visit ∈ task.history.dropLast,
    visit.1.isCompletion = false

theorem mem_modify {tasks : List NSURLSessionTask} {index : Nat}
    {f : NSURLSessionTask → NSURLSessionTask}
    (htask : task ∈ tasks.modify index f) :
    ∃ place before, tasks[place]? = some before ∧
      task = if index = place then f before else before := by
  obtain ⟨place, hplace⟩ := List.mem_iff_getElem?.mp htask
  rw [List.getElem?_modify] at hplace
  obtain ⟨before, hbefore, hsame⟩ := Option.map_eq_some_iff.mp hplace
  exact ⟨place, before, hbefore, hsame.symm⟩

theorem Tracks.place_eq (htracks : session.Tracks) {index place : Nat}
    (htask : session.tasks[index]? = some task)
    (hother : session.tasks[place]? = some other)
    (hsame : other.taskDescription = task.taskDescription) :
    index = place := by
  have hnodup := (List.nodup_append.mp htracks.distinct).2.1
  obtain ⟨hindex, -⟩ := List.getElem?_eq_some_iff.mp htask
  have hlength : index < (session.tasks.map
      NSURLSessionTask.taskDescription).length := by
    rw [List.length_map]
    exact hindex
  apply (List.getElem?_inj hlength hnodup).mp
  rw [List.getElem?_map, List.getElem?_map, htask, hother]
  simp [hsame]

theorem map_taskDescription_modify {tasks : List NSURLSessionTask} {index : Nat}
    {f : NSURLSessionTask → NSURLSessionTask}
    (hdescription : ∀ other, (f other).taskDescription = other.taskDescription) :
    (tasks.modify index f).map NSURLSessionTask.taskDescription =
      tasks.map NSURLSessionTask.taskDescription := by
  refine List.ext_getElem? fun place => ?_
  rw [List.getElem?_map, List.getElem?_map, List.getElem?_modify]
  cases tasks[place]? with
  | none => rfl
  | some other =>
      simp only [Option.map_eq_map, Option.map_some]
      split
      · rw [hdescription]
      · rfl

theorem Tracks.mem_modify_cases (htracks : session.Tracks) {index : Nat}
    (htask : session.tasks[index]? = some task)
    {f : NSURLSessionTask → NSURLSessionTask} {changed : NSURLSessionTask}
    (hchanged : changed ∈ session.tasks.modify index f) :
    changed = f task ∨ ∃ other ∈ session.tasks, changed = other ∧
      other.taskDescription ≠ task.taskDescription := by
  obtain ⟨place, before, hbefore, hsame⟩ := mem_modify hchanged
  by_cases hplace : index = place
  · left
    rw [if_pos hplace] at hsame
    rw [← hplace, htask] at hbefore
    rw [hsame, Option.some.inj hbefore]
  · right
    rw [if_neg hplace] at hsame
    refine ⟨before, List.mem_of_getElem? hbefore, hsame, fun hdescribed => ?_⟩
    exact hplace (htracks.place_eq htask hbefore hdescribed)

theorem Tracks.modify (htracks : session.Tracks) {index : Nat}
    (htask : session.tasks[index]? = some task)
    (helsewhere : session.Elsewhere session' task.taskDescription)
    {f : NSURLSessionTask → NSURLSessionTask}
    (hdescription : ∀ other, (f other).taskDescription = other.taskDescription)
    (hdelegate : ∀ other, (f other).delegate = other.delegate)
    (hheard : session'.heardBy task = (f task).history.foldl hear ([], true))
    (hordered : ∀ visit ∈ (f task).history.dropLast,
      visit.1.isCompletion = false) :
    { session' with tasks := session'.tasks.modify index f }.Tracks := by
  have hdescriptions : (session'.tasks.modify index f).map
      NSURLSessionTask.taskDescription =
        session.tasks.map NSURLSessionTask.taskDescription := by
    rw [helsewhere.tasks]
    exact map_taskDescription_modify hdescription
  have hidentifiers : identifiers { session' with
      tasks := session'.tasks.modify index f } = session.identifiers := by
    unfold identifiers
    dsimp only
    rw [hdescriptions, helsewhere.performed]
  have hcases {changed : NSURLSessionTask}
      (hchanged : changed ∈ session'.tasks.modify index f) :
      changed = f task ∨ ∃ other ∈ session.tasks, changed = other ∧
        other.taskDescription ≠ task.taskDescription := by
    rw [helsewhere.tasks] at hchanged
    exact htracks.mem_modify_cases htask hchanged
  refine ⟨?_, ?_, ?_, ?_, ?_, ?_⟩
  · rw [hidentifiers]
    exact htracks.distinct
  · rw [hidentifiers]
    intro connectionId hmem
    change connectionId < session'.cnt
    rw [helsewhere.cnt]
    exact htracks.drawn connectionId hmem
  · intro changed hchanged
    rcases hcases hchanged with rfl | ⟨other, hother, rfl, hne⟩
    · rw [← hheard]
      unfold heardBy told
      rw [hdescription, hdelegate]
    · rw [← htracks.heard changed hother]
      unfold heardBy
      rw [← helsewhere.told changed hne, ← helsewhere.map _ hne]
      rfl
  · intro changed hchanged delegate hmapped
    rcases hcases hchanged with rfl | ⟨other, hother, rfl, hne⟩
    · rw [hdescription] at hmapped
      rw [hdelegate]
      exact htracks.own task (List.mem_of_getElem? htask) delegate
        (helsewhere.own delegate hmapped)
    · refine htracks.own changed hother delegate ?_
      rw [← helsewhere.map _ hne]
      exact hmapped
  · intro message hmessage
    rw [hdescriptions]
    rcases helsewhere.messages message hmessage with hold | hnew
    · exact htracks.addressed message hold
    · rw [hnew]
      exact List.mem_map_of_mem (List.mem_of_getElem? htask)
  · intro changed hchanged
    rcases hcases hchanged with rfl | ⟨other, hother, rfl, -⟩
    · exact hordered
    · exact htracks.ordered changed hother

theorem Tracks.callback (htracks : session.Tracks) {index : Nat}
    (htask : session.tasks[index]? = some task) {call : TaskCall}
    (helsewhere : session.Elsewhere session' task.taskDescription)
    (hheard : session'.heardBy task =
      hear (session.heardBy task) (call, task.completed))
    (hunfinished : ∀ visit ∈ task.history, visit.1.isCompletion = false) :
    (session'.record index call).Tracks := by
  have hmem := List.mem_of_getElem? htask
  refine htracks.modify htask helsewhere (fun _ => rfl) (fun _ => rfl) ?_ ?_
  · rw [hheard, htracks.heard task hmem, List.foldl_append]
    rfl
  · intro visit hvisit
    dsimp only at hvisit
    rw [List.dropLast_concat] at hvisit
    exact hunfinished visit hvisit

theorem unfinished_history (hunfinished : ¬ task.finished) :
    ∀ visit ∈ task.history, visit.1.isCompletion = false := by
  rintro ⟨call, completed⟩ hvisit
  cases call with
  | didCompleteWithError error =>
      exact absurd ⟨error, List.mem_map_of_mem hvisit⟩ hunfinished
  | _ => rfl

theorem Tracks.told_eq_nil (htracks : session.Tracks)
    (hfresh : ∀ other ∈ session.tasks,
      other.taskDescription ≠ task.taskDescription) :
    session.told task = [] := by
  unfold told
  rw [List.filter_eq_nil_iff.mpr, List.map_nil]
  intro message hmessage
  obtain ⟨other, hother, hsame⟩ :=
    List.mem_map.mp (htracks.addressed message hmessage)
  have hne := hfresh other hother
  rw [hsame] at hne
  simp [hne]

theorem Tracks.waiting_fresh (htracks : session.Tracks) {index : Nat}
    {connectionId : Int} {delegate : Nat}
    (hparams : session.performed[index]? = some (connectionId, delegate)) :
    ∀ other ∈ session.tasks, other.taskDescription ≠ connectionId := by
  rintro other hother rfl
  have hdisjoint := (List.nodup_append.mp htracks.distinct).2.2
  have hwaiting : other.taskDescription ∈ session.performed.map Prod.fst :=
    List.mem_map.mpr ⟨_, List.mem_of_getElem? hparams, rfl⟩
  exact hdisjoint _ hwaiting _ (List.mem_map_of_mem hother) rfl

theorem Tracks.p_createTaskWithParams (htracks : session.Tracks) {index : Nat}
    (hindex : index < session.performed.length) :
    (session.p_createTaskWithParams index).Tracks := by
  obtain ⟨⟨connectionId, delegate⟩, hsome⟩ :
      ∃ params, session.performed[index] = params := ⟨_, rfl⟩
  have hparams : session.performed[index]? = some (connectionId, delegate) := by
    rw [List.getElem?_eq_getElem hindex, hsome]
  have hcreated : session.p_createTaskWithParams index = { session with
      performed := session.performed.eraseIdx index
      map := session.map.setDelegate delegate connectionId
      tasks := session.tasks ++ [⟨connectionId, false, delegate, []⟩] } := by
    unfold RSOriginSession.p_createTaskWithParams
    rw [hparams]
  have hperm : (session.p_createTaskWithParams index).identifiers.Perm
      session.identifiers := by
    have hfirst : ((connectionId, delegate) ::
        session.performed.eraseIdx index).Perm session.performed := by
      rw [← hsome]
      exact List.getElem_cons_eraseIdx_perm hindex
    have hids := hfirst.map Prod.fst
    rw [hcreated]
    unfold identifiers
    dsimp only
    rw [List.map_append, List.map_singleton, ← List.append_assoc]
    exact (List.perm_append_singleton _ _).trans
      (hids.append_right (session.tasks.map _))
  have hfresh : ∀ other ∈ session.tasks,
      other.taskDescription ≠ connectionId := htracks.waiting_fresh hparams
  refine ⟨hperm.nodup_iff.mpr htracks.distinct, ?_, ?_, ?_, ?_, ?_⟩
  · intro other hother
    have hdrawn := htracks.drawn other (hperm.mem_iff.mp hother)
    rw [hcreated]
    exact hdrawn
  · intro other hother
    rw [hcreated] at hother ⊢
    rcases List.mem_append.mp hother with hold | hnew
    · have hne := hfresh other hold
      have hmapped : session.map.setDelegate delegate connectionId
          other.taskDescription = session.map other.taskDescription :=
        Function.update_of_ne hne _ _
      rw [← htracks.heard other hold]
      exact congrArg (fun mapped => (session.told other, Option.isSome mapped))
        hmapped
    · obtain rfl := List.mem_singleton.mp hnew
      have hsilent : session.told ⟨connectionId, false, delegate, []⟩ = [] :=
        htracks.told_eq_nil hfresh
      change (session.told _, _) = _
      rw [hsilent]
      simp [RSLockedMap.setDelegate]
  · intro other hother mapped hmapped
    rw [hcreated] at hother hmapped
    rcases List.mem_append.mp hother with hold | hnew
    · have hne := hfresh other hold
      refine htracks.own other hold mapped ?_
      rw [← hmapped]
      exact (Function.update_of_ne hne _ _).symm
    · obtain rfl := List.mem_singleton.mp hnew
      simpa [RSLockedMap.setDelegate] using hmapped.symm
  · intro message hmessage
    rw [hcreated] at hmessage ⊢
    rw [List.map_append]
    exact List.mem_append_left _ (htracks.addressed message hmessage)
  · intro other hother
    rw [hcreated] at hother
    rcases List.mem_append.mp hother with hold | hnew
    · exact htracks.ordered other hold
    · obtain rfl := List.mem_singleton.mp hnew
      simp

theorem Tracks.createTaskWithRequest (htracks : session.Tracks)
    {aDelegate : Option Nat}
    (hreturns : session.createTaskWithRequest aDelegate = .ok session') :
    session'.Tracks := by
  cases aDelegate with
  | none =>
      obtain rfl := Except.ok.inj hreturns
      exact htracks
  | some delegate =>
      obtain ⟨⟨connectionId, next⟩, hunique, hnext⟩ :=
        (Outcome.bind_eq_ok _ _ _).mp hreturns
      obtain rfl := Except.ok.inj hnext
      unfold uniqueConnectionIdentifier at hunique
      split at hunique
      · obtain ⟨rfl, rfl⟩ := Prod.mk.inj (Except.ok.inj hunique)
        have hperm : (identifiers { session with
            cnt := session.cnt + 1
            performed := session.performed ++
              [(session.cnt, delegate)] }).Perm
            (session.cnt :: session.identifiers) := by
          unfold identifiers
          rw [List.map_append, List.map_singleton, List.append_assoc]
          exact List.perm_middle
        refine ⟨?_, ?_, htracks.heard, htracks.own, htracks.addressed,
          htracks.ordered⟩
        · refine hperm.nodup_iff.mpr (List.nodup_cons.mpr ⟨fun hmem => ?_,
            htracks.distinct⟩)
          exact Int.lt_irrefl _ (htracks.drawn _ hmem)
        · intro connectionId hmem
          change connectionId < session.cnt + 1
          rcases List.mem_cons.mp (hperm.mem_iff.mp hmem) with rfl | hold
          · omega
          · have hdrawn := htracks.drawn connectionId hold
            omega
      · contradiction

theorem Tracks.react (htracks : session.Tracks)
    (hadmitted : session.Admitted event)
    (hreact : session.react event = .ok session') : session'.Tracks := by
  cases event with
  | createTaskWithRequest aDelegate =>
      exact htracks.createTaskWithRequest hreact
  | p_createTaskWithParams index =>
      obtain rfl := Except.ok.inj hreact
      exact htracks.p_createTaskWithParams hadmitted
  | completes index =>
      obtain rfl := Except.ok.inj hreact
      have htask := List.getElem?_eq_getElem hadmitted
      have hmem := List.mem_of_getElem? htask
      have hordered := htracks.ordered _ hmem
      exact htracks.modify htask (.refl session _) (fun _ => rfl)
        (fun _ => rfl) (htracks.heard _ hmem) hordered
  | didReceiveResponse index response =>
      obtain rfl := Except.ok.inj hreact
      obtain ⟨task, htask, hnone⟩ := hadmitted
      have hmem := List.mem_of_getElem? htask
      have hhistory : task.history = [] := List.map_eq_nil_iff.mp hnone
      unfold didReceiveResponse
      rw [htask]
      exact htracks.callback htask (taskDidReceive_elsewhere session task _)
        (taskDidReceive_heardBy (htracks.own task hmem) rfl)
        (by simp [hhistory])
  | didReceiveData index data =>
      obtain rfl := Except.ok.inj hreact
      obtain ⟨task, htask, -, hunfinished⟩ := hadmitted
      have hmem := List.mem_of_getElem? htask
      unfold didReceiveData
      rw [htask]
      exact htracks.callback htask (taskDidReceive_elsewhere session task _)
        (taskDidReceive_heardBy (htracks.own task hmem) rfl)
        (unfinished_history hunfinished)
  | didCompleteWithError index error =>
      obtain rfl := Except.ok.inj hreact
      obtain ⟨task, htask, hunfinished⟩ := hadmitted
      have hmem := List.mem_of_getElem? htask
      unfold didCompleteWithError
      rw [htask]
      exact htracks.callback htask (taskDidComplete_elsewhere session task _)
        (taskDidComplete_heardBy (htracks.own task hmem) error)
        (unfinished_history hunfinished)

theorem tracks_of_reachable (hreach : system.Reachable Admitted session) :
    session.Tracks := by
  refine hreach.invariant Tracks ?_ fun session event session' htracks
    hadmitted hstep =>
      htracks.react hadmitted ((Outcome.toOption_eq_some _ _).mp hstep)
  rintro _ rfl
  refine ⟨?_, ?_, ?_, ?_, ?_, ?_⟩ <;> simp [start, identifiers]

end Tracking

end RSOriginSession

namespace NSURLSessionTask

/--
No callback but the completion finds the task completed, except the last one
before a completion without error.
-/
def CompletesLast (task : NSURLSessionTask) : Prop :=
  ∀ before call after, task.history = before ++ (call, true) :: after →
    call.isCompletion = false →
      ∃ completed, after = [(.didCompleteWithError none, completed)]

theorem completesLast_iff {task : NSURLSessionTask}
    {front : List (TaskCall × Bool)} {error : Option Error}
    {completed : Bool}
    (hhistory : task.history = finishedHistory front error completed)
    (hfront : ∀ visit ∈ front, visit.1.isCompletion = false) :
    task.CompletesLast ↔
      ∀ before call after, front = before ++ (call, true) :: after →
        after = [] ∧ error = none := by
  unfold CompletesLast
  rw [hhistory]
  unfold finishedHistory
  constructor
  · rintro hlast before call after rfl
    have hcall : call.isCompletion = false := hfront (call, true) (by simp)
    obtain ⟨seen, hafter⟩ := hlast before call
      (after ++ [(.didCompleteWithError error, completed)]) (by simp) hcall
    have hlength := congrArg List.length hafter
    simp only [List.length_append, List.length_singleton] at hlength
    obtain rfl : after = [] := List.length_eq_zero_iff.mp (by omega)
    have hsame : error = none ∧ completed = seen := by
      simpa using (List.cons.inj hafter).1
    exact ⟨rfl, hsame.1⟩
  · intro hlast before call after hsplit hcall
    rcases append_singleton_eq_split.mp hsplit with ⟨-, -, hsame⟩ |
      ⟨kept, rfl, hkept⟩
    · rw [(Prod.mk.inj hsame).1] at hcall
      contradiction
    · obtain ⟨rfl, rfl⟩ := hlast before call kept hkept
      exact ⟨completed, rfl⟩

end NSURLSessionTask

namespace RSOriginSession

/--
A finished task's delegate is sent exactly what was delivered for the task, if
and only if no callback but the completion finds the task completed, except the
last one before a completion without error.
-/
theorem told_eq_delivered_iff {session : RSOriginSession}
    {task : NSURLSessionTask} (hreach : system.Reachable Admitted session)
    (htask : task ∈ session.tasks) (hfinished : task.finished) :
    session.told task = task.delivered ↔ task.CompletesLast := by
  have htracks := tracks_of_reachable hreach
  have hordered := htracks.ordered task htask
  obtain ⟨front, error, completed, hhistory⟩ : ∃ front error completed,
      task.history = finishedHistory front error completed := by
    obtain ⟨error, herror⟩ := hfinished
    obtain ⟨⟨call, completed⟩, hvisit, rfl⟩ := List.mem_map.mp herror
    rcases List.eq_nil_or_concat task.history with hnil | ⟨front, last, hlast⟩
    · simp [hnil] at hvisit
    · rw [List.concat_eq_append] at hlast
      rw [hlast, List.dropLast_concat] at hordered
      rw [hlast] at hvisit
      rcases List.mem_append.mp hvisit with hearly | hend
      · have hnot := hordered _ hearly
        contradiction
      · refine ⟨front, error, completed, ?_⟩
        rw [hlast, ← List.mem_singleton.mp hend]
        rfl
  have hfront : ∀ visit ∈ front, visit.1.isCompletion = false := by
    rw [hhistory] at hordered
    unfold finishedHistory at hordered
    rwa [List.dropLast_concat] at hordered
  have htold := congrArg Prod.fst (htracks.heard task htask)
  change session.told task = _ at htold
  rw [htold, NSURLSessionTask.delivered,
    NSURLSessionTask.completesLast_iff hhistory hfront, hhistory]
  exact heard_all_iff hfront []

section EarlyCompletion

def earlyTask : NSURLSessionTask where
  taskDescription := 0
  completed := true
  delegate := 7
  history := [
    (.didReceiveResponse 200, true),
    (.didReceiveData ⟨[1]⟩, true),
    (.didCompleteWithError (some {}), true)]

theorem earlyTask_reachable :
    ∃ session, system.Reachable Admitted session ∧
      earlyTask ∈ session.tasks ∧
      session.told earlyTask = [
        .didReceiveResponse 200, .didCompleteWithError none] := by
  have hstart : system.Reachable Admitted start := .start rfl
  have hasked := hstart.next
    (e := OriginEvent.createTaskWithRequest (some 7)) trivial rfl
  have hcreated := hasked.next
    (e := OriginEvent.p_createTaskWithParams 0) Nat.one_pos rfl
  have hcompleted := hcreated.next (e := OriginEvent.completes 0)
    Nat.one_pos rfl
  have hresponse := hcompleted.next
    (e := OriginEvent.didReceiveResponse 0 200) ⟨_, rfl, rfl⟩ rfl
  have hdata := hresponse.next (e := OriginEvent.didReceiveData 0 ⟨[1]⟩)
    ⟨_, rfl, by simp [NSURLSessionTask.delivered],
      by simp [NSURLSessionTask.finished, NSURLSessionTask.delivered]⟩ rfl
  have hended := hdata.next
    (e := OriginEvent.didCompleteWithError 0 (some {}))
    ⟨_, rfl, by simp [NSURLSessionTask.finished, NSURLSessionTask.delivered]⟩
    rfl
  exact ⟨_, hended, List.mem_singleton_self _, rfl⟩

theorem earlyTask_finished : earlyTask.finished :=
  ⟨some {}, by simp [earlyTask, NSURLSessionTask.delivered]⟩

/-- The data is lost and the error is reported as a success. -/
theorem earlyTask_not_delivered :
    ∃ session, system.Reachable Admitted session ∧
      earlyTask ∈ session.tasks ∧ earlyTask.finished ∧
      session.told earlyTask ≠ earlyTask.delivered := by
  obtain ⟨session, hreach, htask, htold⟩ := earlyTask_reachable
  refine ⟨session, hreach, htask, earlyTask_finished, ?_⟩
  rw [htold]
  simp [earlyTask, NSURLSessionTask.delivered]

def promptTask : NSURLSessionTask where
  taskDescription := 0
  completed := true
  delegate := 7
  history := [
    (.didReceiveResponse 200, false),
    (.didReceiveData ⟨[1]⟩, false),
    (.didCompleteWithError (some {}), true)]

theorem promptTask_completesLast : promptTask.CompletesLast := by
  refine (@NSURLSessionTask.completesLast_iff promptTask
    [(.didReceiveResponse 200, false), (.didReceiveData ⟨[1]⟩, false)] (some {})
    true rfl (by decide)).mpr ?_
  intro before call after hsplit
  have hmem : (call, true) ∈ before ++ (call, true) :: after := by simp
  rw [← hsplit] at hmem
  simp at hmem

theorem told_eq_delivered_iff_promptTask :
    ∃ session, system.Reachable Admitted session ∧
      promptTask ∈ session.tasks ∧
      session.told promptTask = promptTask.delivered := by
  have hstart : system.Reachable Admitted start := .start rfl
  have hasked := hstart.next
    (e := OriginEvent.createTaskWithRequest (some 7)) trivial rfl
  have hcreated := hasked.next
    (e := OriginEvent.p_createTaskWithParams 0) Nat.one_pos rfl
  have hresponse := hcreated.next
    (e := OriginEvent.didReceiveResponse 0 200) ⟨_, rfl, rfl⟩ rfl
  have hdata := hresponse.next (e := OriginEvent.didReceiveData 0 ⟨[1]⟩)
    ⟨_, rfl, by simp [NSURLSessionTask.delivered],
      by simp [NSURLSessionTask.finished, NSURLSessionTask.delivered]⟩ rfl
  have hcompleted := hdata.next (e := OriginEvent.completes 0) Nat.one_pos rfl
  have hended := hcompleted.next
    (e := OriginEvent.didCompleteWithError 0 (some {}))
    ⟨_, rfl, by simp [NSURLSessionTask.finished, NSURLSessionTask.delivered]⟩
    rfl
  have htask : promptTask ∈ [promptTask] := List.mem_singleton_self _
  have hfinished : promptTask.finished :=
    ⟨some {}, by simp [promptTask, NSURLSessionTask.delivered]⟩
  exact ⟨_, hended, htask, (told_eq_delivered_iff hended htask hfinished).mpr
    promptTask_completesLast⟩

end EarlyCompletion

end RSOriginSession

end RevSDK
