import PbrTelemetry.Proofs.Session.Lock

/-!
# The counter and the handlers in a step

Of all actions, only a reader that takes a response and a client that adds keys change the counter,
and only a task that takes a response or reports its status calls a handler.  `step_outward` says so
for every step; what a run does to the counter and to the handlers is read off it.
-/

namespace PbrTelemetry

namespace Session

def Action.successHandler? : Action → Option SuccessHandler
  | .setSuccessHandler handler => some handler
  | _ => none

def Action.failureHandler? : Action → Option FailureHandler
  | .setFailureHandler handler => some handler
  | _ => none

def counterAfter (session : Session) : Action → Counter
  | .addKeys keys => session.counter.addKeys keys
  | .readTask _ (.response response) | .readOnce _ (.response response) =>
    session.counter.accept response
  | _ => session.counter

def called (session : Session) : Action → List HandlerCall
  | .readTask _ (.response response) => session.shown response
  | .finishTask id =>
    match stageAt session.tasks id with
    | some (.reporting status) => session.reported status
    | _ => []
  | _ => []

variable {session next : Session} {action : Action}

structure Outward (session : Session) (action : Action) (next : Session) : Prop where
  counter : next.counter = session.counterAfter action
  handled : next.handled = session.handled ++ session.called action
  onSuccess : next.onSuccess = action.successHandler?.or session.onSuccess
  onFailure : next.onFailure = action.failureHandler?.or session.onFailure

theorem Frame.outward (frame : Frame session next)
    (counter : session.counterAfter action = session.counter) (silent : session.called action = [])
    (success : action.successHandler? = none) (failure : action.failureHandler? = none) :
    Outward session action next where
  counter := by rw [frame.counter, counter]
  handled := by rw [frame.handled, silent, List.append_nil]
  onSuccess := by rw [frame.onSuccess, success, Option.none_or]
  onFailure := by rw [frame.onFailure, failure, Option.none_or]

theorem readTask_outward {id : Nat} {arrival : Arrival}
    (done : session.readTask id arrival = some next) :
    Outward session (.readTask id arrival) next := by
  obtain ⟨task, -, -, -, taken | ⟨status, last, rfl⟩⟩ := readTask_inv done
  · obtain ⟨response, rfl, ⟨-, rfl⟩ | ⟨-, rfl⟩⟩ := taken
    · exact ⟨rfl, rfl, rfl, rfl⟩
    · exact ⟨rfl, rfl, rfl, rfl⟩
  · cases arrival with
    | response response => cases last
    | status _ | endOfStream | cancelled | expired =>
      exact ⟨rfl, (List.append_nil _).symm, rfl, rfl⟩

theorem readOnce_outward {id : Nat} {arrival : Arrival}
    (done : session.readOnce id arrival = some next) :
    Outward session (.readOnce id arrival) next := by
  obtain ⟨run, -, -, -, ⟨response, rfl, rfl⟩ | ⟨status, last, rfl⟩⟩ := readOnce_inv done
  · exact ⟨rfl, (List.append_nil _).symm, rfl, rfl⟩
  · cases arrival with
    | response response => cases last
    | status _ | endOfStream | cancelled | expired =>
      exact ⟨rfl, (List.append_nil _).symm, rfl, rfl⟩

theorem finishTask_outward {id : Nat} (finished : session.finishTask id = some next) :
    Outward session (.finishTask id) next := by
  obtain ⟨task, status, get, reporting, -, rfl⟩ := finishTask_inv finished
  refine ⟨rfl, ?_, rfl, rfl⟩
  simp only [called, stageAt_of_get get, reporting]

theorem step_outward (stepped : session.step action = some next) :
    Outward session action next := by
  cases action with
  | addKeys keys | setSuccessHandler handler | setFailureHandler handler | pass time =>
    cases stepped
    exact ⟨rfl, (List.append_nil _).symm, rfl, rfl⟩
  | start demand =>
    obtain ⟨-, rfl⟩ := start_inv stepped
    exact ⟨rfl, (List.append_nil _).symm, rfl, rfl⟩
  | dropClient =>
    obtain ⟨-, -, rfl⟩ := dropClient_inv stepped
    exact ⟨rfl, (List.append_nil _).symm, rfl, rfl⟩
  | acquire agent =>
    obtain ⟨-, -, rfl⟩ := acquire_inv stepped
    exact ⟨rfl, (List.append_nil _).symm, rfl, rfl⟩
  | runSection call => exact (frame_runSection stepped).outward rfl rfl rfl rfl
  | resume call =>
    obtain ⟨task, -, -, rfl⟩ := resume_inv stepped
    exact ⟨rfl, (List.append_nil _).symm, rfl, rfl⟩
  | abandon call =>
    obtain ⟨client, -, -, -, rfl⟩ := abandon_inv stepped
    exact ⟨rfl, (List.append_nil _).symm, rfl, rfl⟩
  | placeTask id =>
    obtain ⟨task, -, -, ⟨deadline, -, rfl⟩ | ⟨-, rfl⟩⟩ := placeTask_inv stepped
    · exact ⟨rfl, (List.append_nil _).symm, rfl, rfl⟩
    · exact ⟨rfl, (List.append_nil _).symm, rfl, rfl⟩
  | openTask id result =>
    obtain ⟨task, -, -, rfl⟩ := openTask_inv stepped
    exact ⟨rfl, (List.append_nil _).symm, rfl, rfl⟩
  | giveUpTask id =>
    obtain ⟨task, -, -, -, rfl⟩ := giveUpTask_inv stepped
    exact ⟨rfl, (List.append_nil _).symm, rfl, rfl⟩
  | readTask id arrival => exact readTask_outward stepped
  | storeStatus id =>
    obtain ⟨task, status, -, -, -, rfl⟩ := storeStatus_inv stepped
    exact ⟨rfl, (List.append_nil _).symm, rfl, rfl⟩
  | finishTask id => exact finishTask_outward stepped
  | placeOnce call =>
    obtain ⟨run, -, -, ⟨deadline, -, rfl⟩ | ⟨-, rfl⟩⟩ := placeOnce_inv stepped
    · exact ⟨rfl, (List.append_nil _).symm, rfl, rfl⟩
    · exact ⟨rfl, (List.append_nil _).symm, rfl, rfl⟩
  | openOnce call result =>
    obtain ⟨run, -, -, rfl⟩ := openOnce_inv stepped
    exact ⟨rfl, (List.append_nil _).symm, rfl, rfl⟩
  | readOnce call arrival => exact readOnce_outward stepped
  | receive remote =>
    obtain ⟨sent, queue, rest, -, -, -, rfl⟩ := receive_inv stepped
    exact (frame_setQueue session rest sent.caller).outward rfl rfl rfl rfl
  | closeReceiver remote =>
    obtain ⟨sent, queue, -, -, rfl⟩ := closeReceiver_inv stepped
    exact (frame_setQueue session queue.closeReceiver sent.caller).outward rfl rfl rfl rfl

/-! ## The handlers in a run -/

variable {start final : Session} {actions : List Action}

theorem Action.eq_of_successHandler? {handler : SuccessHandler}
    (set : action.successHandler? = some handler) : action = .setSuccessHandler handler := by
  simp only [Action.successHandler?] at set
  split at set
  · cases set
    rfl
  · cases set

theorem Action.eq_of_failureHandler? {handler : FailureHandler}
    (set : action.failureHandler? = some handler) : action = .setFailureHandler handler := by
  simp only [Action.failureHandler?] at set
  split at set
  · cases set
    rfl
  · cases set

/-- What only some actions set is, after a run, what it was at first or what one of them set. -/
theorem run_installed {α : Type} {current : Session → Option α} {sets : Action → Option α}
    {first : α}
    (kept : ∀ (session next : Session) (action : Action), session.step action = some next →
      current next = (sets action).or (current session))
    (installed : current start = some first) (ran : start.run actions = some final) :
    ∃ last, current final = some last ∧
      (last = first ∨ ∃ action ∈ actions, sets action = some last) := by
  refine run_induction (motive := fun actions final => ∃ last, current final = some last ∧
    (last = first ∨ ∃ action ∈ actions, sets action = some last)) ran ?_ ?_
  · exact ⟨first, installed, .inl rfl⟩
  · intro before session action next _ earlier stepped
    obtain ⟨last, same, origin⟩ := earlier
    rw [kept session next action stepped, same]
    cases set : sets action with
    | none =>
      refine ⟨last, rfl, origin.imp_right ?_⟩
      rintro ⟨setter, member, sets⟩
      exact ⟨setter, List.mem_append_left _ member, sets⟩
    | some other => exact ⟨other, rfl, .inr ⟨action, by simp, set⟩⟩

theorem run_onSuccess {handler : SuccessHandler} (installed : start.onSuccess = some handler)
    (ran : start.run actions = some final) :
    ∃ current, final.onSuccess = some current ∧
      (current = handler ∨ .setSuccessHandler current ∈ actions) := by
  obtain ⟨current, same, origin⟩ :=
    run_installed (fun _ _ _ stepped => (step_outward stepped).onSuccess) installed ran
  refine ⟨current, same, origin.imp_right ?_⟩
  rintro ⟨action, member, set⟩
  exact Action.eq_of_successHandler? set ▸ member

theorem run_onFailure {handler : FailureHandler} (installed : start.onFailure = some handler)
    (ran : start.run actions = some final) :
    ∃ current, final.onFailure = some current ∧
      (current = handler ∨ .setFailureHandler current ∈ actions) := by
  obtain ⟨current, same, origin⟩ :=
    run_installed (fun _ _ _ stepped => (step_outward stepped).onFailure) installed ran
  refine ⟨current, same, origin.imp_right ?_⟩
  rintro ⟨action, member, set⟩
  exact Action.eq_of_failureHandler? set ▸ member

end Session

end PbrTelemetry
