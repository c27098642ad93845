import PbrTelemetry.Proofs.Session.Lock

/-!
# Sessions in which nothing goes on

When all calls have returned and all tasks are over, a session changes only by what its client
begins anew, and by targets that still take requests of the remote calls they know.  `Quiet` is such
a session, closed before.  That nobody else can act is read off three facts about all sessions: the
lock is held by an agent that needs it, a call that acts is in progress, and remote calls were
placed by tasks and calls of the session.
-/

namespace PbrTelemetry

namespace Session

variable {session next : Session} {action : Action} {agent : Agent} {call id : Nat}

/-! ## The holder of the lock -/

theorem needsLock_task (needed : session.needsLock (.task id) = true) :
    ∃ status, stageAt session.tasks id = some (.ending status) ∨
      stageAt session.tasks id = some (.reporting status) := by
  simp only [needsLock] at needed
  split at needed
  · next status ending => exact ⟨status, .inl ending⟩
  · next status reporting => exact ⟨status, .inr reporting⟩
  · cases needed

theorem needsLock_of_stage {status : Status}
    (stage : stageAt session.tasks id = some (.ending status) ∨
      stageAt session.tasks id = some (.reporting status)) :
    session.needsLock (.task id) = true := by
  simp only [stageAt] at stage
  rcases stage with ending | reporting
  · simp only [needsLock, ending]
  · simp only [needsLock, reporting]

theorem needsLock_inProgress (needed : session.needsLock (.call call) = true) :
    ∃ client, session.calls[call]? = some client ∧ client.inProgress = true := by
  simp only [needsLock] at needed
  split at needed
  · next get => exact ⟨_, get, rfl⟩
  · next get => exact ⟨_, get, rfl⟩
  · next get => exact ⟨_, get, rfl⟩
  · next get => exact ⟨_, get, rfl⟩
  · cases needed

/-- A task that needs the lock needs it until it is over. -/
theorem step_needsLock_task (stepped : session.step action = some next)
    (needed : session.needsLock (.task id) = true) (unfinished : action ≠ .finishTask id) :
    next.needsLock (.task id) = true := by
  obtain ⟨status, stage⟩ := needsLock_task needed
  cases step_stage stepped id with
  | rest _ kept =>
    rw [← kept] at stage
    exact needsLock_of_stage stage
  | spawn _ absent _ => rcases stage with ending | ending <;> cases absent.symm.trans ending
  | advance get moved _ =>
    rw [stageAt_of_get get, Option.some.injEq, Option.some.injEq] at stage
    exact absurd stage (not_or.mpr (moved.not_ended status))
  | store _ _ reporting => exact needsLock_of_stage (.inr reporting)
  | finish finishing _ _ => exact absurd finishing unfinished

/-- A call that needs the lock stays as it is until it has had it or is given up. -/
theorem step_needsLock_call (stepped : session.step action = some next)
    (needed : session.needsLock (.call call) = true) (waits : action ≠ .runSection call)
    (wanted : action ≠ .abandon call) : next.needsLock (.call call) = true := by
  have kept : next.calls[call]? = session.calls[call]? := by
    cases step_calls stepped with
    | kept calls => rw [calls]
    | start _ calls =>
      have bound : call < session.calls.length := by
        by_contra beyond
        have absent := List.getElem?_eq_none (Nat.le_of_not_lt beyond)
        simp [needsLock, absent] at needed
      rw [calls, List.getElem?_append_left bound]
    | enter ran _ _ calls =>
      rw [calls, List.getElem?_set_ne]
      rintro rfl
      exact waits ran
    | resume _ waiting _ calls =>
      rw [calls, List.getElem?_set_ne]
      rintro rfl
      simp [needsLock, waiting] at needed
    | abandon left _ _ calls =>
      rw [calls, List.getElem?_set_ne]
      rintro rfl
      exact wanted left
    | once get calls =>
      rw [calls, List.getElem?_set_ne]
      rintro rfl
      simp [needsLock, get] at needed
  simpa only [needsLock, kept] using needed

theorem step_holder (stepped : session.step action = some next) (held : next.lock = some agent) :
    action = .acquire agent ∧ session.needsLock agent = true ∧
        next = { session with lock := some agent } ∨
      session.lock = some agent ∧ (∀ id, agent = .task id → action ≠ .finishTask id) ∧
        (∀ call, agent = .call call → action ≠ .runSection call ∧ action ≠ .abandon call) := by
  by_cases acquires : ∃ taker, action = .acquire taker
  · obtain ⟨taker, rfl⟩ := acquires
    obtain ⟨-, needed, rfl⟩ := acquire_inv stepped
    cases held
    exact .inl ⟨rfl, needed, rfl⟩
  · refine .inr ⟨?_, ?_, ?_⟩
    · cases step_effect stepped with
      | aside _ _ lock _ => rw [← lock, held]
      | queue _ _ _ => exact held
      | advance _ _ _ _ _ _ lock _ => rw [← lock, held]
      | store _ _ _ => exact held
      | finish _ _ _ => cases held
      | acquire _ _ => exact absurd ⟨_, rfl⟩ acquires
      | inSection _ ran => cases held.symm.trans (runSection_lock ran)
    · rintro id - rfl
      obtain ⟨task, status, -, -, -, rfl⟩ := finishTask_inv stepped
      cases held
    · rintro call rfl
      constructor
      · rintro rfl
        cases held.symm.trans (runSection_lock stepped)
      · -- A call that has the lock cannot be given up
        rintro rfl
        obtain ⟨client, -, -, free, rfl⟩ := abandon_inv stepped
        exact free held

theorem Reachable.lock_needed (reachable : Reachable session) :
    ∀ agent, session.lock = some agent → session.needsLock agent = true := by
  induction reachable with
  | fresh counter onSuccess onFailure =>
    intro agent held
    cases held
  | @step session next action _ stepped needed =>
    intro agent held
    obtain ⟨-, needs, rfl⟩ | ⟨before, unfinished, waits⟩ := step_holder stepped held
    · exact needs
    · have needs := needed agent before
      cases agent with
      | task id => exact step_needsLock_task stepped needs (unfinished id rfl)
      | call call => exact step_needsLock_call stepped needs (waits call rfl).1 (waits call rfl).2

/-! ## Remote calls -/

def Has (session : Session) : Agent → Prop
  | .task id => id < session.tasks.length
  | .call call => call < session.calls.length

theorem Has.step (has : Has session agent) (stepped : session.step action = some next) :
    Has next agent := by
  cases agent with
  | task id =>
    have get := List.getElem?_eq_getElem (show id < session.tasks.length from has)
    obtain ⟨later, found, -⟩ := step_continues stepped id _ get
    exact (List.getElem?_eq_some_iff.mp found).1
  | call call =>
    have bound : call < session.calls.length := has
    show call < next.calls.length
    cases step_calls stepped with
    | kept calls =>
      rw [calls]
      exact bound
    | start _ calls =>
      rw [calls, List.length_append]
      omega
    | enter _ _ _ calls | resume _ _ _ calls | abandon _ _ _ calls | once _ calls =>
      rw [calls, List.length_set]
      exact bound

def Action.agent? : Action → Option Agent
  | .acquire agent => some agent
  | action => (action.task?.map Agent.task).or (action.call?.map Agent.call)

structure Outside (session : Session) (action : Action) (next : Session) : Prop where
  -- A remote call is placed by the agent of the session that acts
  remote : next.remote = session.remote ∨
    ∃ caller metadata, Has session caller ∧ action.agent? = some caller ∧
      next.remote = session.remote ++ [⟨caller, metadata⟩]
  dropped : action ≠ .dropClient → next.dropped = session.dropped

theorem Frame.outside_step (frame : Frame session next) : Outside session action next :=
  ⟨.inl frame.remote, fun _ => frame.dropped⟩

theorem step_outside (stepped : session.step action = some next) :
    Outside session action next := by
  cases action with
  | placeTask id =>
    obtain ⟨task, get, -, ⟨deadline, -, rfl⟩ | ⟨-, rfl⟩⟩ := placeTask_inv stepped
    · have placed := (List.getElem?_eq_some_iff.mp get).1
      exact ⟨.inr ⟨.task id, task.metadata, placed, rfl, rfl⟩, fun _ => rfl⟩
    · exact ⟨.inl rfl, fun _ => rfl⟩
  | placeOnce call =>
    obtain ⟨run, get, -, ⟨deadline, -, rfl⟩ | ⟨-, rfl⟩⟩ := placeOnce_inv stepped
    · have placed := (List.getElem?_eq_some_iff.mp get).1
      exact ⟨.inr ⟨.call call, run.metadata, placed, rfl, rfl⟩, fun _ => rfl⟩
    · exact ⟨.inl rfl, fun _ => rfl⟩
  | runSection call => exact (frame_runSection stepped).outside_step
  | receive remote =>
    obtain ⟨called, queue, rest, -, -, -, rfl⟩ := receive_inv stepped
    exact (frame_setQueue session rest called.caller).outside_step
  | closeReceiver remote =>
    obtain ⟨called, queue, -, -, rfl⟩ := closeReceiver_inv stepped
    exact (frame_setQueue session queue.closeReceiver called.caller).outside_step
  | addKeys keys | setSuccessHandler handler | setFailureHandler handler | pass time =>
    cases stepped
    exact ⟨.inl rfl, fun _ => rfl⟩
  | start demand =>
    obtain ⟨-, rfl⟩ := start_inv stepped
    exact ⟨.inl rfl, fun _ => rfl⟩
  | dropClient =>
    obtain ⟨-, -, rfl⟩ := dropClient_inv stepped
    exact ⟨.inl rfl, fun stays => absurd rfl stays⟩
  | acquire agent =>
    obtain ⟨-, -, rfl⟩ := acquire_inv stepped
    exact ⟨.inl rfl, fun _ => rfl⟩
  | resume call =>
    obtain ⟨task, -, -, rfl⟩ := resume_inv stepped
    exact ⟨.inl rfl, fun _ => rfl⟩
  | abandon call =>
    obtain ⟨client, -, -, -, rfl⟩ := abandon_inv stepped
    exact ⟨.inl rfl, fun _ => rfl⟩
  | openTask id result =>
    obtain ⟨task, -, -, rfl⟩ := openTask_inv stepped
    exact ⟨.inl rfl, fun _ => rfl⟩
  | giveUpTask id =>
    obtain ⟨task, -, -, -, rfl⟩ := giveUpTask_inv stepped
    exact ⟨.inl rfl, fun _ => rfl⟩
  | readTask id arrival =>
    obtain ⟨task, -, -, -, ⟨response, -, ⟨-, rfl⟩ | ⟨-, rfl⟩⟩ | ⟨status, -, rfl⟩⟩ :=
      readTask_inv stepped <;> exact ⟨.inl rfl, fun _ => rfl⟩
  | storeStatus id =>
    obtain ⟨task, status, -, -, -, rfl⟩ := storeStatus_inv stepped
    exact ⟨.inl rfl, fun _ => rfl⟩
  | finishTask id =>
    obtain ⟨task, status, -, -, -, rfl⟩ := finishTask_inv stepped
    exact ⟨.inl rfl, fun _ => rfl⟩
  | openOnce call result =>
    obtain ⟨run, -, -, rfl⟩ := openOnce_inv stepped
    exact ⟨.inl rfl, fun _ => rfl⟩
  | readOnce call arrival =>
    obtain ⟨run, -, -, -, ⟨response, -, rfl⟩ | ⟨status, -, rfl⟩⟩ := readOnce_inv stepped <;>
      exact ⟨.inl rfl, fun _ => rfl⟩

/-- Remote calls belong to tasks and calls of the session. -/
theorem Reachable.has_caller (reachable : Reachable session) :
    ∀ remote ∈ session.remote, Has session remote.caller := by
  induction reachable with
  | fresh counter onSuccess onFailure =>
    intro remote member
    cases member
  | step action _ stepped ih =>
    intro remote member
    obtain same | ⟨caller, metadata, has, -, added⟩ := (step_outside stepped).remote
    · rw [same] at member
      exact (ih remote member).step stepped
    · rw [added, List.mem_append, List.mem_singleton] at member
      rcases member with old | rfl
      · exact (ih remote old).step stepped
      · exact has.step stepped

/-- The place of the next call is not taken yet. -/
theorem Reachable.caller_ne (reachable : Reachable session) :
    ∀ remote ∈ session.remote, remote.caller ≠ .call session.calls.length := by
  intro remote member own
  have has := reachable.has_caller remote member
  rw [own] at has
  exact absurd has (Nat.lt_irrefl _)

/-! ## Quiet sessions -/

/-- A session that was closed, with no call in progress and no task that is not over. -/
structure Quiet (session : Session) : Prop where
  reachable : Reachable session
  kept : session.dropped = false
  closed : session.slot.phase = .closed
  returned : ∀ call ∈ session.calls, call.inProgress = false
  finished : ∀ task ∈ session.tasks, task.stage = .finished

namespace Quiet

theorem stageAt (quiet : Quiet session) (bound : id < session.tasks.length) :
    stageAt session.tasks id = some .finished := by
  have get := List.getElem?_eq_getElem bound
  rw [stageAt_of_get get, quiet.finished _ (List.getElem_mem bound)]

theorem unlocked (quiet : Quiet session) : session.lock = none := by
  cases held : session.lock with
  | none => rfl
  | some agent =>
    have needed := quiet.reachable.lock_needed agent held
    cases agent with
    | task id =>
      obtain ⟨status, stage⟩ := needsLock_task needed
      simp only [Session.stageAt, Option.map_eq_some_iff] at stage
      rcases stage with ⟨task, get, ending⟩ | ⟨task, get, reporting⟩
      · cases (quiet.finished task (List.mem_of_getElem? get)).symm.trans ending
      · cases (quiet.finished task (List.mem_of_getElem? get)).symm.trans reporting
    | call call =>
      obtain ⟨client, get, running⟩ := needsLock_inProgress needed
      cases (quiet.returned client (List.mem_of_getElem? get)).symm.trans running

end Quiet

end Session

end PbrTelemetry
