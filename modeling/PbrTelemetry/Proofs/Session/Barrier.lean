import PbrTelemetry.Proofs.Session.Failures
import PbrTelemetry.Proofs.Session.Records

/-!
# What a close waits for

A close takes the task out of the slot, lets go of the lock and waits until the task is over.  What
the next close finds in the meantime is an empty slot, or the stream of a later registration, and it
waits for that and for nothing else.  So a close that has returned is a barrier for all earlier
tasks but those that other closes still wait for.

* `Reachable.accounted`: a task that is not over is in the slot, or some close waits for it.
* `close_returned`: what a close leaves behind of the tasks that were started before it.
* `early_return`: a close that returns while another one waits, and a record and a call of the
  handler that come after it.

Two invariants carry this.  `Accounted` follows a task from the slot to the close that takes it, and
`Behind` says that the slot never goes back to a task that was there before a close emptied it,
since only a new stream gets into an empty slot.
-/

namespace PbrTelemetry

namespace Session

variable {session next final : Session} {action : Action} {id call : Nat}

/-! ## How a close goes on -/

inductive CloseStep (session : Session) (action : Action) (next : Session) (call : Nat) :
    CloseStage → CloseStage → Prop where
  -- Somebody else acts
  | rest {stage : CloseStage} (other : action.call? ≠ some call) :
      CloseStep session action next call stage stage
  -- The close takes the task in the slot
  | take {id : Nat} (ran : action = .runSection call) (held : session.slot.receiveTask = some id)
      (emptied : next.slot.receiveTask = none) :
      CloseStep session action next call .taking (.awaiting id)
  -- The close finds the slot empty
  | pass (ran : action = .runSection call) (empty : session.slot.receiveTask = none)
      (emptied : next.slot.receiveTask = none) :
      CloseStep session action next call .taking .returned
  -- The task that the close waits for is over
  | resume {id : Nat} (ended : stageAt session.tasks id = some .finished) :
      CloseStep session action next call (.awaiting id) .settling
  -- The close has changed the phase
  | settle : CloseStep session action next call .settling .returned
  -- The caller has given the close up
  | abandon {stage : CloseStage} (left : action = .abandon call) :
      CloseStep session action next call stage (.abandoned stage.taken?)

theorem runSection_close {stage : CloseStage} (ran : session.runSection call = some next)
    (get : session.calls[call]? = some (.close stage)) :
    ∃ after, next.calls[call]? = some (.close after) ∧
      CloseStep session (.runSection call) next call stage after := by
  have bound := (List.getElem?_eq_some_iff.mp get).1
  obtain ⟨-, ⟨metadata, request, there, -⟩ | ⟨taking, rfl⟩ | ⟨settling, rfl⟩ | ⟨there, -⟩⟩ :=
    runSection_inv ran
  · cases get.symm.trans there
  · cases get.symm.trans taking
    rw [takeSection_eq]
    refine ⟨takenStage session.slot.receiveTask, ?_, ?_⟩
    · simp only [release, cancelHeld_calls]
      exact List.getElem?_set_self bound
    · cases held : session.slot.receiveTask with
      | none => exact .pass rfl held rfl
      | some id => exact .take rfl held rfl
  · cases get.symm.trans settling
    exact ⟨.returned, List.getElem?_set_self bound, .settle⟩
  · cases get.symm.trans there

theorem step_close {stage : CloseStage} (stepped : session.step action = some next)
    (get : session.calls[call]? = some (.close stage)) :
    ∃ after, next.calls[call]? = some (.close after) ∧
      CloseStep session action next call stage after := by
  by_cases acts : action.call? = some call
  · have bound := (List.getElem?_eq_some_iff.mp get).1
    cases action with
    | runSection acting =>
      cases acts
      exact runSection_close stepped get
    | resume acting =>
      cases acts
      obtain ⟨id, waiting, ended, rfl⟩ := resume_inv stepped
      cases get.symm.trans waiting
      exact ⟨.settling, List.getElem?_set_self bound, .resume ended⟩
    | placeOnce acting =>
      cases acts
      obtain ⟨run, there, -, -⟩ := placeOnce_inv stepped
      cases get.symm.trans there
    | openOnce acting result =>
      cases acts
      obtain ⟨run, there, -, -⟩ := openOnce_inv stepped
      cases get.symm.trans there
    | readOnce acting arrival =>
      cases acts
      obtain ⟨run, there, -, -, -⟩ := readOnce_inv stepped
      cases get.symm.trans there
    | abandon acting =>
      cases acts
      obtain ⟨client, there, -, -, rfl⟩ := abandon_inv stepped
      cases get.symm.trans there
      exact ⟨.abandoned stage.taken?, List.getElem?_set_self bound, .abandon rfl⟩
    | _ => cases acts
  · exact ⟨stage, step_call stepped get (fun _ => by simp) acts, .rest acts⟩

/-! ## The task in the slot -/

inductive HeldStep (session : Session) (action : Action) (next : Session) : Prop where
  | same (held : next.slot.receiveTask = session.slot.receiveTask)
      (count : next.tasks.length = session.tasks.length)
  -- A registration starts a stream in the empty slot
  | start (empty : session.slot.receiveTask = none)
      (held : next.slot.receiveTask = some session.tasks.length)
      (count : next.tasks.length = session.tasks.length + 1)
  -- A close empties the slot
  | take {call : Nat} (ran : action = .runSection call)
      (taking : session.calls[call]? = some (.close .taking))
      (held : next.slot.receiveTask = none) (count : next.tasks.length = session.tasks.length)

theorem registerSection_held (session : Session) (call : Nat) (metadata : CallMetadata)
    (request : SubscribeRequest) :
    HeldStep session action (session.registerSection call metadata request).release := by
  rw [registerSection_eq]
  obtain ⟨slot, count⟩ := writeRequest_slot (session.ensureStream metadata) request
  obtain ⟨empty, started⟩ | ⟨-, same⟩ := ensureStream_inv session metadata
  · rw [started] at slot count
    refine .start empty ?_ ?_
    · simp only [release, started, slot]
      rfl
    · simp only [release, started]
      rw [count]
      simp only [startStream, List.length_append, List.length_singleton]
  · rw [same] at slot count
    refine .same ?_ ?_
    · simp only [release, same, slot]
    · simp only [release, same, count]

theorem runSection_held (ran : session.runSection call = some next) :
    HeldStep session (.runSection call) next := by
  obtain ⟨-, ⟨metadata, request, -, rfl⟩ | ⟨taking, rfl⟩ | ⟨-, rfl⟩ | ⟨-, rfl⟩⟩ :=
    runSection_inv ran
  · exact registerSection_held session call metadata request
  · rw [takeSection_eq]
    exact .take rfl taking rfl (cancelHeld_length session)
  · exact .same rfl rfl
  · exact .same rfl rfl

theorem step_held (stepped : session.step action = some next) : HeldStep session action next := by
  cases step_effect stepped with
  | aside _ slot _ tasks => exact .same (by rw [slot]) (by rw [tasks])
  | queue _ _ _ => exact .same rfl List.length_set
  | advance _ _ _ _ _ slot _ tasks =>
    exact .same (by rw [slot]) (by rw [tasks, List.length_set])
  | store _ _ _ =>
    refine .same ?_ List.length_set
    simp only [storedSlot]
    split <;> rfl
  | finish _ _ _ => exact .same rfl List.length_set
  | acquire _ _ => exact .same rfl rfl
  | inSection _ ran => exact runSection_held ran

/-! ## Tasks that are not over -/

/-- A close has taken the task and has not seen its end: it waits for the task, or did so when its
caller gave it up. -/
def IsTaken (session : Session) (id : Nat) : Prop :=
  ∃ (call : Nat) (stage : CloseStage), session.calls[call]? = some (.close stage) ∧
    stage.taken? = some id

/-- A task that is not over is in the slot, or a close has taken it. -/
def Accounted (session : Session) : Prop :=
  ∀ id, id < session.tasks.length → stageAt session.tasks id ≠ some .finished →
    session.slot.receiveTask = some id ∨ IsTaken session id

theorem IsTaken.step (taken : IsTaken session id) (stepped : session.step action = some next)
    (unfinished : stageAt session.tasks id ≠ some .finished) : IsTaken next id := by
  obtain ⟨call, stage, get, same⟩ := taken
  obtain ⟨after, found, went⟩ := step_close stepped get
  cases went with
  | rest _ => exact ⟨call, stage, found, same⟩
  | resume ended =>
    cases same
    exact absurd ended unfinished
  | abandon _ => exact ⟨call, _, found, same⟩
  | take _ _ _ | pass _ _ _ | settle => cases same

theorem Accounted.step (accounted : Accounted session)
    (stepped : session.step action = some next) : Accounted next := by
  intro id bound unfinished
  have before : stageAt session.tasks id ≠ some .finished :=
    fun finished => unfinished (finished_stays stepped finished)
  -- A task that was there before is followed to where it is now
  have older : id < session.tasks.length →
      session.slot.receiveTask = some id ∨ IsTaken next id := by
    intro there
    rcases accounted id there before with held | taken
    · exact .inl held
    · exact .inr (taken.step stepped before)
  cases step_held stepped with
  | same held count =>
    rw [count] at bound
    rw [held]
    exact older bound
  | start empty held count =>
    by_cases there : id < session.tasks.length
    · rcases older there with was | taken
      · cases empty.symm.trans was
      · exact .inr taken
    · have new : id = session.tasks.length := by omega
      rw [new]
      exact .inl held
  | @take call ran taking held count =>
    rw [count] at bound
    rcases older bound with was | taken
    · subst ran
      obtain ⟨after, found, went⟩ := runSection_close stepped taking
      cases went with
      | rest other => exact absurd rfl other
      | take _ held _ =>
        cases was.symm.trans held
        exact .inr ⟨call, _, found, rfl⟩
      | pass _ empty _ => cases was.symm.trans empty
      | abandon left => cases left
    · exact .inr taken

theorem justified_of_taken {stage : CloseStage} (orderly : Orderly session)
    (get : session.calls[call]? = some (.close stage)) (taken : stage.taken? = some id) :
    IsCancelledAt session.tasks id ∧ (stage = .awaiting id ∨ stage = .abandoned (some id)) := by
  have justified := orderly.justified call stage get
  cases stage with
  | awaiting task =>
    cases taken
    exact ⟨justified, .inl rfl⟩
  | abandoned task =>
    cases taken
    exact ⟨justified, .inr rfl⟩
  | taking | settling | returned => cases taken

theorem Reachable.accounted (reachable : Reachable session) : Accounted session := by
  induction reachable with
  | fresh counter onSuccess onFailure =>
    intro id bound
    cases bound
  | step action _ stepped ih => exact ih.step stepped

/-! ## Closes that have been at the slot -/

/-- A close in this stage has been at the slot. -/
def IsPast : CloseStage → Prop
  | .awaiting _ | .settling | .returned => True
  | .taking | .abandoned _ => False

/-- A close that found `count` tasks when it started.  Once it has been at the slot, none of them is
in it. -/
structure Behind (session : Session) (call count : Nat) : Prop where
  counted : count ≤ session.tasks.length
  closing : ∃ stage, session.calls[call]? = some (.close stage) ∧
    (IsPast stage → ∀ id, session.slot.receiveTask = some id → count ≤ id)

theorem Behind.step {count : Nat} (behind : Behind session call count)
    (stepped : session.step action = some next) : Behind next call count := by
  obtain ⟨counted, stage, get, passed⟩ := behind
  obtain ⟨after, found, went⟩ := step_close stepped get
  have held := step_held stepped
  refine ⟨?_, after, found, ?_⟩
  · cases held with
    | same _ length => omega
    | start _ _ length => omega
    | take _ _ _ length => omega
  · -- Whatever gets into the slot later is a new task
    have later : (∀ id, session.slot.receiveTask = some id → count ≤ id) →
        ∀ id, next.slot.receiveTask = some id → count ≤ id := by
      intro before id there
      cases held with
      | same held _ =>
        rw [held] at there
        exact before id there
      | start _ held _ =>
        rw [held] at there
        cases there
        exact counted
      | take _ _ held _ => cases there.symm.trans held
    intro past
    cases went with
    | rest _ => exact later (passed past)
    | take _ _ emptied =>
      intro id there
      cases there.symm.trans emptied
    | pass _ _ emptied =>
      intro id there
      cases there.symm.trans emptied
    | resume _ | settle => exact later (passed trivial)
    | abandon _ => exact past.elim

theorem Behind.run {count : Nat} {actions : List Action} (behind : Behind session call count)
    (ran : session.run actions = some final) : Behind final call count :=
  run_induction (motive := fun _ session => Behind session call count) ran behind
    fun _ _ _ _ _ earlier stepped => earlier.step stepped

theorem behind_of_start (started : session.step (.start .close) = some next) :
    Behind next session.calls.length session.tasks.length := by
  obtain ⟨-, rfl⟩ := start_inv started
  refine ⟨Nat.le_refl _, .taking, List.getElem?_concat_length, ?_⟩
  intro past
  exact past.elim

/-! ## Tasks that are over for good -/

/-- A task is over, and whatever comes later, it takes no response and calls no handler. -/
structure Over (session : Session) (id : Nat) : Prop where
  finished : stageAt session.tasks id = some .finished
  recordless : ∀ later last, session.run later = some last →
    ∀ entry ∈ journal session.counter later, entry.1 ≠ .task id
  silent : ∀ later last, session.run later = some last →
    ∀ made ∈ session.trace stepCalls later, made.1.task? ≠ some id

theorem run_finished {actions : List Action} (finished : stageAt session.tasks id = some .finished)
    (ran : session.run actions = some final) : ∀ action ∈ actions, action.task? ≠ some id := by
  induction actions generalizing session with
  | nil =>
    intro action member
    cases member
  | cons first rest ih =>
    obtain ⟨next, stepped, ran⟩ := run_cons_inv ran
    intro action member
    rcases List.mem_cons.mp member with rfl | member
    · intro acts
      exact acting_unfinished stepped acts finished
    · exact ih (finished_stays stepped finished) ran action member

theorem mem_trace_stepCalls {actions : List Action} {made : Action × HandlerCall}
    (member : made ∈ session.trace stepCalls actions) : made.1 ∈ actions := by
  induction actions generalizing session with
  | nil => cases member
  | cons first rest ih =>
    simp only [trace] at member
    split at member
    · rcases List.mem_append.mp member with now | later
      · obtain ⟨handled, -, rfl⟩ := List.mem_map.mp now
        exact List.mem_cons_self
      · exact List.mem_cons_of_mem first (ih later)
    · cases member

theorem mem_journal {counter : Counter} {actions : List Action} {entry : Agent × PbrStat}
    (member : entry ∈ journal counter actions) :
    ∃ action ∈ actions, ∃ response, action.response? = some (entry.1, response) := by
  simp only [journal, responses, List.mem_filterMap, Option.map_eq_some_iff] at member
  obtain ⟨⟨reader, response⟩, ⟨action, inside, taken⟩, stat, -, rfl⟩ := member
  exact ⟨action, inside, response, taken⟩

theorem over_of_finished (finished : stageAt session.tasks id = some .finished) :
    Over session id where
  finished := finished
  recordless later last ran entry member own := by
    obtain ⟨action, inside, response, taken⟩ := mem_journal member
    have rests := run_finished finished ran action inside
    rw [own] at taken
    -- Only the task itself reads for it
    cases action with
    | readTask reader arrival =>
      cases arrival with
      | response _ =>
        cases taken
        exact rests rfl
      | _ => cases taken
    | readOnce reader arrival => cases arrival <;> cases taken
    | _ => cases taken
  silent later last ran made member :=
    run_finished finished ran made.1 (mem_trace_stepCalls member)

/-! ## What a close leaves behind -/

/-- When a close has returned, every task that was started before it is over for good, or was taken
out of the slot and cancelled by another close, which still waits for it or did so until its caller
gave it up.  With no such close all of them are over. -/
theorem close_returned {counter : Counter} {onSuccess : Option SuccessHandler}
    {onFailure : Option FailureHandler} {now : Nat} {before between : List Action}
    {opened closing : Session}
    (ran : (fresh counter onSuccess onFailure now).run before = some opened)
    (started : opened.step (.start .close) = some closing)
    (waited : closing.run between = some final)
    (returned : final.calls[opened.calls.length]? = some (.close .returned)) :
    (∀ id, id < opened.tasks.length → Over final id ∨
      ∃ other stage task, other ≠ opened.calls.length ∧
        final.calls[other]? = some (.close stage) ∧
        (stage = .awaiting id ∨ stage = .abandoned (some id)) ∧
        final.tasks[id]? = some task ∧ task.cancelled = true) ∧
    ((∀ (other : Nat) (stage : CloseStage), final.calls[other]? = some (.close stage) →
        stage = .returned) →
      ∀ id, id < opened.tasks.length → Over final id) := by
  have begun : Reachable (fresh counter onSuccess onFailure now) := .fresh _ _ _
  have reachable := ((begun.run ran).step _ started).run waited
  obtain ⟨counted, stage, get, passed⟩ := (behind_of_start started).run waited
  cases returned.symm.trans get
  have left : ∀ id, id < opened.tasks.length → Over final id ∨ IsTaken final id := by
    intro id bound
    by_cases finished : stageAt final.tasks id = some .finished
    · exact .inl (over_of_finished finished)
    · rcases reachable.accounted id (by omega) finished with held | taken
      · have new := passed trivial id held
        omega
      · exact .inr taken
  refine ⟨?_, ?_⟩
  · intro id bound
    rcases left id bound with done | ⟨other, stage, there, taken⟩
    · exact .inl done
    · obtain ⟨⟨task, get, cancelled⟩, kept⟩ := justified_of_taken reachable.orderly there taken
      refine .inr ⟨other, stage, task, ?_, there, kept, get, cancelled⟩
      rintro rfl
      cases returned.symm.trans there
      cases taken
  · intro alone id bound
    rcases left id bound with done | ⟨other, stage, there, taken⟩
    · exact done
    · cases alone other stage there
      cases taken

def closedStream : List Action :=
  [.start (.registerStream admin {}), .acquire (.call 0), .runSection 0, .placeTask 0,
    .openTask 0 (.ok ()), .start .close, .acquire (.call 1), .runSection 1]

/-- A close that starts while another one waits, up to its return. -/
def secondClose : List Action := [.acquire (.call 2), .runSection 2]

def cancelledTask : List Action :=
  [.readTask 0 .cancelled, .acquire (.task 0), .storeStatus 0, .finishTask 0]

theorem close_returned_overlapping :
    ∃ opened closing final, (fresh {} none none).run closedStream = some opened ∧
      opened.step (.start .close) = some closing ∧
      closing.run (secondClose ++ cancelledTask ++ [.resume 1, .acquire (.call 1), .runSection 1])
        = some final ∧
      final.calls[2]? = some (.close .returned) ∧ Over final 0 := by
  have happens : ∃ opened closing final, (fresh {} none none).run closedStream = some opened ∧
      opened.step (.start .close) = some closing ∧
      closing.run (secondClose ++ cancelledTask ++ [.resume 1, .acquire (.call 1), .runSection 1])
        = some final ∧
      opened.calls.length = 2 ∧ opened.tasks.length = 1 ∧
      final.calls.map ClientCall.outcome? = [some (.ok ()), some (.ok ()), some (.ok ())] ∧
      final.calls[2]? = some (.close .returned) :=
    ⟨_, _, _, rfl, rfl, rfl, rfl, rfl, rfl, rfl⟩
  obtain ⟨opened, closing, final, ran, started, waited, calls, tasks, ended, returned⟩ := happens
  refine ⟨opened, closing, final, ran, started, waited, returned, ?_⟩
  have barrier := close_returned ran started waited (by rw [calls, returned])
  apply barrier.2
  · intro other stage get
    have done : (ClientCall.close stage).outcome? = some (.ok ()) := by
      have inside := List.mem_of_getElem? get
      have mapped := List.mem_map_of_mem (f := ClientCall.outcome?) inside
      rw [ended] at mapped
      simpa using mapped
    simpa [ClientCall.outcome?] using done
  · omega

/-- A close can return while an earlier close waits for the task that both were called on, and then
the task reads on, adds a record and has the handler called. -/
theorem early_return :
    ∃ opened closing returned final,
      (fresh {} (some { name := "print" }) none).run closedStream = some opened ∧
      stageAt opened.tasks 0 = some .reading ∧
      opened.step (.start .close) = some closing ∧
      closing.run secondClose = some returned ∧
      returned.calls[2]? = some (.close .returned) ∧
      stageAt returned.tasks 0 = some .reading ∧
      returned.run [.readTask 0 (.response usableResponse)] = some final ∧
      final.counter.stats.length = returned.counter.stats.length + 1 ∧
      final.handled.length = returned.handled.length + 1 :=
  ⟨_, _, _, _, rfl, rfl, rfl, rfl, rfl, rfl, rfl, rfl, rfl⟩

end Session

end PbrTelemetry
