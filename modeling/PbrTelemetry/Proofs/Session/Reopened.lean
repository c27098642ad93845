import PbrTelemetry.Proofs.Session.After
import PbrTelemetry.Proofs.Session.Quiet

/-!
# A closed session is as good as a new one

A closed session in which nothing goes on still has its old terminal status, its stream count, and
all the tasks and calls that were ever in it.  `closed_like_fresh` says that none of this shows:
whatever is done with it can be done with a session that starts afresh with the same counter and the
same handlers, and the other way round, and both come to the same, except that the fresh session may
be idle where the old one is closed.

One direction is `step_after` along a run.  For the other one, an action that is possible in the old
session has to be one of its new tasks and calls, since all old ones are at rest; the only ones left
are targets of old remote calls, which may still take requests, and which no new call can see.
-/

namespace PbrTelemetry

def ClientCall.answer? : ClientCall → Option Phase
  | .inspect phase => phase
  | _ => none

theorem ClientCall.answer?_after {past : Session} (call : ClientCall) :
    (call.after past).answer? = call.answer?.map Phase.reopened := by
  cases call <;> rfl

namespace Session

variable {session next past other : Session} {action : Action} {actions : List Action}
variable {agent : Agent} {call id : Nat}

/-! ## What shows of a session -/

/-- What shows of a session that goes on after an old one (`past`), and of one that started afresh.
-/
structure Alike (past later afresh : Session) : Prop where
  -- Calls come to the same results, and are in progress for as long
  outcomes : ∀ call : Nat, (later.calls[past.calls.length + call]?).map ClientCall.outcome?
    = (afresh.calls[call]?).map ClientCall.outcome?
  inProgress : ∀ call : Nat, (later.calls[past.calls.length + call]?).map ClientCall.inProgress
    = (afresh.calls[call]?).map ClientCall.inProgress
  -- The phase is the same at all times, and so are the answers of calls that ask for it, but for
  -- closed in the place of idle
  phase : later.slot.phase = afresh.slot.phase.reopened
  answers : ∀ call : Nat, (later.calls[past.calls.length + call]?).bind ClientCall.answer?
    = ((afresh.calls[call]?).bind ClientCall.answer?).map Phase.reopened
  -- The same remote calls are placed
  remote : later.remote = past.remote ++ afresh.remote.map (RemoteCall.after past)
  -- The same requests are sent to their targets, received by them, and still to be expected
  queues : ∀ agent, later.queueOf? (Agent.after past agent) = afresh.queueOf? agent
  writable : ∀ agent, later.isWritable (Agent.after past agent) = afresh.isWritable agent
  -- The handlers are called for the same
  handled : later.handled = past.handled ++ afresh.handled
  -- The records are the same
  counter : later.counter = afresh.counter

theorem isWritable_after (finished : ∀ task ∈ past.tasks, task.stage = .finished) (agent : Agent) :
    (session.after past).isWritable (agent.after past) = session.isWritable agent := by
  cases agent with
  | task id =>
    have writer : (session.after past).slot.writer = some (past.tasks.length + id) ↔
        session.slot.writer = some id := by
      simp [after, Slot.after]
    have dropped : (session.after past).dropped = session.dropped := rfl
    -- Whether a task is there that is not over does not depend on the old ones
    have live : (session.after past).tasks.any (fun task => task.stage ≠ .finished)
        = session.tasks.any fun task => task.stage ≠ .finished := by
      have none : past.tasks.any (fun task => task.stage ≠ .finished) = false := by
        simpa [List.any_eq_false] using finished
      simp only [after, List.any_append, none, Bool.false_or, List.any_map]
      rfl
    simp only [isWritable, Agent.after, writer, dropped, live]
  | call call =>
    simp only [isWritable, Agent.after, call_after]
    cases session.calls[call]? with
    | none => rfl
    | some client => exact client.inProgress_after

theorem alike_after (finished : ∀ task ∈ past.tasks, task.stage = .finished) :
    Alike past (session.after past) session where
  outcomes call := by
    rw [call_after, Option.map_map]
    exact congrArg (Option.map · _) (funext ClientCall.outcome?_after)
  inProgress call := by
    rw [call_after, Option.map_map]
    exact congrArg (Option.map · _) (funext ClientCall.inProgress_after)
  phase := rfl
  answers call := by
    rw [call_after]
    cases session.calls[call]? with
    | none => rfl
    | some client => exact client.answer?_after
  remote := rfl
  queues := queueOf?_after
  writable := isWritable_after finished
  handled := rfl
  counter := rfl

/-! ## The same actions in both sessions -/

/-- A quiet session is what comes after it when nothing has happened yet. -/
theorem fresh_after (quiet : Quiet past) :
    (fresh past.counter past.onSuccess past.onFailure past.now).after past = past := by
  obtain ⟨writer, cancel, held⟩ := quiet.reachable.orderly.wired.empty_of_closed quiet.closed
  have slot : (fresh past.counter past.onSuccess past.onFailure past.now).slot.after past
      = past.slot := by
    have closed := quiet.closed
    cases same : past.slot with
    | mk _ _ _ _ _ _ =>
      rw [same] at writer cancel held closed
      cases writer
      cases cancel
      cases held
      cases closed
      simp only [fresh, Slot.after, same]
      rfl
  simp only [after, slot]
  cases same : past with
  | mk counter onSuccess onFailure slot lock tasks calls remote handled dropped now =>
    have unlocked := quiet.unlocked
    have kept := quiet.kept
    rw [same] at unlocked kept
    cases unlocked
    cases kept
    simp [fresh]

theorem run_after (reachable : Reachable session)
    (quiet : ∀ call ∈ past.calls, call.inProgress = false) :
    (session.after past).run (actions.map (Action.after past))
      = (session.run actions).map (·.after past) := by
  induction actions generalizing session with
  | nil => rfl
  | cons action rest ih =>
    simp only [List.map_cons, run, step_after reachable.orderly.wired quiet]
    cases stepped : session.step action with
    | none => rfl
    | some next => exact ih (reachable.step action stepped)

/-! ## Old tasks and calls -/

theorem old_task (quiet : Quiet past) (old : id < past.tasks.length) :
    stageAt (session.after past).tasks id = some .finished := by
  have same : stageAt (session.after past).tasks id = stageAt past.tasks id := by
    simp only [stageAt, after, List.getElem?_append_left old]
  rw [same, quiet.stageAt old]

theorem old_call (quiet : Quiet past) (old : call < past.calls.length) {client : ClientCall}
    (get : (session.after past).calls[call]? = some client) : client.inProgress = false := by
  simp only [after, List.getElem?_append_left old] at get
  exact quiet.returned client (List.mem_of_getElem? get)

theorem acting_task (quiet : Quiet past) (stepped : (session.after past).step action = some next)
    (acts : action.task? = some id) : ∃ own, id = past.tasks.length + own := by
  apply Nat.exists_eq_add_of_le
  by_contra old
  exact acting_unfinished stepped acts (old_task quiet (Nat.lt_of_not_le old))

theorem acting_call (quiet : Quiet past) (stepped : (session.after past).step action = some next)
    (acts : action.call? = some call) : ∃ own, call = past.calls.length + own := by
  apply Nat.exists_eq_add_of_le
  by_contra old
  obtain ⟨client, get, running⟩ := acting_inProgress stepped acts
  cases running.symm.trans (old_call quiet (Nat.lt_of_not_le old) get)

theorem acquiring_agent (quiet : Quiet past)
    (needed : (session.after past).needsLock agent = true) :
    ∃ own : Agent, agent = own.after past := by
  cases agent with
  | task id =>
    by_cases old : id < past.tasks.length
    · have finished : stageAt (session.after past).tasks id = some .finished := old_task quiet old
      obtain ⟨status, ending | reporting⟩ := needsLock_task needed
      · cases finished.symm.trans ending
      · cases finished.symm.trans reporting
    · obtain ⟨own, rfl⟩ := Nat.exists_eq_add_of_le (Nat.le_of_not_lt old)
      exact ⟨.task own, rfl⟩
  | call call =>
    by_cases old : call < past.calls.length
    · obtain ⟨client, get, running⟩ := needsLock_inProgress needed
      cases running.symm.trans (old_call quiet old get)
    · obtain ⟨own, rfl⟩ := Nat.exists_eq_add_of_le (Nat.le_of_not_lt old)
      exact ⟨.call own, rfl⟩

/-- The target of an old remote call takes a request or stops to listen. -/
def Action.isBygone (past : Session) : Action → Bool
  | .receive remote | .closeReceiver remote => remote < past.remote.length
  | _ => false

/-- Every other action that is possible is one of the new session. -/
theorem own_action (quiet : Quiet past) (stepped : (session.after past).step action = some next)
    (current : action.isBygone past = false) : ∃ own : Action, action = own.after past := by
  cases action with
  | addKeys keys => exact ⟨.addKeys keys, rfl⟩
  | setSuccessHandler handler => exact ⟨.setSuccessHandler handler, rfl⟩
  | setFailureHandler handler => exact ⟨.setFailureHandler handler, rfl⟩
  | start demand => exact ⟨.start demand, rfl⟩
  | dropClient => exact ⟨.dropClient, rfl⟩
  | pass time => exact ⟨.pass time, rfl⟩
  | acquire agent =>
    obtain ⟨-, needed, -⟩ := acquire_inv stepped
    obtain ⟨own, rfl⟩ := acquiring_agent quiet needed
    exact ⟨.acquire own, rfl⟩
  | runSection call =>
    obtain ⟨own, rfl⟩ := acting_call quiet stepped rfl
    exact ⟨.runSection own, rfl⟩
  | resume call =>
    obtain ⟨own, rfl⟩ := acting_call quiet stepped rfl
    exact ⟨.resume own, rfl⟩
  | abandon call =>
    obtain ⟨own, rfl⟩ := acting_call quiet stepped rfl
    exact ⟨.abandon own, rfl⟩
  | placeTask id =>
    obtain ⟨own, rfl⟩ := acting_task quiet stepped rfl
    exact ⟨.placeTask own, rfl⟩
  | openTask id result =>
    obtain ⟨own, rfl⟩ := acting_task quiet stepped rfl
    exact ⟨.openTask own result, rfl⟩
  | giveUpTask id =>
    obtain ⟨own, rfl⟩ := acting_task quiet stepped rfl
    exact ⟨.giveUpTask own, rfl⟩
  | readTask id arrival =>
    obtain ⟨own, rfl⟩ := acting_task quiet stepped rfl
    exact ⟨.readTask own arrival, rfl⟩
  | storeStatus id =>
    obtain ⟨own, rfl⟩ := acting_task quiet stepped rfl
    exact ⟨.storeStatus own, rfl⟩
  | finishTask id =>
    obtain ⟨own, rfl⟩ := acting_task quiet stepped rfl
    exact ⟨.finishTask own, rfl⟩
  | placeOnce call =>
    obtain ⟨own, rfl⟩ := acting_call quiet stepped rfl
    exact ⟨.placeOnce own, rfl⟩
  | openOnce call result =>
    obtain ⟨own, rfl⟩ := acting_call quiet stepped rfl
    exact ⟨.openOnce own result, rfl⟩
  | readOnce call arrival =>
    obtain ⟨own, rfl⟩ := acting_call quiet stepped rfl
    exact ⟨.readOnce own arrival, rfl⟩
  | receive remote =>
    obtain ⟨own, rfl⟩ := Nat.exists_eq_add_of_le (Nat.le_of_not_lt (of_decide_eq_false current))
    exact ⟨.receive own, rfl⟩
  | closeReceiver remote =>
    obtain ⟨own, rfl⟩ := Nat.exists_eq_add_of_le (Nat.le_of_not_lt (of_decide_eq_false current))
    exact ⟨.closeReceiver own, rfl⟩

/-! ## Old remote calls -/

/-- Old sessions that leave the same places and numbers to later ones. -/
structure Alongside (past other : Session) : Prop where
  tasks : other.tasks.length = past.tasks.length
  calls : other.calls.length = past.calls.length
  slot : other.slot = past.slot
  remote : other.remote = past.remote
  handled : other.handled = past.handled

namespace Alongside

theorem refl (past : Session) : Alongside past past := ⟨rfl, rfl, rfl, rfl, rfl⟩

theorem trans {last : Session} (first : Alongside past other) (second : Alongside other last) :
    Alongside past last where
  tasks := second.tasks.trans first.tasks
  calls := second.calls.trans first.calls
  slot := second.slot.trans first.slot
  remote := second.remote.trans first.remote
  handled := second.handled.trans first.handled

theorem setQueue (past : Session) (queue : RequestQueue) (agent : Agent) :
    Alongside past (past.setQueue queue agent) := by
  obtain ⟨_, _, -, -, changed⟩ | ⟨_, _, -, -, changed⟩ | same := setQueue_inv past queue agent
  · rw [changed]
    exact ⟨List.length_set, rfl, rfl, rfl, rfl⟩
  · rw [changed]
    exact ⟨rfl, List.length_set, rfl, rfl, rfl⟩
  · rw [same]
    exact refl past

theorem agent_eq (along : Alongside past other) : Agent.after other = Agent.after past := by
  funext agent
  cases agent <;> simp only [Agent.after, along.tasks, along.calls]

theorem task_eq (along : Alongside past other) :
    ReceiveTask.after other = ReceiveTask.after past := by
  funext task
  simp only [ReceiveTask.after, along.slot]

theorem client_eq (along : Alongside past other) :
    ClientCall.after other = ClientCall.after past := by
  funext client
  cases client with
  | refused _ | register _ _ _ | once _ | inspect _ | withdrawn => rfl
  | close stage => cases stage <;> simp only [ClientCall.after, CloseStage.after, along.tasks]

theorem remoteCall_eq (along : Alongside past other) :
    RemoteCall.after other = RemoteCall.after past := by
  funext remote
  simp only [RemoteCall.after, along.agent_eq]

theorem action_eq (along : Alongside past other) : Action.after other = Action.after past := by
  funext action
  cases action <;>
    simp only [Action.after, along.agent_eq, along.tasks, along.calls, along.remote]

theorem session_eq (along : Alongside past other) (session : Session) :
    session.after other = { session.after past with
      tasks := other.tasks ++ session.tasks.map (ReceiveTask.after past)
      calls := other.calls ++ session.calls.map (ClientCall.after past) } := by
  simp only [after, Slot.after, along.agent_eq, along.task_eq, along.client_eq,
    along.remoteCall_eq, along.tasks, along.slot, along.remote, along.handled]

theorem alike (along : Alongside past other) {later : Session} (alike : Alike other later session) :
    Alike past later session where
  outcomes call := along.calls ▸ alike.outcomes call
  inProgress call := along.calls ▸ alike.inProgress call
  phase := alike.phase
  answers call := along.calls ▸ alike.answers call
  remote := along.remote ▸ along.remoteCall_eq ▸ alike.remote
  queues agent := along.agent_eq ▸ alike.queues agent
  writable agent := along.agent_eq ▸ alike.writable agent
  handled := along.handled ▸ alike.handled
  counter := alike.counter

end Alongside

theorem Quiet.setQueue (quiet : Quiet past) {queue : RequestQueue} {agent : Agent}
    (reachable : Reachable (past.setQueue queue agent)) : Quiet (past.setQueue queue agent) := by
  obtain ⟨id, task, -, get, changed⟩ | ⟨id, run, -, get, changed⟩ | same :=
    setQueue_inv past queue agent
  · rw [changed] at reachable ⊢
    refine ⟨reachable, quiet.kept, quiet.closed, quiet.returned, ?_⟩
    intro found member
    rcases List.mem_or_eq_of_mem_set member with old | rfl
    · exact quiet.finished found old
    · exact quiet.finished task (List.mem_of_getElem? get)
  · rw [changed] at reachable ⊢
    refine ⟨reachable, quiet.kept, quiet.closed, ?_, quiet.finished⟩
    intro found member
    rcases List.mem_or_eq_of_mem_set member with old | rfl
    · exact quiet.returned found old
    · exact quiet.returned (.once run) (List.mem_of_getElem? get)
  · rw [same]
    exact quiet

theorem queueOf?_old (has : Has past agent) :
    (session.after past).queueOf? agent = past.queueOf? agent := by
  cases agent with
  | task id => simp only [queueOf?, after, List.getElem?_append_left has]
  | call call => simp only [queueOf?, after, List.getElem?_append_left has]

theorem setQueue_old (has : Has past agent) (queue : RequestQueue) :
    (session.after past).setQueue queue agent = session.after (past.setQueue queue agent) := by
  rw [(Alongside.setQueue past queue agent).session_eq session]
  cases agent with
  | task id =>
    have bound : id < past.tasks.length := has
    have get := List.getElem?_eq_getElem bound
    simp only [setQueue, after, List.getElem?_append_left bound, get, setTask,
      List.set_append_left _ _ bound]
  | call call =>
    have bound : call < past.calls.length := has
    simp only [setQueue, after, List.getElem?_append_left bound]
    split
    · simp only [setCall, List.set_append_left _ _ bound]
    · rfl

theorem bygone_action (quiet : Quiet past) (stepped : (session.after past).step action = some next)
    (bygone : action.isBygone past = true) :
    ∃ other, Alongside past other ∧ Quiet other ∧ next = session.after other := by
  -- The old session can do the same on its own
  have old : ∀ {remote : Nat} {called : RemoteCall}, remote < past.remote.length →
      (session.after past).remote[remote]? = some called →
      past.remote[remote]? = some called ∧ Has past called.caller := by
    intro remote called bound get
    simp only [after, List.getElem?_append_left bound] at get
    exact ⟨get, quiet.reachable.has_caller called (List.mem_of_getElem? get)⟩
  cases action with
  | receive remote =>
    obtain ⟨called, queue, rest, get, has, taken, rfl⟩ := receive_inv stepped
    obtain ⟨there, known⟩ := old (of_decide_eq_true bygone) get
    rw [queueOf?_old known] at has
    have alone : past.step (.receive remote) = some (past.setQueue rest called.caller) := by
      simp [step, receive, there, has, taken]
    exact ⟨_, .setQueue past rest called.caller, quiet.setQueue (quiet.reachable.step _ alone),
      setQueue_old known rest⟩
  | closeReceiver remote =>
    obtain ⟨called, queue, get, has, rfl⟩ := closeReceiver_inv stepped
    obtain ⟨there, known⟩ := old (of_decide_eq_true bygone) get
    rw [queueOf?_old known] at has
    have alone : past.step (.closeReceiver remote)
        = some (past.setQueue queue.closeReceiver called.caller) := by
      simp [step, closeReceiver, there, has]
    exact ⟨_, .setQueue past _ called.caller, quiet.setQueue (quiet.reachable.step _ alone),
      setQueue_old known _⟩
  | _ => cases bygone

/-! ## Whole runs -/

theorem run_own {later : Session} (quiet : Quiet past) (ran : past.run actions = some later) :
    ∃ own afresh other, actions.filter (fun action => !action.isBygone past)
        = own.map (Action.after past) ∧
      (fresh past.counter past.onSuccess past.onFailure past.now).run own = some afresh ∧
      Alongside past other ∧ Quiet other ∧ later = afresh.after other := by
  have begun : Reachable (fresh past.counter past.onSuccess past.onFailure past.now) := .fresh _ _ _
  refine run_induction (motive := fun actions later => ∃ own afresh other,
    actions.filter (fun action => !action.isBygone past) = own.map (Action.after past) ∧
      (fresh past.counter past.onSuccess past.onFailure past.now).run own = some afresh ∧
      Alongside past other ∧ Quiet other ∧ later = afresh.after other) ran ?_ ?_
  · exact ⟨[], _, past, rfl, rfl, .refl past, quiet, (fresh_after quiet).symm⟩
  · rintro before last action next - ⟨own, afresh, other, same, ownRan, along, still, rfl⟩ stepped
    have alike : action.isBygone other = action.isBygone past := by
      cases action <;> simp only [Action.isBygone, along.remote]
    cases bygone : action.isBygone past with
    | true =>
      obtain ⟨another, beside, quiet, rfl⟩ := bygone_action still stepped (alike.trans bygone)
      refine ⟨own, afresh, another, ?_, ownRan, along.trans beside, quiet, rfl⟩
      simp [List.filter_append, same, bygone]
    | false =>
      obtain ⟨mine, rfl⟩ := own_action still stepped (alike.trans bygone)
      rw [step_after (begun.run ownRan).orderly.wired still.returned] at stepped
      obtain ⟨after, mineStepped, rfl⟩ := Option.map_eq_some_iff.mp stepped
      refine ⟨own ++ [mine], after, other, ?_, ?_, along, still, rfl⟩
      · rw [along.action_eq] at bygone ⊢
        simp [List.filter_append, same, bygone]
      · simp only [run_append, ownRan, Option.bind_some, run, mineStepped]

/-- A closed session in which nothing goes on and a fresh one with its counter and its handlers,
made at the same time, behave alike, from whatever is done with either of them to all that shows of
it. -/
theorem closed_like_fresh (quiet : Quiet past) :
    (∀ actions afresh,
      (fresh past.counter past.onSuccess past.onFailure past.now).run actions = some afresh →
      ∃ later, past.run (actions.map (Action.after past)) = some later ∧
        Alike past later afresh) ∧
    (∀ actions later, past.run actions = some later →
      ∃ own afresh, actions.filter (fun action => !action.isBygone past)
          = own.map (Action.after past) ∧
        (fresh past.counter past.onSuccess past.onFailure past.now).run own = some afresh ∧
        Alike past later afresh) := by
  constructor
  · intro actions afresh ran
    have begun : Reachable (fresh past.counter past.onSuccess past.onFailure past.now) :=
      .fresh _ _ _
    refine ⟨afresh.after past, ?_, alike_after quiet.finished⟩
    calc past.run (actions.map (Action.after past))
        = ((fresh past.counter past.onSuccess past.onFailure past.now).after past).run
            (actions.map (Action.after past)) := by rw [fresh_after quiet]
      _ = ((fresh past.counter past.onSuccess past.onFailure past.now).run actions).map
            (·.after past) :=
        run_after begun quiet.returned
      _ = some (afresh.after past) := by rw [ran, Option.map_some]
  · intro actions later ran
    obtain ⟨own, afresh, other, same, ownRan, along, still, rfl⟩ := run_own quiet ran
    exact ⟨own, afresh, same, ownRan, along.alike (alike_after still.finished)⟩

def endedStream : List Action :=
  refusedStream ++ [.start .close, .acquire (.call 1), .runSection 1, .resume 1, .acquire (.call 1),
    .runSection 1]

theorem closed_like_fresh_endedStream :
    ∃ past afresh later, (fresh {} none none).run endedStream = some past ∧ Quiet past ∧
      past.slot.finalStatus = some ⟨.unavailable, "no target"⟩ ∧ past.slot.generation = 1 ∧
      (fresh past.counter past.onSuccess past.onFailure past.now).run refusedStream = some afresh ∧
      past.run (refusedStream.map (Action.after past)) = some later ∧
      later.slot.generation = 2 ∧ Alike past later afresh := by
  have happens : ∃ past afresh, (fresh {} none none).run endedStream = some past ∧
      past.dropped = false ∧ past.slot.phase = .closed ∧
      past.calls.all (!·.inProgress) = true ∧ past.tasks.all (·.stage = .finished) = true ∧
      past.slot.finalStatus = some ⟨.unavailable, "no target"⟩ ∧ past.slot.generation = 1 ∧
      (fresh past.counter past.onSuccess past.onFailure past.now).run refusedStream = some afresh ∧
      (past.run (refusedStream.map (Action.after past))).map (·.slot.generation) = some 2 :=
    ⟨_, _, rfl, rfl, rfl, rfl, rfl, rfl, rfl, rfl, rfl⟩
  obtain ⟨past, afresh, ran, kept, closed, returned, finished, stored, first, again, second⟩ :=
    happens
  have quiet : Quiet past :=
    { reachable := (Reachable.fresh {} none none).run ran
      kept := kept
      closed := closed
      returned := by simpa using returned
      finished := by simpa using finished }
  obtain ⟨later, alongside, alike⟩ := (closed_like_fresh quiet).1 refusedStream afresh again
  have counted : later.slot.generation = 2 := by simpa [alongside] using second
  exact ⟨past, afresh, later, ran, quiet, stored, first, again, alongside, counted, alike⟩

end Session

end PbrTelemetry
