import PbrTelemetry.Proofs.Session.Progress
import PbrTelemetry.Proofs.Session.Single
import PbrTelemetry.Proofs.Simulation.Run

/-!
# Simulations come to rest

While time stands still, there is only so much to do in a simulation: whatever a task or a call does
takes it to a later stage, or it reads an item that was sent on its stream.  So what repeats their
steps (`Simulation.exhaust`) has fuel enough, and it stops only when no further step is possible.

* `settle_rests`: after `settle` no task can act.
* `runCall_rests`: after `runCall` the call cannot act.
* `settle_waits`: what that means for the tasks.  Each of them is over, or it waits for the lock or
  for its target.

The measure is the sum of the stages that are left (`stagesLeft`) and of the items that are left.  A
step comes to a later stage or leaves fewer items, and adds to neither.
-/

namespace PbrTelemetry

/-! ## Stages -/

theorem foldr_count_set {α : Type} (count : α → Nat) {entries : List α} {place : Nat} {before : α}
    (get : entries[place]? = some before) (after : α) :
    (entries.set place after).foldr (fun entry total => count entry + total) 0 + count before
      = entries.foldr (fun entry total => count entry + total) 0 + count after := by
  induction entries generalizing place with
  | nil => cases get
  | cons entry rest ih =>
    cases place with
    | zero =>
      cases get
      simp only [List.set_cons_zero, List.foldr_cons]
      omega
    | succ place =>
      have shorter := ih get
      simp only [List.set_cons_succ, List.foldr_cons]
      omega

/-- How many stages a task has in front of it at most. -/
def TaskStage.stagesLeft : TaskStage → Nat
  | spawned => 5
  | opening => 4
  | reading => 3
  | ending _ => 2
  | reporting _ => 1
  | finished => 0

/-- How many stages a call has in front of it at most. -/
def ClientCall.stagesLeft : ClientCall → Nat
  | register _ _ none | inspect none => 1
  | once run =>
    match run.stage with
    | .placing => 3
    | .opening => 2
    | .reading => 1
    | _ => 0
  | close stage =>
    match stage with
    | .taking => 3
    | .awaiting _ => 2
    | .settling => 1
    | _ => 0
  | _ => 0

theorem ClientCall.stagesLeft_le (client : ClientCall) : client.stagesLeft ≤ 3 := by
  unfold stagesLeft
  split <;> (try split) <;> omega

namespace Session

variable {session next : Session} {action : Action} {id call : Nat}

def stagesLeft (session : Session) : Nat :=
  session.tasks.foldr (fun task total => task.stage.stagesLeft + total) 0

/-- A task that advances comes to a later stage, unless it takes a response. -/
theorem Advance.stagesLeft {task : ReceiveTask} {stage : TaskStage}
    (moved : Advance session id task action stage) :
    stage.stagesLeft < task.stage.stagesLeft ∨
      (stage.stagesLeft = task.stage.stagesLeft ∧
        ∃ response, action = .readTask id (.response response)) := by
  cases moved with
  | place stage | overrun stage _ | breakDown stage _ | stop stage _ =>
    simp [stage, TaskStage.stagesLeft]
  | connect stage result => cases result <;> simp [stage, openedStage, TaskStage.stagesLeft]
  | giveUp early _ => obtain stage | stage := early <;> simp [stage, TaskStage.stagesLeft]
  | take stage response =>
    rw [stage]
    exact .inr ⟨rfl, response, rfl⟩

theorem stagesLeft_set {task after : ReceiveTask} (get : session.tasks[id]? = some task)
    (tasks : next.tasks = session.tasks.set id after) :
    next.stagesLeft + task.stage.stagesLeft = session.stagesLeft + after.stage.stagesLeft := by
  simp only [Session.stagesLeft, tasks]
  exact foldr_count_set (fun task => task.stage.stagesLeft) get after

theorem stagesLeft_lt {task after : ReceiveTask} (get : session.tasks[id]? = some task)
    (tasks : next.tasks = session.tasks.set id after)
    (later : after.stage.stagesLeft < task.stage.stagesLeft) :
    next.stagesLeft < session.stagesLeft := by
  have sum := stagesLeft_set get tasks
  omega

theorem stagesLeft_eq {task after : ReceiveTask} (get : session.tasks[id]? = some task)
    (tasks : next.tasks = session.tasks.set id after)
    (same : after.stage.stagesLeft = task.stage.stagesLeft) :
    next.stagesLeft = session.stagesLeft := by
  have sum := stagesLeft_set get tasks
  omega

/-- What an action does to the stages of all tasks, unless it starts a task. -/
theorem step_stagesLeft (stepped : session.step action = some next)
    (outside : ∀ call, action ≠ .runSection call) :
    next.stagesLeft < session.stagesLeft ∨
      (next.stagesLeft = session.stagesLeft ∧
        (action.task? = none ∨ ∃ id response, action = .readTask id (.response response))) := by
  cases step_effect stepped with
  | aside none _ _ tasks =>
    refine .inr ⟨?_, .inl none⟩
    simp only [Session.stagesLeft, tasks]
  | queue queue none get => exact .inr ⟨stagesLeft_eq get rfl rfl, .inl none⟩
  | advance after get moved _ _ _ _ tasks =>
    obtain later | ⟨same, response, took⟩ := moved.stagesLeft
    · exact .inl (stagesLeft_lt get tasks later)
    · exact .inr ⟨stagesLeft_eq get tasks same, .inr ⟨_, response, took⟩⟩
  | store get ending _ =>
    exact .inl (stagesLeft_lt get rfl (by simp [ending, TaskStage.stagesLeft]))
  | finish get reporting _ =>
    exact .inl (stagesLeft_lt get rfl (by simp [reporting, TaskStage.stagesLeft]))
  | acquire _ _ => exact .inr ⟨rfl, .inl rfl⟩
  | inSection _ _ => exact absurd rfl (outside _)

theorem stagesLeft_le (session : Session) : session.stagesLeft ≤ 5 * session.tasks.length := by
  simp only [stagesLeft]
  induction session.tasks with
  | nil => exact Nat.le_refl _
  | cons task rest ih =>
    have bound : task.stage.stagesLeft ≤ 5 := by cases task.stage <;> simp [TaskStage.stagesLeft]
    simp only [List.foldr_cons, List.length_cons]
    omega

/-- The stages that a call has in front of it, or that all tasks have. -/
def stagesLeftOf (session : Session) : Agent → Nat
  | .task _ => session.stagesLeft
  | .call call => (session.calls[call]?).elim 0 ClientCall.stagesLeft

theorem stagesLeftOf_call {client : ClientCall} (get : session.calls[call]? = some client) :
    session.stagesLeftOf (.call call) = client.stagesLeft := by
  simp only [stagesLeftOf, get, Option.elim_some]

theorem closeReceiver_stagesLeft {remote : Nat}
    (stepped : session.step (.closeReceiver remote) = some next) (agent : Agent) :
    next.stagesLeftOf agent = session.stagesLeftOf agent := by
  obtain ⟨called, queue, -, -, rfl⟩ := closeReceiver_inv stepped
  obtain ⟨id, task, -, get, changed⟩ | ⟨id, run, -, get, changed⟩ | same :=
    setQueue_inv session queue.closeReceiver called.caller
  · rw [changed]
    cases agent with
    | task other => exact stagesLeft_eq get rfl rfl
    | call other => rfl
  · rw [changed]
    cases agent with
    | task other => rfl
    | call other =>
      by_cases own : id = other
      · subst own
        have bound := (List.getElem?_eq_some_iff.mp get).1
        rw [stagesLeftOf_call get, stagesLeftOf_call (List.getElem?_set_self bound)]
        rfl
      · simp only [stagesLeftOf, setCall, List.getElem?_set_ne own]
  · rw [same]

theorem SectionStep.stagesLeft {before after : ClientCall}
    (went : SectionStep session before after) : after.stagesLeft < before.stagesLeft := by
  cases went with
  | register metadata request => exact Nat.zero_lt_one
  | take =>
    cases session.slot.receiveTask <;> simp [takenStage, ClientCall.stagesLeft]
  | settle => exact Nat.zero_lt_one
  | inspect => exact Nat.zero_lt_one

theorem OnceStep.stagesLeft {run after : OnceCall} (went : OnceStep session call run action after)
    (acts : action.agent? = some (.call call)) :
    (ClientCall.once after).stagesLeft < (ClientCall.once run).stagesLeft := by
  cases went with
  | place stage _ | breakDown stage _ | stop stage _ _ => simp [stage, ClientCall.stagesLeft]
  | connect stage result =>
    cases result <;> simp [stage, openedOnceStage, ClientCall.stagesLeft]
  | abandon running =>
    cases stage : run.stage <;> simp_all [ClientCall.inProgress, ClientCall.stagesLeft]
  | receive _ _ _ | closeReceiver _ _ => cases acts

end Session

namespace Simulation

open Session (Action)

variable {sim middle next : Simulation} {agent : Agent} {action : Action} {id : Nat}

/-! ## Items -/

theorem itemsLeft_modifyStream (sim : Simulation) {index : Nat} {stream : ScriptedStream}
    (get : sim.streams[index]? = some stream) (change : ScriptedStream → ScriptedStream) :
    (sim.modifyStream index change).itemsLeft + stream.items.length
      = sim.itemsLeft + (change stream).items.length := by
  have set : sim.streams.modify index change = sim.streams.set index (change stream) := by
    rw [List.modify_eq_set_getElem?, get]
    rfl
  simp only [itemsLeft, modifyStream, set]
  exact foldr_count_set (fun stream => stream.items.length) get (change stream)

theorem itemsLeft_dropUnread (sim : Simulation) (agent : Agent) :
    (sim.dropUnread agent).itemsLeft = sim.itemsLeft := by
  rw [dropUnread]
  split
  · rfl
  · split
    · next index _ =>
      cases get : sim.streams[index]? with
      | some stream =>
        have sum := itemsLeft_modifyStream sim get fun stream => { stream with dropped := true }
        exact Nat.add_right_cancel sum
      | none =>
        simp [itemsLeft, modifyStream, List.modify_eq_set_getElem?, get]
    · rfl

theorem nextArrival?_itemsLeft {arrival : Arrival}
    (arrived : sim.nextArrival? agent = some (arrival, next)) :
    next.itemsLeft < sim.itemsLeft ∨
      (next.itemsLeft = sim.itemsLeft ∧ ∀ response, arrival ≠ .response response) := by
  obtain ⟨index, -, rest⟩ := Option.bind_eq_some_iff.mp arrived
  obtain ⟨stream, get, rest⟩ := Option.bind_eq_some_iff.mp rest
  split at rest
  · next item others items =>
    cases rest
    have sum := itemsLeft_modifyStream sim get fun stream => { stream with items := others }
    rw [items, List.length_cons] at sum
    dsimp only at sum
    refine .inl ?_
    omega
  · split at rest
    · cases rest
      exact .inr ⟨rfl, by simp⟩
    · cases rest

theorem seenBy?_itemsLeft {cancelled : Bool} {deadline : Option Nat} {arrival : Arrival}
    (seen : sim.seenBy? agent cancelled deadline = some (arrival, next)) :
    next.itemsLeft < sim.itemsLeft ∨
      (next.itemsLeft = sim.itemsLeft ∧ ∀ response, arrival ≠ .response response) := by
  rw [seenBy?] at seen
  split at seen
  · cases seen
    exact .inr ⟨rfl, by simp⟩
  · split at seen
    · cases seen
      exact .inr ⟨rfl, by simp⟩
    · exact nextArrival?_itemsLeft seen

/-! ## Steps -/

/-- What is left to do for a call, or for all tasks. -/
def workLeft (sim : Simulation) (agent : Agent) : Nat :=
  sim.session.stagesLeftOf agent + sim.itemsLeft

theorem act_inv (did : sim.act action = some next) :
    sim.session.step action = some next.session ∧ next.streams = sim.streams := by
  obtain ⟨session, stepped, rfl⟩ := Option.map_eq_some_iff.mp did
  exact ⟨stepped, rfl⟩

/-- An action with which an agent goes on to its remote call or reads from it. -/
inductive IsOwn (agent : Agent) : Action → Prop where
  | place : IsOwn agent (placing agent)
  | connect (result : Except Status Unit) : IsOwn agent (opening result agent)
  | read (arrival : Arrival) : IsOwn agent (reading arrival agent)

/-- An agent that goes on comes to a later stage, unless it takes a response. -/
theorem IsOwn.stagesLeft {session after : Session} (own : IsOwn agent action)
    (stepped : session.step action = some after) :
    after.stagesLeftOf agent < session.stagesLeftOf agent ∨
      (after.stagesLeftOf agent = session.stagesLeftOf agent ∧
        ∃ response, action = reading (.response response) agent) := by
  cases agent with
  | task id =>
    have outside : ∀ call, action ≠ .runSection call := by
      rintro call rfl
      cases own
    have acts : action.task? = some id := by cases own <;> rfl
    obtain later | ⟨same, none | ⟨other, response, rfl⟩⟩ := Session.step_stagesLeft stepped outside
    · exact .inl later
    · rw [acts] at none
      cases none
    · cases acts
      exact .inr ⟨same, response, rfl⟩
  | call id =>
    have acts : action.agent? = some (.call id) := by cases own <;> rfl
    obtain ⟨run, get⟩ : ∃ run, session.calls[id]? = some (.once run) := by
      cases own with
      | place => exact (Session.placeOnce_inv stepped).imp fun _ there => there.1
      | connect result => exact (Session.openOnce_inv stepped).imp fun _ there => there.1
      | read arrival => exact (Session.readOnce_inv stepped).imp fun _ there => there.1
    obtain ⟨response, rfl, -, rfl⟩ | ⟨later, went, rfl⟩ := Session.step_own stepped get acts
    · exact .inr ⟨rfl, response, rfl⟩
    · have bound := (List.getElem?_eq_some_iff.mp get).1
      rw [Session.stagesLeftOf_call get,
        Session.stagesLeftOf_call (List.getElem?_set_self bound)]
      exact .inl (went.stagesLeft acts)

theorem act_own (own : IsOwn agent action) (did : sim.act action = some next) :
    next.workLeft agent < sim.workLeft agent ∨
      (next.workLeft agent = sim.workLeft agent ∧
        ∃ response, action = reading (.response response) agent) := by
  obtain ⟨stepped, streams⟩ := act_inv did
  simp only [workLeft, itemsLeft, streams, Nat.add_lt_add_iff_right, Nat.add_right_cancel_iff]
  exact own.stagesLeft stepped

theorem act_opening {result : Except Status Unit}
    (did : sim.act (opening result agent) = some next) :
    next.workLeft agent ≤ sim.workLeft agent := by
  obtain later | ⟨same, -⟩ := act_own (.connect result) did
  · exact Nat.le_of_lt later
  · exact Nat.le_of_eq same

theorem failCall_workLeft {status : Status} (failed : sim.failCall agent status = some next) :
    next.workLeft agent ≤ sim.workLeft agent := by
  obtain ⟨opened, did, closed⟩ := Option.bind_eq_some_iff.mp failed
  refine Nat.le_trans (Nat.le_of_eq ?_) (act_opening did)
  cases closed
  rw [attempt]
  cases went : opened.act (.closeReceiver (opened.session.remote.length - 1)) with
  | none => rfl
  | some closed =>
    obtain ⟨stepped, streams⟩ := act_inv went
    simp only [workLeft, itemsLeft, Option.getD_some, streams,
      Session.closeReceiver_stagesLeft stepped]

theorem answerCall_workLeft (answered : sim.answerCall agent = some next) :
    next.workLeft agent ≤ sim.workLeft agent := by
  rw [answerCall] at answered
  split at answered
  · exact failCall_workLeft answered
  · next status rest _ =>
    let failing := { sim with openings := rest }
    have failed : failing.failCall agent status = some next := answered
    have less := failCall_workLeft failed
    exact less
  · cases answered
    exact Nat.le_refl _
  · next index rest _ =>
    let opened := { sim with openings := rest, readers := (agent, index) :: sim.readers }
    have did : opened.act (opening (.ok ()) agent) = some next := answered
    have less := act_opening did
    exact less

theorem placeCall_workLeft (placed : sim.placeCall agent = some next) :
    next.workLeft agent < sim.workLeft agent := by
  obtain ⟨there, did, rest⟩ := Option.bind_eq_some_iff.mp placed
  have later : there.workLeft agent < sim.workLeft agent := by
    obtain later | ⟨-, response, same⟩ := act_own .place did
    · exact later
    · cases agent <;> cases same
  split at rest
  · cases rest
    exact later
  · exact Nat.lt_of_le_of_lt (answerCall_workLeft rest) later

theorem readOn_workLeft {cancelled : Bool} {deadline : Option Nat}
    (went : sim.readOn agent cancelled deadline = some next) :
    next.workLeft agent < sim.workLeft agent := by
  obtain ⟨⟨arrival, shown⟩, seen, rest⟩ := Option.bind_eq_some_iff.mp went
  obtain ⟨read, did, done⟩ := Option.bind_eq_some_iff.mp rest
  have session := seenBy?_session seen
  have dropped : next.workLeft agent = read.workLeft agent := by
    cases done
    rw [workLeft, itemsLeft_dropUnread, dropUnread_session, workLeft]
  have before : shown.workLeft agent + sim.itemsLeft = sim.workLeft agent + shown.itemsLeft := by
    simp only [workLeft, session]
    omega
  rw [dropped]
  obtain fewer | ⟨kept, silent⟩ := seenBy?_itemsLeft seen
  · obtain later | ⟨same, -⟩ := act_own (.read arrival) did <;> omega
  · obtain later | ⟨-, response, took⟩ := act_own (.read arrival) did
    · omega
    · refine absurd ?_ (silent response)
      cases agent <;> cases took <;> rfl

theorem act_task {other : Nat} (acts : action.task? = some id)
    (silent : ∀ id response, action ≠ .readTask id (.response response))
    (did : sim.act action = some next) :
    next.workLeft (.task other) < sim.workLeft (.task other) := by
  obtain ⟨stepped, streams⟩ := act_inv did
  have outside : ∀ call, action ≠ .runSection call := by
    rintro call rfl
    cases acts
  obtain later | ⟨-, none | ⟨id, response, took⟩⟩ := Session.step_stagesLeft stepped outside
  · simpa [workLeft, itemsLeft, streams, Session.stagesLeftOf] using later
  · rw [acts] at none
    cases none
  · exact absurd took (silent id response)

theorem act_acquire (did : sim.act (.acquire agent) = some next) (other : Agent) :
    next.workLeft other = sim.workLeft other := by
  obtain ⟨stepped, streams⟩ := act_inv did
  obtain ⟨-, -, same⟩ := Session.acquire_inv stepped
  simp only [workLeft, itemsLeft, streams, same]
  cases other <;> rfl

theorem stepTask_workLeft (went : sim.stepTask id = some next) :
    next.workLeft (.task id) < sim.workLeft (.task id) := by
  obtain ⟨task, -, rest⟩ := Option.bind_eq_some_iff.mp went
  split at rest
  · obtain gave | ⟨-, placed⟩ := Option.or_eq_some_iff.mp rest
    · exact act_task rfl (by simp) gave
    · exact placeCall_workLeft placed
  · exact act_task rfl (by simp) rest
  · exact readOn_workLeft rest
  · obtain ⟨locked, did, stored⟩ := Option.bind_eq_some_iff.mp rest
    rw [← act_acquire did]
    exact act_task rfl (by simp) stored
  · exact act_task rfl (by simp) rest
  · cases rest

theorem stepCall_workLeft (went : sim.stepCall id = some next) :
    next.workLeft (.call id) < sim.workLeft (.call id) := by
  obtain ⟨call, -, rest⟩ := Option.bind_eq_some_iff.mp went
  split at rest
  · obtain ⟨stepped, streams⟩ := act_inv rest
    obtain ⟨task, waiting, -, after⟩ := Session.resume_inv stepped
    have bound := (List.getElem?_eq_some_iff.mp waiting).1
    simp only [workLeft, itemsLeft, streams, Nat.add_lt_add_iff_right, after]
    rw [Session.stagesLeftOf_call waiting,
      Session.stagesLeftOf_call (List.getElem?_set_self bound)]
    exact Nat.lt_succ_self 1
  · split at rest
    · exact placeCall_workLeft rest
    · exact readOn_workLeft rest
    · cases rest
  · obtain ⟨locked, did, ran⟩ := Option.bind_eq_some_iff.mp rest
    rw [← act_acquire did]
    obtain ⟨stepped, streams⟩ := act_inv ran
    obtain ⟨before, after, get, went, calls⟩ := Session.runSection_enters stepped
    have bound := (List.getElem?_eq_some_iff.mp get).1
    have there : next.session.calls[id]? = some after := by
      rw [calls, List.getElem?_set_self bound]
    simp only [workLeft, itemsLeft, streams, Nat.add_lt_add_iff_right]
    rw [Session.stagesLeftOf_call get, Session.stagesLeftOf_call there]
    exact went.stagesLeft

/-! ## Coming to rest -/

/-- What leaves less to do with every step can be repeated until it is no longer possible. -/
theorem exhaust_rests {step : Simulation → Option Simulation} {measure : Simulation → Nat}
    (less : ∀ sim next, step sim = some next → measure next < measure sim) {fuel : Nat}
    (enough : measure sim ≤ fuel) : step (exhaust step fuel sim) = none := by
  induction fuel generalizing sim with
  | zero =>
    rw [exhaust, Option.eq_none_iff_forall_ne_some]
    intro next went
    have fewer := less sim next went
    omega
  | succ fuel ih =>
    rw [exhaust]
    split
    · next next went =>
      have fewer := less sim next went
      exact ih (by omega)
    · next none => exact none

theorem workLeft_le (sim : Simulation) (agent : Agent) : sim.workLeft agent ≤ sim.actionsLeft := by
  have stages : sim.session.stagesLeftOf agent
      ≤ 6 * (sim.session.tasks.length + sim.session.calls.length + 1) := by
    cases agent with
    | task id =>
      have bound := Session.stagesLeft_le sim.session
      simp only [Session.stagesLeftOf]
      omega
    | call id =>
      simp only [Session.stagesLeftOf]
      cases sim.session.calls[id]? with
      | none => exact Nat.zero_le _
      | some client =>
        have bound := client.stagesLeft_le
        simp only [Option.elim_some]
        omega
  exact Nat.add_le_add_right stages sim.itemsLeft

/-- No task can act after `settle`. -/
theorem settle_rests (sim : Simulation) (id : Nat) : sim.settle.stepTask id = none := by
  have less : ∀ sim next : Simulation, sim.stepTasks = some next →
      next.workLeft (.task 0) < sim.workLeft (.task 0) := by
    intro sim next went
    obtain ⟨id, -, went⟩ := List.exists_of_findSome?_eq_some went
    have later : next.workLeft (.task id) < sim.workLeft (.task id) := stepTask_workLeft went
    exact later
  have rests := exhaust_rests less (workLeft_le sim (.task 0))
  by_cases bound : id < sim.settle.session.tasks.length
  · exact List.findSome?_eq_none_iff.mp rests id (List.mem_range.mpr bound)
  · have absent : sim.settle.session.tasks[id]? = none := by simpa using bound
    simp only [stepTask, absent, Option.bind_eq_bind, Option.bind_none]

/-- The call cannot act after `runCall`. -/
theorem runCall_rests (sim : Simulation) (id : Nat) : (sim.runCall id).stepCall id = none := by
  have less : ∀ sim next : Simulation, sim.stepCall id = some next →
      next.workLeft (.call id) < sim.workLeft (.call id) := fun _ _ => stepCall_workLeft
  exact exhaust_rests less (workLeft_le sim (.call id))

/-! ## What tasks wait for -/

/-- Why a task cannot act. -/
inductive Waits (sim : Simulation) (id : Nat) (task : ReceiveTask) : Prop where
  | over (finished : task.stage = .finished)
  | locked {status : Status} {holder : Agent} (ending : task.stage = .ending status)
      (held : sim.session.lock = some holder)
  | opening (opening : task.stage = .opening) (kept : sim.session.isCancelled task = false)
  | reading (reading : task.stage = .reading) (kept : sim.session.isCancelled task = false)
      (timely : sim.session.hasExpired task.deadline = false)
      (silent : sim.nextArrival? (.task id) = none)

theorem openTask_possible (sim : Simulation) {task : ReceiveTask}
    (get : sim.session.tasks[id]? = some task) (opening : task.stage = .opening)
    (result : Except Status Unit) :
    (sim.act (Simulation.opening result (.task id))).isSome := by
  simp [act, Simulation.opening, Session.step, Session.openTask, get, opening]

theorem failCall_possible (sim : Simulation) {task : ReceiveTask}
    (get : sim.session.tasks[id]? = some task) (opening : task.stage = .opening)
    (status : Status) : (sim.failCall (.task id) status).isSome := by
  have possible := openTask_possible sim get opening (.error status)
  obtain ⟨failed, did⟩ := Option.isSome_iff_exists.mp possible
  simp [failCall, did]

theorem answerCall_possible (sim : Simulation) {task : ReceiveTask}
    (get : sim.session.tasks[id]? = some task) (opening : task.stage = .opening) :
    (sim.answerCall (.task id)).isSome := by
  rw [answerCall]
  split
  · exact failCall_possible sim get opening _
  · next status rest _ => exact failCall_possible { sim with openings := rest } get opening status
  · rfl
  · next index rest _ =>
    let opened := { sim with openings := rest, readers := (.task id, index) :: sim.readers }
    exact openTask_possible opened get opening (.ok ())

/-- A task that has not started to run can place its remote call. -/
theorem placeCall_possible {task : ReceiveTask} (get : sim.session.tasks[id]? = some task)
    (spawned : task.stage = .spawned) : (sim.placeCall (.task id)).isSome := by
  have bound := (List.getElem?_eq_some_iff.mp get).1
  cases timely : sim.session.deadlineOf? task.metadata with
  | none =>
    simp [placeCall, act, placing, Session.step, Session.placeTask, get, spawned, timely,
      Session.setTask]
  | some deadline =>
    let after := { task with stage := .opening, deadline }
    let placed := (sim.session.setTask id after).placeCall (.task id) task.metadata
    have did : sim.act (placing (.task id)) = some { sim with session := placed } := by
      simp only [act, placing, Session.step, Session.placeTask, get, spawned, if_true, timely]
      rfl
    have there : placed.tasks[id]? = some after := List.getElem?_set_self bound
    have answered := answerCall_possible { sim with session := placed } there rfl
    simp only [placeCall, did, Option.bind_eq_bind, Option.bind_some]
    split
    · rfl
    · exact answered

theorem readTask_possible {task : ReceiveTask} {arrival : Arrival}
    (get : sim.session.tasks[id]? = some task) (reading : task.stage = .reading)
    (possible :
      sim.session.isPossible (sim.session.isCancelled task) task.deadline arrival = true) :
    (sim.act (Simulation.reading arrival (.task id))).isSome := by
  simp only [act, Simulation.reading, Session.step, Session.readTask, get, reading, possible,
    and_self, if_true, Option.isSome_map]
  split
  · split <;> rfl
  · rfl

theorem seenBy?_possible {cancelled : Bool} {deadline : Option Nat} {arrival : Arrival}
    (seen : sim.seenBy? agent cancelled deadline = some (arrival, next)) :
    sim.session.isPossible cancelled deadline arrival = true := by
  rw [seenBy?] at seen
  split at seen
  · next cancelled =>
    cases seen
    exact cancelled
  · split at seen
    · next expired =>
      cases seen
      exact expired
    · obtain ⟨index, -, rest⟩ := Option.bind_eq_some_iff.mp seen
      obtain ⟨stream, -, rest⟩ := Option.bind_eq_some_iff.mp rest
      split at rest
      · next item _ _ =>
        cases rest
        cases item <;> rfl
      · split at rest
        · cases rest
          rfl
        · cases rest

/-- A reader that sees something can take it. -/
theorem readOn_possible {task : ReceiveTask} (get : sim.session.tasks[id]? = some task)
    (reading : task.stage = .reading)
    (sees : (sim.seenBy? (.task id) (sim.session.isCancelled task) task.deadline).isSome) :
    (sim.readOn (.task id) (sim.session.isCancelled task) task.deadline).isSome := by
  obtain ⟨⟨arrival, shown⟩, seen⟩ := Option.isSome_iff_exists.mp sees
  have session := seenBy?_session seen
  have possible := seenBy?_possible seen
  rw [← session] at get possible
  obtain ⟨read, did⟩ := Option.isSome_iff_exists.mp (readTask_possible get reading possible)
  simp [readOn, seen, did]

/-- A task that cannot act is over, or waits for the lock or for its target. -/
theorem waits_of_rests {task : ReceiveTask} (reachable : Session.Reachable sim.session)
    (get : sim.session.tasks[id]? = some task) (rests : sim.stepTask id = none) :
    Waits sim id task := by
  have stage := Session.stageAt_of_get get
  simp only [stepTask, get, Option.bind_eq_bind, Option.bind_some] at rests
  cases here : task.stage with
  | spawned =>
    simp only [here, Option.or_eq_none_iff] at rests
    have possible := placeCall_possible get here
    simp [rests.2] at possible
  | opening =>
    simp only [here] at rests
    cases kept : sim.session.isCancelled task with
    | false => exact .opening here kept
    | true =>
      simp [act, Session.step, Session.giveUpTask, Session.mayGiveUp, get, here, kept] at rests
  | reading =>
    simp only [here] at rests
    cases seen : sim.seenBy? (.task id) (sim.session.isCancelled task) task.deadline with
    | some sight =>
      have possible := readOn_possible get here (by rw [seen]; rfl)
      simp [rests] at possible
    | none =>
      rw [seenBy?] at seen
      split at seen
      · cases seen
      · next kept =>
        split at seen
        · cases seen
        · next timely => exact .reading here (by simpa using kept) (by simpa using timely) seen
  | ending status =>
    rw [here] at stage
    simp only [here] at rests
    cases lock : sim.session.lock with
    | some holder => exact .locked here lock
    | none =>
      obtain ⟨locked, entered⟩ :=
        Option.isSome_iff_exists.mp (Session.acquire_possible stage lock)
      obtain ⟨-, -, rfl⟩ := Session.acquire_inv entered
      have possible : (Session.step { sim.session with lock := some (.task id) }
          (.storeStatus id)).isSome := Session.storeStatus_possible stage rfl
      simp only [act, entered, Option.map_some, Option.bind_some, Option.map_eq_none_iff] at rests
      simp [rests] at possible
  | reporting status =>
    rw [here] at stage
    simp only [here] at rests
    have possible := Session.finishTask_possible reachable.attended stage
    simp only [act, Session.step, Option.map_eq_none_iff] at rests
    simp [rests] at possible
  | finished => exact .over here

/-- After `settle` every task is over, or it waits for the lock or for its target. -/
theorem settle_waits {task : ReceiveTask} (reachable : Session.Reachable sim.session)
    (get : sim.settle.session.tasks[id]? = some task) : Waits sim.settle id task :=
  waits_of_rests ((settle_leads sim).reachable reachable) get (settle_rests sim id)

end Simulation

end PbrTelemetry
