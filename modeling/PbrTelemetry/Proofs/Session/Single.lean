import PbrTelemetry.Config
import PbrTelemetry.Proofs.Session.Checks
import PbrTelemetry.Proofs.Session.Records
import PbrTelemetry.Proofs.Session.Requests

/-!
# Single subscriptions

A single subscription that has passed the checks places one remote call with one request, reads
until the call ends, and returns what the terminal status says.  All the while the stream of the
session goes on, other single subscriptions do too, and they all feed the same counter.

There is one exception.  The subscription adds its time to the reading of the clock before it places
its remote call, and it breaks down if the clock cannot come to the sum; it then has no remote call
and does not return.  `Overran` says of a run that this happens in it, and `single_exact` says that
everything else holds of all single subscriptions.

A `Service` is what a target does for a single subscription, and `serviceActions` are the actions of
the subscription that go with it.  The proof picks the actions of the one subscription out of a run:
`OnceTrace` says which stage they lead to, `step_own` what each of them does to the session, and
`step_other` what all other actions can do to the subscription, which is to take from its queue.
`OnceAlong` is the invariant, and a step of either kind preserves it.

Nobody can cancel a single subscription, for the client is not dropped while one is in progress.
-/

namespace PbrTelemetry

/-! ## What a target does -/

inductive Ending where
  | clean
  | status (status : Status)
  /-- The deadline of the call passes first. -/
  | deadline
  deriving DecidableEq, Repr

namespace Ending

def arrival : Ending → Arrival
  | clean => .endOfStream
  | status reason => .status reason
  | deadline => .expired

def terminal : Ending → Status
  | clean => ⟨.ok, ""⟩
  | status reason => reason
  | deadline => ⟨.deadlineExceeded, "subscribe deadline exceeded"⟩

theorem result_arrival (ending : Ending) : ending.arrival.result = .error ending.terminal := by
  cases ending <;> rfl

theorem of_result {seen : Arrival} {last : Status} (ended : seen.result = .error last)
    (kept : seen ≠ .cancelled) :
    ∃ ending : Ending, seen = ending.arrival ∧ last = ending.terminal := by
  cases seen with
  | response response => cases ended
  | cancelled => exact absurd rfl kept
  | status reason =>
    cases ended
    exact ⟨.status _, rfl, rfl⟩
  | endOfStream =>
    cases ended
    exact ⟨.clean, rfl, rfl⟩
  | expired =>
    cases ended
    exact ⟨.deadline, rfl, rfl⟩

end Ending

inductive Service where
  | refused (status : Status)
  | served (responses : List SubscribeResponse) (ending : Ending)

namespace Service

def terminal : Service → Status
  | refused status => status
  | served _ ending => ending.terminal

def responses : Service → List SubscribeResponse
  | refused _ => []
  | served responses _ => responses

end Service

/-! ## Stages -/

def OnceStage.isRunning : OnceStage → Bool
  | ended _ | abandoned | broken => false
  | placing | opening | reading => true

theorem ClientCall.inProgress_once (run : OnceCall) :
    (once run).inProgress = run.stage.isRunning := by
  simp only [inProgress]
  cases run.stage <;> rfl

theorem ClientCall.outcome?_once {run : OnceCall} {outcome : Outcome} :
    (once run).outcome? = some outcome ↔
      ∃ status, run.stage = .ended status ∧ outcome = Outcome.ofStatus status := by
  simp only [outcome?]
  cases run.stage <;> simp [eq_comm]

namespace Session

variable {session next final : Session} {action : Action} {actions : List Action} {call : Nat}
variable {metadata : CallMetadata} {args : RpcArgs} {request : SubscribeRequest} {run : OnceCall}

/-! ## The actions of one agent -/

def ownActions (agent : Agent) (actions : List Action) : List Action :=
  actions.filter (·.agent? = some agent)

theorem ownActions_snoc_own {agent : Agent} (acts : action.agent? = some agent) :
    ownActions agent (actions ++ [action]) = ownActions agent actions ++ [action] := by
  simp [ownActions, acts]

theorem ownActions_snoc_other {agent : Agent} (other : action.agent? ≠ some agent) :
    ownActions agent (actions ++ [action]) = ownActions agent actions := by
  simp [ownActions, other]

theorem mem_ownActions {agent : Agent} :
    action ∈ ownActions agent actions ↔ action ∈ actions ∧ action.agent? = some agent := by
  simp [ownActions]

theorem agent?_of_response {reader : Agent} {response : SubscribeResponse}
    (taken : action.response? = some (reader, response)) : action.agent? = some reader := by
  simp only [Action.response?] at taken
  split at taken
  · cases taken
    rfl
  · cases taken
    rfl
  · cases taken

/-- What an agent has read can be told from its own actions. -/
theorem responsesTo_ownActions (reader : Agent) (actions : List Action) :
    responsesTo reader (ownActions reader actions) = responsesTo reader actions := by
  simp only [responsesTo, responses, ownActions]
  induction actions with
  | nil => rfl
  | cons action rest ih =>
    by_cases acts : action.agent? = some reader
    · rw [List.filter_cons_of_pos (by simpa using acts)]
      cases taken : action.response? with
      | none => rw [List.filterMap_cons_none taken, List.filterMap_cons_none taken, ih]
      | some read =>
        rw [List.filterMap_cons_some taken, List.filterMap_cons_some taken]
        by_cases same : read.1 = reader <;> simp [same, ih]
    · rw [List.filter_cons_of_neg (by simpa using acts), ih]
      cases taken : action.response? with
      | none => rw [List.filterMap_cons_none taken]
      | some read =>
        have foreign : read.1 ≠ reader := by
          rintro rfl
          exact acts (agent?_of_response taken)
        rw [List.filterMap_cons_some taken, List.filter_cons_of_neg (by simpa using foreign)]

/-! ## The actions of a single subscription -/

/-- The actions of a single subscription that has read some responses. -/
def readingActions (call : Nat) (responses : List SubscribeResponse) : List Action :=
  .placeOnce call :: .openOnce call (.ok ()) ::
    responses.map fun response => .readOnce call (.response response)

/-- The actions of a single subscription that was served to the end. -/
def serviceActions (call : Nat) : Service → List Action
  | .refused status => [.placeOnce call, .openOnce call (.error status)]
  | .served responses ending => readingActions call responses ++ [.readOnce call ending.arrival]

theorem readingActions_snoc (call : Nat) (responses : List SubscribeResponse)
    (response : SubscribeResponse) :
    readingActions call (responses ++ [response])
      = readingActions call responses ++ [.readOnce call (.response response)] := by
  simp [readingActions]

theorem responsesTo_serviceActions (call : Nat) (service : Service) :
    responsesTo (.call call) (serviceActions call service) = service.responses := by
  cases service with
  | refused status => rfl
  | served responses ending =>
    have silent : Action.response? (.readOnce call ending.arrival) = none := by
      cases ending <;> rfl
    have read : (responses.map fun response => Action.readOnce call (.response response)).filterMap
        Action.response? = responses.map (Agent.call call, ·) := by
      rw [List.filterMap_map, ← List.filterMap_eq_map]
      rfl
    have all : Session.responses (serviceActions call (.served responses ending))
        = responses.map (Agent.call call, ·) := by
      rw [Session.responses, serviceActions, readingActions, List.cons_append, List.cons_append,
        List.filterMap_cons_none rfl, List.filterMap_cons_none rfl, List.filterMap_append, read,
        List.filterMap_cons_none silent, List.filterMap_nil, List.append_nil]
    simp [responsesTo, all, Service.responses, List.filter_map, Function.comp_def]

/-- The actions of a single subscription up to a stage. -/
inductive OnceTrace (call : Nat) : List Action → OnceStage → Prop where
  | start : OnceTrace call [] .placing
  | place : OnceTrace call [.placeOnce call] .opening
  | breakDown : OnceTrace call [.placeOnce call] .broken
  | read (responses : List SubscribeResponse) :
      OnceTrace call (readingActions call responses) .reading
  | finish (service : Service) :
      OnceTrace call (serviceActions call service) (.ended service.terminal)
  | abandon {own : List Action} {stage : OnceStage} (before : OnceTrace call own stage)
      (running : stage.isRunning = true) :
      OnceTrace call (own ++ [.abandon call]) .abandoned

def Action.onceStage : Action → OnceStage
  | .placeOnce _ => .opening
  | .openOnce _ result => openedOnceStage result
  | .readOnce _ arrival =>
    match arrival.result with
    | .ok _ => .reading
    | .error status => .ended status
  | .abandon _ => .abandoned
  | _ => .placing

namespace OnceTrace

variable {own : List Action} {stage other : OnceStage}

/-- The stage of a subscription that has not broken down can be told from its last action. -/
theorem stage_eq (trace : OnceTrace call own stage) (sound : stage ≠ .broken) :
    stage = (own.getLast?.map Action.onceStage).getD .placing := by
  cases trace with
  | start | place => rfl
  | breakDown => exact absurd rfl sound
  | read responses =>
    induction responses using List.reverseRecOn with
    | nil => rfl
    | append_singleton responses response _ =>
      rw [readingActions_snoc, List.getLast?_concat]
      rfl
  | finish service =>
    cases service with
    | refused status => rfl
    | served responses ending =>
      rw [serviceActions, List.getLast?_concat]
      simp only [Option.map_some, Option.getD_some, Action.onceStage, ending.result_arrival,
        Service.terminal]
  | abandon before running =>
    rw [List.getLast?_concat]
    rfl

theorem unique (first : OnceTrace call own stage) (second : OnceTrace call own other)
    (sound : stage ≠ .broken) (apart : other ≠ .broken) : stage = other :=
  (first.stage_eq sound).trans (second.stage_eq apart).symm

theorem eq_of_broken (trace : OnceTrace call own .broken) : own = [.placeOnce call] := by
  cases trace
  rfl

theorem ne_broken (trace : OnceTrace call own stage) (further : own ≠ [.placeOnce call]) :
    stage ≠ .broken := by
  rintro rfl
  exact further trace.eq_of_broken

/-- A single subscription does what goes with some service, until it is given up. -/
theorem follows (trace : OnceTrace call own stage) : ∃ service taken,
    taken <+: serviceActions call service ∧ (own = taken ∨ own = taken ++ [.abandon call]) := by
  induction trace with
  | start => exact ⟨.refused ⟨.ok, ""⟩, [], List.nil_prefix, .inl rfl⟩
  | place | breakDown => exact ⟨.refused ⟨.ok, ""⟩, [.placeOnce call], ⟨_, rfl⟩, .inl rfl⟩
  | read responses => exact ⟨.served responses .clean, _, List.prefix_append _ _, .inl rfl⟩
  | finish service => exact ⟨service, _, List.prefix_refl _, .inl rfl⟩
  | abandon before running ih =>
    obtain ⟨service, taken, short, rfl | rfl⟩ := ih
    · exact ⟨service, _, short, .inr rfl⟩
    · have abandoned := before.stage_eq (by rintro rfl; cases running)
      rw [List.getLast?_concat] at abandoned
      cases abandoned
      cases running

theorem serviceActions_ne_place (call : Nat) (service : Service) :
    serviceActions call service ≠ [.placeOnce call] := by
  cases service <;> simp [serviceActions, readingActions]

theorem ended_iff (trace : OnceTrace call own stage) {status : Status} :
    stage = .ended status ↔
      ∃ service, own = serviceActions call service ∧ status = service.terminal := by
  constructor
  · rintro rfl
    cases trace with
    | finish service => exact ⟨service, rfl, rfl⟩
  · rintro ⟨service, rfl, rfl⟩
    have sound := trace.ne_broken (serviceActions_ne_place call service)
    exact trace.unique (.finish service) sound (by simp)

end OnceTrace

def HasPlaced (call : Nat) (own : List Action) (stage : OnceStage) : Prop :=
  .placeOnce call ∈ own ∧ stage ≠ .broken

/-- Every subscription that goes on has placed its remote call, but for one that has not started. -/
theorem OnceTrace.hasPlaced {own : List Action} {stage : OnceStage}
    (trace : OnceTrace call own stage) (running : stage = .opening ∨ stage = .reading) :
    HasPlaced call own stage := by
  rcases running with rfl | rfl
  · cases trace with
    | place => exact ⟨List.mem_cons_self, by simp⟩
  · cases trace with
    | read responses => exact ⟨List.mem_cons_self, by simp⟩

/-! ## Time -/

/-- The call has started to run when its time reached beyond the last reading of the clock. -/
def Overran (start : Session) (call : Nat) (metadata : CallMetadata) (actions : List Action) :
    Prop :=
  ∃ earlier later here timeout, actions = earlier ++ .placeOnce call :: later ∧
    start.run earlier = some here ∧ metadata.timeout = some timeout ∧
    latestReading < here.now + timeout.nanos

theorem overran_snoc {start : Session} (ran : start.run actions = some session) :
    Overran start call metadata (actions ++ [action]) ↔
      Overran start call metadata actions ∨
        (action = .placeOnce call ∧ session.deadlineOf? metadata = none) := by
  rw [deadlineOf?_eq_none_iff]
  constructor
  · rintro ⟨earlier, later, here, timeout, split, before, time, late⟩
    rcases List.eq_nil_or_concat later with rfl | ⟨later, last, rfl⟩
    · obtain ⟨rfl, same⟩ := List.append_inj' split rfl
      cases same
      cases ran.symm.trans before
      exact .inr ⟨rfl, timeout, time, late⟩
    · have whole : actions ++ [action] = (earlier ++ .placeOnce call :: later) ++ [last] := by
        simpa using split
      obtain ⟨rfl, -⟩ := List.append_inj' whole rfl
      exact .inl ⟨earlier, later, here, timeout, rfl, before, time, late⟩
  · rintro (⟨earlier, later, here, timeout, rfl, before, time, late⟩ | ⟨rfl, timeout, time, late⟩)
    · exact ⟨earlier, later ++ [action], here, timeout, by simp, before, time, late⟩
    · exact ⟨actions, [], session, timeout, rfl, ran, time, late⟩

theorem not_overran_nil {start : Session} : ¬ Overran start call metadata [] := by
  rintro ⟨earlier, later, here, timeout, split, -⟩
  simp at split

/-! ## One step -/

/-- A step of a single subscription takes a response, or it takes the subscription further.  It does
nothing else to the session. -/
theorem step_own (stepped : session.step action = some next)
    (get : session.calls[call]? = some (.once run)) (own : action.agent? = some (.call call)) :
    (∃ response, action = .readOnce call (.response response) ∧ run.stage = .reading ∧
        next = { session with counter := session.counter.accept response }) ∨
      (∃ after, OnceStep session call run action after ∧
        next = { session with
          calls := session.calls.set call (.once after)
          remote := session.remote ++
            if after.stage = .opening then [⟨.call call, run.metadata⟩] else [] }) := by
  obtain rfl | acts := agent?_eq_call own
  · obtain ⟨-, needed, -⟩ := acquire_inv stepped
    simp [needsLock, get] at needed
  cases action with
  | placeOnce acting =>
    cases acts
    obtain ⟨same, there, placing, ⟨deadline, timely, rfl⟩ | ⟨untimely, rfl⟩⟩ :=
      placeOnce_inv stepped
    · cases get.symm.trans there
      exact .inr ⟨_, .place placing timely, rfl⟩
    · cases get.symm.trans there
      exact .inr ⟨_, .breakDown placing untimely, by simp [setCall]⟩
  | openOnce acting result =>
    cases acts
    obtain ⟨same, there, opening, rfl⟩ := openOnce_inv stepped
    cases get.symm.trans there
    exact .inr ⟨_, .connect opening result, by cases result <;> simp [setCall, openedOnceStage]⟩
  | readOnce acting arrival =>
    cases acts
    obtain ⟨same, there, reading, possible, taken | stopped⟩ := readOnce_inv stepped
    · obtain ⟨response, rfl, rfl⟩ := taken
      cases get.symm.trans there
      exact .inl ⟨response, rfl, reading, rfl⟩
    · obtain ⟨status, last, rfl⟩ := stopped
      cases get.symm.trans there
      exact .inr ⟨_, .stop reading possible last, by simp [setCall]⟩
  | abandon acting =>
    cases acts
    obtain ⟨same, there, running, -, rfl⟩ := abandon_inv stepped
    cases get.symm.trans there
    exact .inr ⟨_, .abandon running, by simp [setCall, ClientCall.givenUp]⟩
  | runSection acting =>
    cases acts
    obtain ⟨-, ⟨_, _, there, -⟩ | ⟨there, -⟩ | ⟨there, -⟩ | ⟨there, -⟩⟩ :=
      runSection_inv stepped <;>
      cases get.symm.trans there
  | resume acting =>
    cases acts
    obtain ⟨task, there, -, -⟩ := resume_inv stepped
    cases get.symm.trans there
  | _ => cases acts

theorem step_broken (get : session.calls[call]? = some (.once run)) (broken : run.stage = .broken)
    (acts : action.agent? = some (.call call)) : session.step action = none := by
  rw [Option.eq_none_iff_forall_ne_some]
  intro next stepped
  obtain ⟨response, -, reading, -⟩ | ⟨after, went, -⟩ := step_own stepped get acts
  · rw [broken] at reading
    cases reading
  · cases went with
    | place stage _ | breakDown stage _ | connect stage _ | stop stage _ _ =>
      rw [broken] at stage
      cases stage
    | abandon running =>
      rw [ClientCall.inProgress_once, broken] at running
      cases running
    | receive _ _ _ | closeReceiver _ _ => cases acts

/-- When others act, requests may be taken from the queue of a single subscription whose remote call
was placed, and nothing else happens to it. -/
theorem step_other (stepped : session.step action = some next)
    (get : session.calls[call]? = some (.once run)) (other : action.agent? ≠ some (.call call)) :
    ∃ queue, next.calls[call]? = some (.once { run with queue }) ∧
      (queue = run.queue ∨ ∃ remote ∈ session.remote, remote.caller = .call call ∧
        (run.queue.receive? = some queue ∨ queue = run.queue.closeReceiver)) := by
  have bound := (List.getElem?_eq_some_iff.mp get).1
  cases step_calls stepped with
  | kept calls => exact ⟨run.queue, by rw [calls, get], .inl rfl⟩
  | start _ calls =>
    exact ⟨run.queue, by rw [calls, List.getElem?_append_left bound, get], .inl rfl⟩
  | enter _ there went calls =>
    refine ⟨run.queue, ?_, .inl rfl⟩
    rw [calls]
    refine getElem?_set_keep get ?_
    rintro rfl
    cases get.symm.trans there
    cases went
  | resume _ waiting _ calls =>
    refine ⟨run.queue, ?_, .inl rfl⟩
    rw [calls]
    refine getElem?_set_keep get ?_
    rintro rfl
    cases get.symm.trans waiting
  | abandon left _ _ calls =>
    refine ⟨run.queue, ?_, .inl rfl⟩
    rw [calls]
    refine getElem?_set_keep get ?_
    rintro rfl
    exact other (by rw [left]; rfl)
  | @once place before after there calls went =>
    by_cases same : place = call
    · subst same
      cases get.symm.trans there
      rw [calls, List.getElem?_set_self bound]
      cases went with
      | place _ _ | breakDown _ _ | connect _ _ | stop _ _ _ | abandon _ =>
        exact absurd rfl other
      | receive placed caller taken =>
        exact ⟨_, rfl, .inr ⟨_, List.mem_of_getElem? placed, caller, .inl taken⟩⟩
      | closeReceiver placed caller =>
        exact ⟨_, rfl, .inr ⟨_, List.mem_of_getElem? placed, caller, .inr rfl⟩⟩
    · exact ⟨run.queue, by rw [calls]; exact getElem?_set_keep get same, .inl rfl⟩

/-! ## Along a run -/

structure OnceAlong (call : Nat) (metadata : CallMetadata) (request : SubscribeRequest)
    (own : List Action) (session : Session) (run : OnceCall) : Prop where
  get : session.calls[call]? = some (.once run)
  context : run.metadata = metadata
  trace : OnceTrace call own run.stage
  placed : HasPlaced call own run.stage →
    session.remote.filter (·.caller = .call call) = [⟨.call call, metadata⟩]
  -- The request waits until the remote call is placed
  unplaced : ¬ HasPlaced call own run.stage →
    session.remote.filter (·.caller = .call call) = [] ∧
      run.queue = { capacity := 1, waiting := [request] }
  holds : run.queue.Holds [request]
  -- The client lives as long as the subscription is in progress
  kept : run.stage.isRunning = true → session.dropped = false

/-- What a step of a single subscription has to do with its remote call and with its deadline. -/
inductive OwnStep (session : Session) (call : Nat) (own : List Action) (run : OnceCall)
    (action : Action) (after : OnceCall) : Prop where
  | place (acts : action = .placeOnce call) (timely : session.deadlineOf? run.metadata ≠ none)
      (before : own = []) (opening : after.stage = .opening)
  | breakDown (acts : action = .placeOnce call) (untimely : session.deadlineOf? run.metadata = none)
      (before : own = []) (broken : after.stage = .broken)
  | goOn (acts : action ≠ .placeOnce call) (before : run.stage ≠ .broken)
      (sound : after.stage ≠ .broken) (opened : after.stage ≠ .opening)

namespace OnceAlong

variable {own : List Action}

theorem trace_own (along : OnceAlong call metadata request own session run) {after : OnceCall}
    (went : OnceStep session call run action after) (acts : action.agent? = some (.call call)) :
    OnceTrace call (own ++ [action]) after.stage := by
  have trace := along.trace
  cases went with
  | place placing _ =>
    rw [placing] at trace
    cases trace
    exact .place
  | breakDown placing _ =>
    rw [placing] at trace
    cases trace
    exact .breakDown
  | connect opening result =>
    rw [opening] at trace
    cases trace
    cases result with
    | ok opened => exact .read []
    | error status => exact .finish (.refused status)
  | stop reading possible last =>
    rw [reading] at trace
    have kept := along.kept (by rw [reading]; rfl)
    obtain ⟨ending, rfl, rfl⟩ := Ending.of_result last (by
      rintro rfl
      rw [kept] at possible
      cases possible)
    cases trace with
    | read responses => exact .finish (.served responses ending)
  | abandon running =>
    rw [ClientCall.inProgress_once] at running
    exact .abandon trace running
  | receive _ _ _ | closeReceiver _ _ => cases acts

theorem ownStep (along : OnceAlong call metadata request own session run) {after : OnceCall}
    (went : OnceStep session call run action after) (acts : action.agent? = some (.call call)) :
    OwnStep session call own run action after := by
  have trace := along.trace
  cases went with
  | place placing timely =>
    rw [placing] at trace
    cases trace
    exact .place rfl (by simp [timely]) rfl rfl
  | breakDown placing untimely =>
    rw [placing] at trace
    cases trace
    exact .breakDown rfl untimely rfl rfl
  | connect opening result =>
    exact .goOn (by simp) (by simp [opening]) (by cases result <;> simp [openedOnceStage])
      (by cases result <;> simp [openedOnceStage])
  | stop reading _ _ => exact .goOn (by simp) (by simp [reading]) (by simp) (by simp)
  | abandon running =>
    refine .goOn (by simp) ?_ (by simp) (by simp)
    intro broken
    simp [ClientCall.inProgress, broken] at running
  | receive _ _ _ | closeReceiver _ _ => cases acts

theorem taken (along : OnceAlong call metadata request own session run)
    (reading : run.stage = .reading) (response : SubscribeResponse) :
    OnceAlong call metadata request (own ++ [.readOnce call (.response response)])
      { session with counter := session.counter.accept response } run := by
  have trace := along.trace
  have has : HasPlaced call own run.stage := along.trace.hasPlaced (.inr reading)
  rw [reading] at trace
  cases trace with
  | read responses =>
    have still : HasPlaced call (readingActions call responses ++
        [.readOnce call (.response response)]) run.stage :=
      ⟨List.mem_append_left _ has.1, has.2⟩
    exact
      { get := along.get
        context := along.context
        trace := by
          rw [reading, ← readingActions_snoc]
          exact .read _
        placed := fun _ => along.placed has
        unplaced := fun absent => absurd still absent
        holds := along.holds
        kept := along.kept }

theorem moved (along : OnceAlong call metadata request own session run) {after : OnceCall}
    (went : OnceStep session call run action after) (acts : action.agent? = some (.call call)) :
    OnceAlong call metadata request (own ++ [action])
      { session with
        calls := session.calls.set call (.once after)
        remote := session.remote ++
          if after.stage = .opening then [⟨.call call, run.metadata⟩] else [] } after := by
  have same : after.metadata = run.metadata ∧ after.queue = run.queue ∧
      run.stage.isRunning = true := by
    cases went with
    | place stage _ | breakDown stage _ | connect stage _ | stop stage _ _ =>
      exact ⟨rfl, rfl, by rw [stage]; rfl⟩
    | abandon running => exact ⟨rfl, rfl, by rw [← ClientCall.inProgress_once, running]⟩
    | receive _ _ _ | closeReceiver _ _ => cases acts
  obtain ⟨context, queue, running⟩ := same
  have bound := (List.getElem?_eq_some_iff.mp along.get).1
  have started : own = [] → session.remote.filter (·.caller = .call call) = [] ∧
      run.queue = { capacity := 1, waiting := [request] } := by
    rintro rfl
    exact along.unplaced fun has => List.not_mem_nil has.1
  have step := along.ownStep went acts
  refine
    { get := List.getElem?_set_self bound
      context := context.trans along.context
      trace := along.trace_own went acts
      placed := ?_
      unplaced := ?_
      holds := by
        rw [queue]
        exact along.holds
      kept := fun _ => along.kept running }
  · intro has
    rw [along.context, List.filter_append]
    cases step with
    | place _ _ before opening => simp [(started before).1, opening]
    | breakDown _ _ _ broken => exact absurd broken has.2
    | goOn acts before _ opened =>
      have there : .placeOnce call ∈ own := by simpa [acts.symm] using has.1
      simp [along.placed ⟨there, before⟩, opened]
  · intro absent
    rw [queue, along.context, List.filter_append]
    cases step with
    | place acts _ _ opening => exact absurd ⟨by simp [acts], by simp [opening]⟩ absent
    | breakDown _ _ before broken => simp [started before, broken]
    | goOn acts _ sound opened =>
      have none := along.unplaced fun has => absent ⟨List.mem_append_left _ has.1, sound⟩
      simp [none, opened]

/-- A step breaks the subscription down if it places the call and the clock cannot come to the
deadline. -/
theorem broken_iff (along : OnceAlong call metadata request own session run) {after : OnceCall}
    (step : OwnStep session call own run action after) :
    after.stage = .broken ↔ run.stage = .broken ∨
      (action = .placeOnce call ∧ session.deadlineOf? metadata = none) := by
  rw [← along.context]
  cases step with
  | place acts timely before opening =>
    have trace := along.trace
    rw [before] at trace
    have sound := trace.ne_broken (by simp)
    simp [opening, sound, timely]
  | breakDown acts untimely _ broken => simp [acts, untimely, broken]
  | goOn acts before sound _ => simp [acts, before, sound]

theorem step_own (along : OnceAlong call metadata request own session run)
    (stepped : session.step action = some next) (acts : action.agent? = some (.call call)) :
    ∃ after, OnceAlong call metadata request (own ++ [action]) next after ∧
      (after.stage = .broken ↔ run.stage = .broken ∨
        (action = .placeOnce call ∧ session.deadlineOf? metadata = none)) := by
  obtain ⟨response, rfl, reading, rfl⟩ | ⟨after, went, rfl⟩ :=
    Session.step_own stepped along.get acts
  · exact ⟨run, along.taken reading response, by simp⟩
  · exact ⟨after, along.moved went acts, along.broken_iff (along.ownStep went acts)⟩

theorem step_other (along : OnceAlong call metadata request own session run)
    (stepped : session.step action = some next) (other : action.agent? ≠ some (.call call)) :
    ∃ after, OnceAlong call metadata request own next after ∧
      (after.stage = .broken ↔ run.stage = .broken) := by
  obtain ⟨queue, get, drawn⟩ := Session.step_other stepped along.get other
  have outside := step_outside stepped
  have remote : next.remote.filter (·.caller = .call call)
      = session.remote.filter (·.caller = .call call) := by
    obtain same | ⟨caller, context, -, acts, added⟩ := outside.remote
    · rw [same]
    · have foreign : caller ≠ .call call := by
        rintro rfl
        exact other acts
      simp [added, foreign]
  refine ⟨{ run with queue },
    { get := get
      context := along.context
      trace := along.trace
      placed := fun has => remote.trans (along.placed has)
      unplaced := ?_
      holds := ?_
      kept := ?_ }, Iff.rfl⟩
  · intro absent
    obtain ⟨none, waits⟩ := along.unplaced absent
    refine ⟨remote.trans none, ?_⟩
    obtain rfl | ⟨sent, member, caller, -⟩ := drawn
    · exact waits
    · -- Nothing is taken before there is a remote call
      rw [List.filter_eq_nil_iff] at none
      exact absurd (by simpa using caller) (none sent member)
  · obtain rfl | ⟨-, -, -, taken | rfl⟩ := drawn
    · exact along.holds
    · exact along.holds.receive taken
    · exact along.holds.closeReceiver
  · intro running
    rw [outside.dropped ?_]
    · exact along.kept running
    · rintro rfl
      obtain ⟨-, idle, -⟩ := dropClient_inv stepped
      have idle := idle _ (List.mem_of_getElem? along.get)
      rw [ClientCall.inProgress_once] at idle
      cases running.symm.trans idle

/-- Whatever else goes on, the subscription comes along with its own actions, and it has broken down
if it overran. -/
theorem after_run (begun : OnceAlong call metadata request [] session run)
    (ran : session.run actions = some final) :
    ∃ last, OnceAlong call metadata request (ownActions (.call call) actions) final last ∧
      (last.stage = .broken ↔ Overran session call metadata actions) := by
  refine run_induction (motive := fun actions final => ∃ last,
    OnceAlong call metadata request (ownActions (.call call) actions) final last ∧
      (last.stage = .broken ↔ Overran session call metadata actions)) ran ?_ ?_
  · have sound := begun.trace.ne_broken (by simp)
    exact ⟨run, begun, iff_of_false sound not_overran_nil⟩
  · rintro before last action next earlier ⟨reached, along, broken⟩ stepped
    rw [overran_snoc earlier, ← broken]
    by_cases acts : action.agent? = some (.call call)
    · rw [ownActions_snoc_own acts]
      exact along.step_own stepped acts
    · have rests : action ≠ .placeOnce call := by
        rintro rfl
        exact acts rfl
      rw [ownActions_snoc_other acts]
      simpa [rests] using along.step_other stepped acts

/-! ## What can come next -/

theorem place_possible (along : OnceAlong call metadata request [] session run) :
    ∃ next, session.step (.placeOnce call) = some next ∧
      (session.deadlineOf? metadata ≠ none →
        next.remote = session.remote ++ [⟨.call call, metadata⟩]) := by
  have stage := along.trace.unique .start (along.trace.ne_broken (by simp)) (by simp)
  simp only [step, placeOnce, along.get, stage, if_true, along.context]
  cases session.deadlineOf? metadata with
  | some deadline => exact ⟨_, rfl, fun _ => rfl⟩
  | none => exact ⟨_, rfl, fun timely => absurd rfl timely⟩

theorem open_possible (along : OnceAlong call metadata request [.placeOnce call] session run)
    (sound : run.stage ≠ .broken) (result : Except Status Unit) :
    ∃ next, session.step (.openOnce call result) = some next := by
  have stage := along.trace.unique .place sound (by simp)
  simp only [step, openOnce, along.get, stage, if_true]
  exact ⟨_, rfl⟩

theorem read_possible {responses : List SubscribeResponse} {arrival : Arrival}
    (along : OnceAlong call metadata request (readingActions call responses) session run)
    (seen : session.isPossible session.dropped run.deadline arrival = true) :
    ∃ next, session.step (.readOnce call arrival) = some next := by
  have sound := along.trace.ne_broken (by simp [readingActions])
  have stage := along.trace.unique (.read responses) sound (by simp)
  simp only [step, readOnce, along.get, stage, seen, and_self, if_true]
  cases arrival.result with
  | ok response => exact ⟨_, rfl⟩
  | error status => exact ⟨_, rfl⟩

end OnceAlong

/-! ## Every single subscription -/

/-- What is known of a single subscription in a run from its start: what it does, what comes of it,
and what it leaves alone. -/
structure SingleIn (start : Session) (call : Nat) (metadata : CallMetadata)
    (request : SubscribeRequest) (actions : List Action) (final : Session) : Prop where
  -- Its actions go with some service, until it is given up
  follows : ∃ service taken, taken <+: serviceActions call service ∧
    (ownActions (.call call) actions = taken ∨
      ownActions (.call call) actions = taken ++ [.abandon call])
  -- It breaks down exactly if it starts to run with more time than the clock has left, and that is
  -- the last thing it does
  overruns : Overran start call metadata actions ↔
    ∃ run, final.calls[call]? = some (.once run) ∧ run.stage = .broken
  stops : Overran start call metadata actions → ownActions (.call call) actions = [.placeOnce call]
  -- Whatever the target does, the subscription can go on
  places : ownActions (.call call) actions = [] →
    ∃ next, final.step (.placeOnce call) = some next ∧
      (final.deadlineOf? metadata ≠ none →
        next.remote = final.remote ++ [⟨.call call, metadata⟩])
  connects : ownActions (.call call) actions = [.placeOnce call] →
    ¬ Overran start call metadata actions →
    ∀ result, ∃ next, final.step (.openOnce call result) = some next
  reads : ∀ responses, ownActions (.call call) actions = readingActions call responses →
    ∀ response, ∃ next, final.step (.readOnce call (.response response)) = some next
  ends : ∀ responses, ownActions (.call call) actions = readingActions call responses →
    ∀ ending : Ending, (ending = .deadline → ∀ run, final.calls[call]? = some (.once run) →
        final.hasExpired run.deadline = true) →
      ∃ next, final.step (.readOnce call ending.arrival) = some next
  -- It places one remote call, which carries one request
  placed : .placeOnce call ∈ actions → ¬ Overran start call metadata actions →
    final.remote.filter (·.caller = .call call) = [⟨.call call, metadata⟩]
  unplaced : .placeOnce call ∉ actions ∨ Overran start call metadata actions →
    ∀ remote ∈ final.remote, remote.caller ≠ .call call
  carried : ∃ queue, final.queueOf? (.call call) = some queue ∧ queue.received <+: [request] ∧
    (queue.receiverOpen = true → queue.received ++ queue.waiting = [request]) ∧
    (.placeOnce call ∉ actions ∨ Overran start call metadata actions →
      queue = { capacity := 1, waiting := [request] })
  -- It returns when it was served to the end, with what the terminal status says
  returned : ∀ outcome, (final.calls[call]?).bind ClientCall.outcome? = some outcome ↔
    ∃ service, ownActions (.call call) actions = serviceActions call service ∧
      outcome = if service.terminal.code = .ok then .ok ()
        else .error (.rpcFailure service.terminal)
  -- The records of what it has read are its part of the journal, and they stay
  stats : final.counter.stats
    = start.counter.stats ++ (journal start.counter actions).map Prod.snd
  recorded : ((journal start.counter actions).filter (·.1 = .call call)).map Prod.snd
    = (responsesTo (.call call) actions).filterMap start.counter.record?
  served : ∀ service, ownActions (.call call) actions = serviceActions call service →
    responsesTo (.call call) actions = service.responses
  grows : ∀ more later, final.run more = some later → final.counter.stats <+: later.counter.stats
  -- Its actions change the counter, the remote calls and itself, and nothing else
  apart : ∀ action next, action.agent? = some (.call call) → final.step action = some next →
    next = { final with counter := next.counter, calls := next.calls, remote := next.remote } ∧
      ∀ other, other ≠ call → next.calls[other]? = final.calls[other]?

theorem OnceAlong.singleIn {start : Session}
    (along : OnceAlong call metadata request (ownActions (.call call) actions) session run)
    (broken : run.stage = .broken ↔ Overran start call metadata actions)
    (stats : session.counter.stats
      = start.counter.stats ++ (journal start.counter actions).map Prod.snd) :
    SingleIn start call metadata request actions session := by
  -- The subscription has no remote call before it starts to run and after it has broken down
  have absent : .placeOnce call ∉ actions ∨ Overran start call metadata actions →
      ¬ HasPlaced call (ownActions (.call call) actions) run.stage := by
    rintro (absent | overran) ⟨own, sound⟩
    · exact absent (mem_ownActions.mp own).1
    · exact sound (broken.mpr overran)
  exact
    { follows := along.trace.follows
      overruns := by
        rw [← broken]
        constructor
        · exact fun broken => ⟨run, along.get, broken⟩
        · rintro ⟨other, get, broken⟩
          cases along.get.symm.trans get
          exact broken
      stops := by
        intro overran
        have trace := along.trace
        rw [broken.mpr overran] at trace
        exact trace.eq_of_broken
      places := by
        intro none
        rw [none] at along
        exact along.place_possible
      connects := by
        intro placed timely result
        rw [placed] at along
        exact along.open_possible (mt broken.mp timely) result
      reads := by
        intro responses read response
        rw [read] at along
        exact along.read_possible rfl
      ends := by
        intro responses read ending due
        rw [read] at along
        refine along.read_possible ?_
        cases ending with
        | clean | status _ => rfl
        | deadline => exact due rfl run along.get
      placed := by
        intro member timely
        exact along.placed ⟨mem_ownActions.mpr ⟨member, rfl⟩, mt broken.mp timely⟩
      unplaced := by
        intro none
        simpa [List.filter_eq_nil_iff] using (along.unplaced (absent none)).1
      carried := by
        refine ⟨run.queue, queueOf?_once along.get, along.holds.received_inOrder,
          along.holds.kept, ?_⟩
        exact fun none => (along.unplaced (absent none)).2
      returned := by
        intro outcome
        rw [along.get, Option.bind_some, ClientCall.outcome?_once]
        constructor
        · rintro ⟨status, ended, rfl⟩
          obtain ⟨service, served, rfl⟩ := along.trace.ended_iff.mp ended
          exact ⟨service, served, rfl⟩
        · rintro ⟨service, served, rfl⟩
          exact ⟨service.terminal, along.trace.ended_iff.mpr ⟨service, served, rfl⟩, rfl⟩
      stats := stats
      recorded := journal_of_reader start.counter actions (.call call)
      served := by
        intro service served
        rw [← responsesTo_ownActions, served, responsesTo_serviceActions]
      grows := fun _ _ further => run_grows further
      apart := by
        intro action next acts stepped
        obtain ⟨response, -, -, rfl⟩ | ⟨after, -, rfl⟩ :=
          Session.step_own stepped along.get acts
        · exact ⟨rfl, fun _ _ => rfl⟩
        · exact ⟨rfl, fun other different => List.getElem?_set_ne different.symm⟩ }

/-- In whatever state a session is, and whatever else goes on in it, a single subscription that
passes the checks places one remote call with one request for single samples, returns what the
terminal status of that call says, has recorded what it has read until then, and leaves the stream,
its tasks and the handlers alone.  If its time reaches beyond the last reading of the clock when it
starts to run, it breaks down instead, and there is no remote call. -/
theorem single_exact (reachable : Reachable session) (kept : session.dropped = false)
    (admits : session.Admits metadata args) :
    ∃ next list, session.step (.start (.registerOnce metadata args)) = some next ∧
      list.mode = ListMode.once.number ∧
      Subscribes args.sampleInterval session.counter.keys list.subscription ∧
      next = { session with calls := session.calls ++ [ClientCall.once
        { metadata, queue := { capacity := 1, waiting := [.subscribe list] } }] } ∧
      ∀ later final, next.run later = some final →
        SingleIn next session.calls.length metadata (.subscribe list) later final := by
  obtain ⟨request, made⟩ := prepare_of_admits admits .once
  obtain ⟨list, rfl, mode, subscribes⟩ := prepare_subscribes made
  let begun : OnceCall := { metadata, queue := { capacity := 1, waiting := [.subscribe list] } }
  let next := { session with calls := session.calls ++ [ClientCall.once begun] }
  have started : session.step (.start (.registerOnce metadata args)) = some next := by
    simp [step, start, kept, newCall, made, next, begun]
  refine ⟨next, list, started, mode, subscribes, rfl, fun later final ran => ?_⟩
  have get : next.calls[session.calls.length]? = some (.once begun) := by
    simp [next]
  have silent : next.remote.filter (·.caller = .call session.calls.length) = [] := by
    simpa using reachable.caller_ne
  have first : OnceAlong session.calls.length metadata (.subscribe list) [] next begun :=
    { get := get
      context := rfl
      trace := .start
      placed := fun has => absurd has.1 List.not_mem_nil
      unplaced := fun _ => ⟨silent, rfl⟩
      holds := ⟨List.prefix_refl _, fun _ => rfl⟩
      kept := fun _ => kept }
  obtain ⟨last, along, broken⟩ := first.after_run ran
  exact along.singleIn broken (run_stats ran).2

def openStream : List Action :=
  [.start (.registerStream admin {}), .acquire (.call 0), .runSection 0, .placeTask 0,
    .openTask 0 (.ok ())]

def failingSingle : List Action :=
  [.placeOnce 1, .receive 1, .openOnce 1 (.ok ()), .readTask 0 (.response usableResponse),
    .readOnce 1 (.response usableResponse), .readOnce 1 (.response (.sync true)),
    .readOnce 1 (.status ⟨.permissionDenied, "bad credentials"⟩)]

theorem single_exact_failingSingle :
    ∃ session next request final, (fresh {} none none).run openStream = some session ∧
      session.step (.start (.registerOnce admin {})) = some next ∧
      next.run failingSingle = some final ∧
      (final.calls[1]?).bind ClientCall.outcome?
        = some (.error (.rpcFailure ⟨.permissionDenied, "bad credentials"⟩)) ∧
      final.counter.stats.length = 2 ∧
      SingleIn next 1 admin request failingSingle final := by
  obtain ⟨session, next, final, opened, kept, length, tag, started, ran, outcome, stats⟩ :
      ∃ session next final, (fresh {} none none).run openStream = some session ∧
        session.dropped = false ∧ session.calls.length = 1 ∧ session.counter.tag = "pbr" ∧
        session.step (.start (.registerOnce admin {})) = some next ∧
        next.run failingSingle = some final ∧
        (final.calls[1]?).bind ClientCall.outcome?
          = some (.error (.rpcFailure ⟨.permissionDenied, "bad credentials"⟩)) ∧
        final.counter.stats.length = 2 :=
    ⟨_, _, _, rfl, rfl, rfl, rfl, rfl, rfl, rfl, rfl⟩
  have admits : session.Admits admin {} := ⟨tag, by decide, by decide, .inl rfl⟩
  obtain ⟨other, list, same, -, -, -, exact⟩ :=
    single_exact ((Reachable.fresh {} none none).run opened) kept admits
  cases started.symm.trans same
  have single := exact failingSingle final ran
  rw [length] at single
  exact ⟨session, next, .subscribe list, final, opened, started, ran, outcome, stats, single⟩

def patientConfig : TelemetryConfig where
  subscription := { mode := .once, timeoutSecs := some 9223372036854775807 }

/-- The clock has come to one second when a subscription with this configuration starts.  It passes
the checks, and then it breaks down without a remote call and cannot go on. -/
theorem single_overrun :
    patientConfig.validate = .ok () ∧
      let session := fresh {} none none 1000000000
      let patient := { admin with timeout := patientConfig.timeout }
      session.Admits patient patientConfig.rpcArgs ∧
      ∃ next stuck,
        session.step (.start (.registerOnce patient patientConfig.rpcArgs)) = some next ∧
        next.step (.placeOnce 0) = some stuck ∧ stuck.remote = [] ∧
        stuck.calls.map ClientCall.outcome? = [none] ∧
        ∀ action, action.agent? = some (.call 0) → stuck.step action = none := by
  refine ⟨by decide +kernel, ⟨rfl, by decide, by decide, .inl rfl⟩, _, _, rfl, rfl, rfl, rfl, ?_⟩
  intro action acts
  exact step_broken rfl rfl acts

end Session

end PbrTelemetry
