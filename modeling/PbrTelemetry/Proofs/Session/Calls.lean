import PbrTelemetry.Proofs.Session.Inversion

/-!
# How the calls of a client go on

A step starts a call, takes one call further, or leaves all calls alone.  `step_calls` tells these
apart once for all actions; how a close or a registration can have come to where it is, and that a
call stays as it is while others act, are read off it.
-/

namespace PbrTelemetry

namespace Session

inductive SectionStep (session : Session) : ClientCall → ClientCall → Prop where
  | register (metadata : CallMetadata) (request : SubscribeRequest) :
      SectionStep session (.register metadata request none) (.register metadata request
        (some ((session.ensureStream metadata).writeRequest request).2))
  | take : SectionStep session (.close .taking) (.close (takenStage session.slot.receiveTask))
  | settle : SectionStep session (.close .settling) (.close .returned)
  | inspect : SectionStep session (.inspect none) (.inspect (some session.slot.phase))

/-- What becomes of a single subscription, other than that it takes a response: it goes on, or the
target takes from its queue. -/
inductive OnceStep (session : Session) (call : Nat) (run : OnceCall) :
    Action → OnceCall → Prop where
  | place {deadline : Option Nat} (placing : run.stage = .placing)
      (timely : session.deadlineOf? run.metadata = some deadline) :
      OnceStep session call run (.placeOnce call) { run with stage := .opening, deadline }
  | breakDown (placing : run.stage = .placing)
      (untimely : session.deadlineOf? run.metadata = none) :
      OnceStep session call run (.placeOnce call) { run with stage := .broken }
  | connect (opening : run.stage = .opening) (result : Except Status Unit) :
      OnceStep session call run (.openOnce call result)
        { run with stage := openedOnceStage result }
  | stop {arrival : Arrival} {status : Status} (reading : run.stage = .reading)
      (possible : session.isPossible session.dropped run.deadline arrival = true)
      (last : arrival.result = .error status) :
      OnceStep session call run (.readOnce call arrival) { run with stage := .ended status }
  | abandon (running : (ClientCall.once run).inProgress = true) :
      OnceStep session call run (.abandon call) { run with stage := .abandoned }
  | receive {place : Nat} {remote : RemoteCall} {queue : RequestQueue}
      (placed : session.remote[place]? = some remote) (own : remote.caller = .call call)
      (taken : run.queue.receive? = some queue) :
      OnceStep session call run (.receive place) { run with queue }
  | closeReceiver {place : Nat} {remote : RemoteCall}
      (placed : session.remote[place]? = some remote) (own : remote.caller = .call call) :
      OnceStep session call run (.closeReceiver place)
        { run with queue := run.queue.closeReceiver }

inductive CallsStep (session : Session) (action : Action) (next : Session) : Prop where
  | kept (calls : next.calls = session.calls)
  | start {demand : Demand} (started : action = .start demand)
      (calls : next.calls = session.calls ++ [session.newCall demand])
  -- A call has had the lock
  | enter {call : Nat} {before after : ClientCall} (ran : action = .runSection call)
      (get : session.calls[call]? = some before) (went : SectionStep session before after)
      (calls : next.calls = session.calls.set call after)
  -- The task that a close waits for is over
  | resume {call task : Nat} (resumed : action = .resume call)
      (waiting : session.calls[call]? = some (.close (.awaiting task)))
      (ended : (session.tasks[task]?).map ReceiveTask.stage = some .finished)
      (calls : next.calls = session.calls.set call (.close .settling))
  -- The caller gives a call up
  | abandon {call : Nat} {before : ClientCall} (left : action = .abandon call)
      (get : session.calls[call]? = some before) (running : before.inProgress = true)
      (calls : next.calls = session.calls.set call before.givenUp)
  -- A single subscription goes on, or requests are taken from its queue
  | once {call : Nat} {run after : OnceCall} (get : session.calls[call]? = some (.once run))
      (calls : next.calls = session.calls.set call (.once after))
      (went : OnceStep session call run action after)

variable {session next : Session} {action : Action} {call : Nat}

theorem queueOf?_once {run : OnceCall} (get : session.calls[call]? = some (.once run)) :
    session.queueOf? (.call call) = some run.queue := by
  simp only [queueOf?, get]

theorem setQueue_callsStep {queue : RequestQueue} {agent : Agent}
    (went : ∀ id run, agent = .call id → session.calls[id]? = some (.once run) →
      OnceStep session id run action { run with queue }) :
    CallsStep session action (session.setQueue queue agent) := by
  obtain ⟨id, task, -, -, changed⟩ | ⟨id, run, same, get, changed⟩ | same :=
    setQueue_inv session queue agent
  · exact .kept (by rw [changed]; rfl)
  · exact .once get (by rw [changed]; rfl) (went id run same get)
  · exact .kept (by rw [same])

theorem runSection_enters (ran : session.runSection call = some next) :
    ∃ before after, session.calls[call]? = some before ∧ SectionStep session before after ∧
      next.calls = session.calls.set call after := by
  obtain ⟨-, ⟨metadata, request, get, rfl⟩ | ⟨get, rfl⟩ | ⟨get, rfl⟩ | ⟨get, rfl⟩⟩ :=
    runSection_inv ran
  · exact ⟨_, _, get, .register metadata request, by rw [registerSection_eq]; rfl⟩
  · refine ⟨_, _, get, .take, ?_⟩
    rw [takeSection_eq]
    simp only [release, cancelHeld_calls]
  · exact ⟨_, _, get, .settle, rfl⟩
  · exact ⟨_, _, get, .inspect, rfl⟩

theorem step_calls (stepped : session.step action = some next) :
    CallsStep session action next := by
  cases action with
  | start demand =>
    obtain ⟨-, rfl⟩ := start_inv stepped
    exact .start rfl rfl
  | runSection call =>
    obtain ⟨before, after, get, went, calls⟩ := runSection_enters stepped
    exact .enter rfl get went calls
  | resume call =>
    obtain ⟨task, waiting, ended, rfl⟩ := resume_inv stepped
    exact .resume rfl waiting ended rfl
  | abandon call =>
    obtain ⟨client, get, running, -, rfl⟩ := abandon_inv stepped
    exact .abandon rfl get running rfl
  | placeOnce call =>
    obtain ⟨run, get, placing, ⟨deadline, timely, rfl⟩ | ⟨untimely, rfl⟩⟩ :=
      placeOnce_inv stepped
    · exact .once get rfl (.place placing timely)
    · exact .once get rfl (.breakDown placing untimely)
  | openOnce call result =>
    obtain ⟨run, get, opening, rfl⟩ := openOnce_inv stepped
    exact .once get rfl (.connect opening result)
  | readOnce call arrival =>
    obtain ⟨run, get, reading, possible, ⟨response, -, rfl⟩ | ⟨status, last, rfl⟩⟩ :=
      readOnce_inv stepped
    · exact .kept rfl
    · exact .once get rfl (.stop reading possible last)
  | receive remote =>
    obtain ⟨called, queue, rest, placed, has, taken, rfl⟩ := receive_inv stepped
    refine setQueue_callsStep fun id run own get => ?_
    rw [own, queueOf?_once get] at has
    cases has
    exact .receive placed own taken
  | closeReceiver remote =>
    obtain ⟨called, queue, placed, has, rfl⟩ := closeReceiver_inv stepped
    refine setQueue_callsStep fun id run own get => ?_
    rw [own, queueOf?_once get] at has
    cases has
    exact .closeReceiver placed own
  | addKeys keys | setSuccessHandler handler | setFailureHandler handler | pass time =>
    cases stepped
    exact .kept rfl
  | dropClient =>
    obtain ⟨-, -, rfl⟩ := dropClient_inv stepped
    exact .kept rfl
  | acquire agent =>
    obtain ⟨-, -, rfl⟩ := acquire_inv stepped
    exact .kept rfl
  | placeTask id =>
    obtain ⟨task, -, -, ⟨deadline, -, rfl⟩ | ⟨-, rfl⟩⟩ := placeTask_inv stepped
    · exact .kept rfl
    · exact .kept rfl
  | openTask id result =>
    obtain ⟨task, -, -, rfl⟩ := openTask_inv stepped
    exact .kept rfl
  | giveUpTask id =>
    obtain ⟨task, -, -, -, rfl⟩ := giveUpTask_inv stepped
    exact .kept rfl
  | readTask id arrival =>
    obtain ⟨task, -, -, -, ⟨response, -, ⟨-, rfl⟩ | ⟨-, rfl⟩⟩ | ⟨status, -, rfl⟩⟩ :=
      readTask_inv stepped
    · exact .kept rfl
    · exact .kept rfl
    · exact .kept rfl
  | storeStatus id =>
    obtain ⟨task, status, -, -, -, rfl⟩ := storeStatus_inv stepped
    exact .kept rfl
  | finishTask id =>
    obtain ⟨task, status, -, -, -, rfl⟩ := finishTask_inv stepped
    exact .kept rfl

/-! ## Calls that act, and calls that wait -/

def Action.call? : Action → Option Nat
  | .runSection call | .resume call | .abandon call | .placeOnce call | .openOnce call _
  | .readOnce call _ => some call
  | _ => none

theorem acting_inProgress (stepped : session.step action = some next)
    (acts : action.call? = some call) :
    ∃ client, session.calls[call]? = some client ∧ client.inProgress = true := by
  cases action with
  | runSection acting =>
    cases acts
    obtain ⟨-, ⟨_, _, get, -⟩ | ⟨get, -⟩ | ⟨get, -⟩ | ⟨get, -⟩⟩ := runSection_inv stepped <;>
      exact ⟨_, get, rfl⟩
  | resume acting =>
    cases acts
    obtain ⟨task, get, -, -⟩ := resume_inv stepped
    exact ⟨_, get, rfl⟩
  | abandon acting =>
    cases acts
    obtain ⟨client, get, running, -⟩ := abandon_inv stepped
    exact ⟨client, get, running⟩
  | placeOnce acting =>
    cases acts
    obtain ⟨run, get, placing, -⟩ := placeOnce_inv stepped
    exact ⟨_, get, by simp [ClientCall.inProgress, placing]⟩
  | openOnce acting result =>
    cases acts
    obtain ⟨run, get, opening, -⟩ := openOnce_inv stepped
    exact ⟨_, get, by simp [ClientCall.inProgress, opening]⟩
  | readOnce acting arrival =>
    cases acts
    obtain ⟨run, get, reading, -⟩ := readOnce_inv stepped
    exact ⟨_, get, by simp [ClientCall.inProgress, reading]⟩
  | _ => cases acts

theorem getElem?_set_keep {α : Type} {entries : List α} {entry found : α} {place other : Nat}
    (get : entries[other]? = some found) (different : place ≠ other) :
    (entries.set place entry)[other]? = some found := by
  rw [List.getElem?_set_ne different, get]

/-- A call that has returned, or that does not act, stays as it is.  A single subscription may not,
for requests are taken from its queue at any time. -/
theorem step_untouched {client : ClientCall} (stepped : session.step action = some next)
    (get : session.calls[call]? = some client) (lasting : ∀ run, client ≠ .once run)
    (rests : action.call? = some call → client.inProgress = false) :
    next.calls[call]? = some client := by
  cases step_calls stepped with
  | kept calls => rw [calls, get]
  | start _ calls =>
    have bound := (List.getElem?_eq_some_iff.mp get).1
    rw [calls, List.getElem?_append_left bound, get]
  | enter ran there went calls =>
    rw [calls]
    refine getElem?_set_keep get ?_
    rintro rfl
    have returned := rests (by rw [ran]; rfl)
    cases get.symm.trans there
    cases went <;> cases returned
  | resume resumed waiting _ calls =>
    rw [calls]
    refine getElem?_set_keep get ?_
    rintro rfl
    have returned := rests (by rw [resumed]; rfl)
    cases get.symm.trans waiting
    cases returned
  | abandon left there running calls =>
    rw [calls]
    refine getElem?_set_keep get ?_
    rintro rfl
    have returned := rests (by rw [left]; rfl)
    cases get.symm.trans there
    cases running.symm.trans returned
  | @once place run after there calls =>
    rw [calls]
    refine getElem?_set_keep get ?_
    rintro rfl
    exact lasting run (Option.some.inj (get.symm.trans there))

theorem step_call {client : ClientCall} (stepped : session.step action = some next)
    (get : session.calls[call]? = some client) (lasting : ∀ run, client ≠ .once run)
    (other : action.call? ≠ some call) : next.calls[call]? = some client :=
  step_untouched stepped get lasting fun acts => absurd acts other

theorem step_returned {client : ClientCall} (stepped : session.step action = some next)
    (get : session.calls[call]? = some client) (lasting : ∀ run, client ≠ .once run)
    (done : client.inProgress = false) : next.calls[call]? = some client :=
  step_untouched stepped get lasting fun _ => done

/-! ## Registrations -/

inductive RegisterStep (session : Session) (action : Action) (call : Nat) (metadata : CallMetadata)
    (request : SubscribeRequest) : Option Outcome → Prop where
  -- It was there before
  | same {outcome : Option Outcome}
      (get : session.calls[call]? = some (.register metadata request outcome)) :
      RegisterStep session action call metadata request outcome
  -- It has started with a request that the session could make
  | start {args : RpcArgs} (started : action = .start (.registerStream metadata args))
      (place : call = session.calls.length)
      (prepared : session.prepare metadata args .stream = .ok request) :
      RegisterStep session action call metadata request none
  -- It has been at the slot
  | enter (ran : action = .runSection call)
      (pending : session.calls[call]? = some (.register metadata request none)) :
      RegisterStep session action call metadata request
        (some ((session.ensureStream metadata).writeRequest request).2)

theorem newCall_register {demand : Demand} {metadata : CallMetadata} {request : SubscribeRequest}
    {outcome : Option Outcome}
    (new : session.newCall demand = .register metadata request outcome) :
    ∃ args, demand = .registerStream metadata args ∧ outcome = none ∧
      session.prepare metadata args .stream = .ok request := by
  cases demand with
  | registerStream context args =>
    simp only [newCall] at new
    split at new
    · cases new
    · next prepared =>
      cases new
      exact ⟨args, rfl, rfl, prepared⟩
  | registerOnce context args =>
    simp only [newCall] at new
    split at new <;> cases new
  | close | state => cases new

theorem step_register {metadata : CallMetadata} {request : SubscribeRequest}
    {outcome : Option Outcome} (stepped : session.step action = some next)
    (get : next.calls[call]? = some (.register metadata request outcome)) :
    RegisterStep session action call metadata request outcome := by
  cases step_calls stepped with
  | kept calls =>
    rw [calls] at get
    exact .same get
  | start started calls =>
    rw [calls] at get
    obtain there | ⟨place, new⟩ := getElem?_snoc_inv get
    · exact .same there
    · obtain ⟨args, rfl, rfl, prepared⟩ := newCall_register new.symm
      exact .start started place prepared
  | @enter entered before after ran pending went calls =>
    rw [calls] at get
    obtain ⟨rfl, equal⟩ | ⟨-, there⟩ := getElem?_set_inv get
    · cases went <;> cases equal
      exact .enter ran pending
    · exact .same there
  | resume _ _ _ calls =>
    rw [calls] at get
    obtain ⟨-, equal⟩ | ⟨-, there⟩ := getElem?_set_inv get
    · cases equal
    · exact .same there
  | @abandon _ before _ _ _ calls =>
    rw [calls] at get
    obtain ⟨-, equal⟩ | ⟨-, there⟩ := getElem?_set_inv get
    · cases before <;> cases equal
    · exact .same there
  | once _ calls =>
    rw [calls] at get
    obtain ⟨-, equal⟩ | ⟨-, there⟩ := getElem?_set_inv get
    · cases equal
    · exact .same there

end Session

end PbrTelemetry
