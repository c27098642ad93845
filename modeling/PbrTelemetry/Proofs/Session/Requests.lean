import PbrTelemetry.Proofs.Request.Subscriptions
import PbrTelemetry.Proofs.Session.Orderly

/-!
# What becomes of requests

A registration that succeeds has put its request into the queue of the stream in the slot, from
where the target takes it at any later time.  By then the slot may belong to another stream, with a
queue of its own.  `requests_conveyed` says that no request is lost on the way, doubled, or put on
the wrong stream.

It compares two histories.  The *acceptances* of a run are read off the outcomes of its
registrations, in the order in which these had the lock, and know nothing of queues.  What a target
has received stands in the queue of its stream.  `RequestQueue.Carries` is how a queue goes with the
requests that were accepted for it, and it is kept by each of the three things that happen to a
queue: a request is put in, a request is taken out, and the target stops to listen.
-/

namespace PbrTelemetry

/-! ## One queue -/

/-- A queue holds requests on their way from the session to the target. -/
structure RequestQueue.Holds (queue : RequestQueue) (requests : List SubscribeRequest) : Prop where
  inOrder : queue.accepted <+: requests
  -- Requests are lost only when the target stops to listen
  kept : queue.receiverOpen = true → queue.accepted = requests

/-- The queue of a stream holds requests, of which a bounded number can wait. -/
structure RequestQueue.Carries (queue : RequestQueue) (requests : List SubscribeRequest) : Prop
    extends queue.Holds requests where
  capacity : queue.capacity = streamQueueCapacity
  bounded : requests.length ≤ queue.received.length + streamQueueCapacity

namespace RequestQueue.Holds

variable {queue next : RequestQueue} {requests : List SubscribeRequest}

theorem receive (holds : queue.Holds requests) (received : queue.receive? = some next) :
    next.Holds requests := by
  have accepted := accepted_receive? received
  simp only [receive?] at received
  split at received
  · cases received
  · cases received
    exact
      { inOrder := by
          rw [accepted]
          exact holds.inOrder
        kept := fun listens => accepted.trans (holds.kept listens) }

theorem closeReceiver (holds : queue.Holds requests) : queue.closeReceiver.Holds requests where
  inOrder := by
    have received : queue.closeReceiver.accepted = queue.received := List.append_nil _
    rw [received]
    exact (List.prefix_append _ _).trans holds.inOrder
  kept listens := by cases listens

theorem received_inOrder (holds : queue.Holds requests) : queue.received <+: requests :=
  (List.prefix_append _ _).trans holds.inOrder

end RequestQueue.Holds

namespace RequestQueue.Carries

variable {queue next : RequestQueue} {requests : List SubscribeRequest} {request : SubscribeRequest}

theorem empty : Carries { capacity := streamQueueCapacity } [] where
  capacity := rfl
  inOrder := List.prefix_refl _
  bounded := Nat.zero_le _
  kept _ := rfl

theorem push (carries : queue.Carries requests) (pushed : queue.push? request = some next) :
    next.Carries (requests ++ [request]) := by
  have accepted := accepted_push? pushed
  simp only [push?] at pushed
  split at pushed
  · next room =>
    obtain ⟨listens, room⟩ := room
    have same := carries.kept listens
    rw [same] at accepted
    have count : queue.received.length + queue.waiting.length = requests.length := by
      rw [← same, RequestQueue.accepted, List.length_append]
    rw [carries.capacity] at room
    cases pushed
    exact
      { capacity := carries.capacity
        inOrder := accepted ▸ List.prefix_refl _
        bounded := by
          rw [List.length_append, List.length_singleton]
          show requests.length + 1 ≤ queue.received.length + streamQueueCapacity
          omega
        kept := fun _ => accepted }
  · cases pushed

theorem receive (carries : queue.Carries requests) (received : queue.receive? = some next) :
    next.Carries requests := by
  have holds := carries.toHolds.receive received
  simp only [receive?] at received
  split at received
  · cases received
  · cases received
    exact
      { toHolds := holds
        capacity := carries.capacity
        bounded := by
          have bounded := carries.bounded
          rw [List.length_append]
          omega }

theorem closeReceiver (carries : queue.Carries requests) :
    queue.closeReceiver.Carries requests where
  toHolds := carries.toHolds.closeReceiver
  capacity := carries.capacity
  bounded := carries.bounded

end RequestQueue.Carries

namespace Session

/-! ## The requests that are accepted -/

/-- A request that was accepted for the stream in the slot. -/
structure Acceptance where
  stream : Nat
  call : Nat
  request : SubscribeRequest

def stepAcceptances (_before : Session) (action : Action) (after : Session) : List Acceptance :=
  match action with
  | .runSection call =>
    match after.slot.receiveTask, after.calls[call]? with
    | some stream, some (.register _ request (some (.ok ()))) => [{ stream, call, request }]
    | _, _ => []
  | _ => []

def requestsTo (stream : Nat) (acceptances : List Acceptance) : List SubscribeRequest :=
  (acceptances.filter (·.stream = stream)).map Acceptance.request

def queues (session : Session) : List RequestQueue := session.tasks.map ReceiveTask.queue

/-- Every queue carries what was accepted for its stream, and nothing was accepted for a stream that
was not started. -/
structure Carried (queues : List RequestQueue) (acceptances : List Acceptance) : Prop where
  each : ∀ (stream : Nat) (queue : RequestQueue), queues[stream]? = some queue →
    queue.Carries (requestsTo stream acceptances)
  started : ∀ acceptance ∈ acceptances, acceptance.stream < queues.length

variable {session next final : Session} {action : Action} {acceptances : List Acceptance}
variable {queues : List RequestQueue} {queue : RequestQueue} {stream call : Nat}
variable {metadata : CallMetadata} {request : SubscribeRequest}

theorem requestsTo_append {more : List Acceptance} :
    requestsTo stream (acceptances ++ more)
      = requestsTo stream acceptances ++ requestsTo stream more := by
  simp [requestsTo]

theorem requestsTo_of_not_started
    (started : ∀ acceptance ∈ acceptances, acceptance.stream < stream) :
    requestsTo stream acceptances = [] := by
  simp only [requestsTo, List.map_eq_nil_iff, List.filter_eq_nil_iff, decide_eq_true_eq]
  intro acceptance member
  exact Nat.ne_of_lt (started acceptance member)

theorem stepAcceptances_of_error {error : SessionError}
    (get : next.calls[call]? = some (.register metadata request (some (.error error)))) :
    stepAcceptances session (.runSection call) next = [] := by
  simp only [stepAcceptances, get]
  cases next.slot.receiveTask <;> rfl

/-- A target takes from a queue or closes it. -/
theorem Carried.set (carried : Carried queues acceptances)
    (carries : queue.Carries (requestsTo stream acceptances)) :
    Carried (queues.set stream queue) acceptances where
  each other found get := by
    obtain ⟨rfl, rfl⟩ | ⟨-, there⟩ := getElem?_set_inv get
    · exact carries
    · exact carried.each other found there
  started acceptance member := by
    rw [List.length_set]
    exact carried.started acceptance member

/-- A stream starts with an empty queue. -/
theorem Carried.snoc (carried : Carried queues acceptances) :
    Carried (queues ++ [{ capacity := streamQueueCapacity }]) acceptances where
  each other found get := by
    obtain there | ⟨rfl, rfl⟩ := getElem?_snoc_inv get
    · exact carried.each other found there
    · rw [requestsTo_of_not_started carried.started]
      exact .empty
  started acceptance member := by
    have before := carried.started acceptance member
    rw [List.length_append]
    omega

/-- A request is put into a queue. -/
theorem Carried.push (carried : Carried queues acceptances) {pushed : RequestQueue}
    (get : queues[stream]? = some queue) (accepted : queue.push? request = some pushed) :
    Carried (queues.set stream pushed) (acceptances ++ [⟨stream, call, request⟩]) where
  each other found there := by
    rw [requestsTo_append]
    obtain ⟨rfl, rfl⟩ | ⟨different, there⟩ := getElem?_set_inv there
    · have own : requestsTo other [⟨other, call, request⟩] = [request] := by
        simp [requestsTo]
      rw [own]
      exact (carried.each other queue get).push accepted
    · have none : requestsTo other [⟨stream, call, request⟩] = [] := by
        simp [requestsTo, Ne.symm different]
      rw [none, List.append_nil]
      exact carried.each other found there
  started acceptance member := by
    rw [List.length_set]
    rcases List.mem_append.mp member with old | new
    · exact carried.started acceptance old
    · cases List.mem_singleton.mp new
      exact (List.getElem?_eq_some_iff.mp get).1

/-! ## The queues in a step -/

theorem map_queue_set {tasks : List ReceiveTask} {task after : ReceiveTask}
    (get : tasks[stream]? = some task) (same : after.queue = task.queue) :
    (tasks.set stream after).map ReceiveTask.queue = tasks.map ReceiveTask.queue := by
  obtain ⟨bound, rfl⟩ := List.getElem?_eq_some_iff.mp get
  have bound' : stream < (tasks.map ReceiveTask.queue).length := by rwa [List.length_map]
  have own : tasks[stream].queue = (tasks.map ReceiveTask.queue)[stream] := by
    rw [List.getElem_map]
  rw [List.map_set, same, own, List.set_getElem_self]

inductive QueuesStep (session : Session) (action : Action) (next : Session) : Prop where
  | kept (none : stepAcceptances session action next = [])
      (queues : next.queues = session.queues)
  -- The target takes a request or stops to listen
  | drawn {stream : Nat} {queue after : RequestQueue}
      (none : stepAcceptances session action next = [])
      (get : session.queues[stream]? = some queue)
      (taken : queue.receive? = some after ∨ after = queue.closeReceiver)
      (queues : next.queues = session.queues.set stream after)
  -- A registration is at the slot
  | register {call : Nat} {metadata : CallMetadata} {request : SubscribeRequest}
      (ran : action = .runSection call)
      (pending : session.calls[call]? = some (.register metadata request none))
      (registered : next = (session.registerSection call metadata request).release)

theorem cancelHeld_queues (session : Session) : session.cancelHeld.queues = session.queues := by
  obtain same | ⟨id, task, get, changed⟩ := cancelHeld_changes session
  · rw [same]
  · rw [changed]
    exact map_queue_set get rfl

theorem runSection_queues (ran : session.runSection call = some next) :
    QueuesStep session (.runSection call) next := by
  obtain ⟨-, ⟨metadata, request, pending, rfl⟩ | ⟨get, rfl⟩ | ⟨get, rfl⟩ | ⟨get, rfl⟩⟩ :=
    runSection_inv ran
  · exact .register rfl pending rfl
  · have bound := (List.getElem?_eq_some_iff.mp get).1
    rw [takeSection_eq]
    refine .kept ?_ (cancelHeld_queues session)
    simp [stepAcceptances, release]
  · have bound := (List.getElem?_eq_some_iff.mp get).1
    refine .kept ?_ rfl
    simp [stepAcceptances, settleSection, release, setCall, bound]
  · have bound := (List.getElem?_eq_some_iff.mp get).1
    refine .kept ?_ rfl
    simp [stepAcceptances, release, setCall, bound]

theorem setQueue_queues {agent : Agent} {before after : RequestQueue}
    (none : stepAcceptances session action (session.setQueue after agent) = [])
    (has : session.queueOf? agent = some before)
    (taken : before.receive? = some after ∨ after = before.closeReceiver) :
    QueuesStep session action (session.setQueue after agent) := by
  obtain ⟨id, task, rfl, get, changed⟩ | ⟨id, run, -, -, changed⟩ | same :=
    setQueue_inv session after agent
  · simp only [queueOf?, get, Option.map_some, Option.some.injEq] at has
    subst has
    have there : session.queues[id]? = some task.queue := by
      simp only [Session.queues, List.getElem?_map, get, Option.map_some]
    refine .drawn none there taken ?_
    rw [changed]
    simp only [Session.queues, setTask, List.map_set]
  · exact .kept none (by rw [changed]; rfl)
  · exact .kept none (by rw [same])

theorem step_queues (stepped : session.step action = some next) :
    QueuesStep session action next := by
  cases action with
  | runSection call => exact runSection_queues stepped
  | receive remote =>
    obtain ⟨called, queue, rest, -, has, taken, rfl⟩ := receive_inv stepped
    exact setQueue_queues rfl has (.inl taken)
  | closeReceiver remote =>
    obtain ⟨called, queue, -, has, rfl⟩ := closeReceiver_inv stepped
    exact setQueue_queues rfl has (.inr rfl)
  | addKeys keys | setSuccessHandler handler | setFailureHandler handler | pass time =>
    cases stepped
    exact .kept rfl rfl
  | start demand =>
    obtain ⟨-, rfl⟩ := start_inv stepped
    exact .kept rfl rfl
  | dropClient =>
    obtain ⟨-, -, rfl⟩ := dropClient_inv stepped
    exact .kept rfl rfl
  | acquire agent =>
    obtain ⟨-, -, rfl⟩ := acquire_inv stepped
    exact .kept rfl rfl
  | resume call =>
    obtain ⟨task, -, -, rfl⟩ := resume_inv stepped
    exact .kept rfl rfl
  | abandon call =>
    obtain ⟨client, -, -, -, rfl⟩ := abandon_inv stepped
    exact .kept rfl rfl
  | placeTask id =>
    obtain ⟨task, get, -, ⟨deadline, -, rfl⟩ | ⟨-, rfl⟩⟩ := placeTask_inv stepped
    · exact .kept rfl (map_queue_set get rfl)
    · -- The task lets go of its queue, and nobody listens to it any longer
      have there : session.queues[id]? = some task.queue := by
        simp only [Session.queues, List.getElem?_map, get, Option.map_some]
      refine .drawn rfl there (.inr rfl) ?_
      simp only [Session.queues, setTask, List.map_set]
  | openTask id result =>
    obtain ⟨task, get, -, rfl⟩ := openTask_inv stepped
    exact .kept rfl (map_queue_set get rfl)
  | giveUpTask id =>
    obtain ⟨task, get, -, -, rfl⟩ := giveUpTask_inv stepped
    exact .kept rfl (map_queue_set get rfl)
  | readTask id arrival =>
    obtain ⟨task, get, -, -, ⟨response, -, ⟨-, rfl⟩ | ⟨-, rfl⟩⟩ | ⟨status, -, rfl⟩⟩ :=
      readTask_inv stepped
    · exact .kept rfl rfl
    · exact .kept rfl (map_queue_set get rfl)
    · exact .kept rfl (map_queue_set get rfl)
  | storeStatus id =>
    obtain ⟨task, status, get, -, -, rfl⟩ := storeStatus_inv stepped
    exact .kept rfl (map_queue_set get rfl)
  | finishTask id =>
    obtain ⟨task, status, get, -, -, rfl⟩ := finishTask_inv stepped
    exact .kept rfl (map_queue_set get rfl)
  | placeOnce call =>
    obtain ⟨run, -, -, ⟨deadline, -, rfl⟩ | ⟨-, rfl⟩⟩ := placeOnce_inv stepped
    · exact .kept rfl rfl
    · exact .kept rfl rfl
  | openOnce call result =>
    obtain ⟨run, -, -, rfl⟩ := openOnce_inv stepped
    exact .kept rfl rfl
  | readOnce call arrival =>
    obtain ⟨run, -, -, -, ⟨response, -, rfl⟩ | ⟨status, -, rfl⟩⟩ := readOnce_inv stepped
    · exact .kept rfl rfl
    · exact .kept rfl rfl

/-! ## Registrations -/

theorem Carried.ensureStream (carried : Carried session.queues acceptances) :
    Carried (session.ensureStream metadata).queues acceptances := by
  obtain ⟨-, started⟩ | ⟨-, same⟩ := ensureStream_inv session metadata
  · have added : (session.startStream metadata).queues
        = session.queues ++ [{ capacity := streamQueueCapacity }] := by
      simp only [Session.queues, startStream, List.map_append, List.map_singleton]
    rw [started, added]
    exact carried.snoc
  · rw [same]
    exact carried

/-- The stream for which a registration is accepted is the one in the slot. -/
theorem Carried.registerSection (carried : Carried session.queues acceptances)
    (orderly : Orderly session)
    (pending : session.calls[call]? = some (.register metadata request none)) :
    Carried (session.registerSection call metadata request).release.queues
      (acceptances ++ stepAcceptances session (.runSection call)
        (session.registerSection call metadata request).release) := by
  have bound := (List.getElem?_eq_some_iff.mp pending).1
  have ensured : Carried (session.ensureStream metadata).queues acceptances := carried.ensureStream
  rw [registerSection_eq]
  obtain ⟨-, refused⟩ | ⟨-, refused⟩ | ⟨stream, task, queue, writer, get, pushed, accepted⟩ :=
    writeRequest_inv (session.ensureStream metadata) request
  · rw [refused, stepAcceptances_of_error (List.getElem?_set_self bound), List.append_nil]
    exact ensured
  · rw [refused, stepAcceptances_of_error (List.getElem?_set_self bound), List.append_nil]
    exact ensured
  · have held := (wired_ensureStream orderly.wired metadata).writer_task stream writer
    have there : (session.ensureStream metadata).queues[stream]? = some task.queue := by
      simp only [Session.queues, List.getElem?_map, get, Option.map_some]
    have carries : Carried ((session.ensureStream metadata).queues.set stream queue)
        (acceptances ++ [⟨stream, call, request⟩]) := ensured.push there pushed
    rw [accepted]
    simp only [stepAcceptances, release, setTask, List.getElem?_set_self bound, held]
    simpa only [Session.queues, List.map_set] using carries

theorem Carried.step (carried : Carried session.queues acceptances) (orderly : Orderly session)
    (stepped : session.step action = some next) :
    Carried next.queues (acceptances ++ stepAcceptances session action next) := by
  cases step_queues stepped with
  | kept none queues =>
    rw [none, queues, List.append_nil]
    exact carried
  | drawn none get taken queues =>
    rw [none, queues, List.append_nil]
    have carries := carried.each _ _ get
    rcases taken with received | rfl
    · exact carried.set (carries.receive received)
    · exact carried.set carries.closeReceiver
  | register ran pending registered =>
    subst ran registered
    exact carried.registerSection orderly pending

/-! ## The calls whose requests are accepted -/

theorem mem_stepAcceptances {acceptance : Acceptance}
    (member : acceptance ∈ stepAcceptances session action next) :
    action = .runSection acceptance.call ∧ ∃ metadata, next.calls[acceptance.call]?
      = some (.register metadata acceptance.request (some (.ok ()))) := by
  simp only [stepAcceptances] at member
  split at member
  · split at member
    · next get =>
      cases List.mem_singleton.mp member
      exact ⟨rfl, _, get⟩
    · cases member
  · cases member

theorem stepAcceptances_length (session : Session) (action : Action) (next : Session) :
    (stepAcceptances session action next).length ≤ 1 := by
  simp only [stepAcceptances]
  split
  · split <;> simp
  · simp

/-- A registration that succeeds is accepted, for there is a stream in the slot that it writes to.
-/
theorem accepted_of_success (orderly : Orderly session)
    (entered : session.runSection call = some next)
    (pending : session.calls[call]? = some (.register metadata request none))
    (success : ((session.ensureStream metadata).writeRequest request).2 = .ok ()) :
    ∃ stream, stepAcceptances session (.runSection call) next = [⟨stream, call, request⟩] := by
  have bound := (List.getElem?_eq_some_iff.mp pending).1
  rw [runSection_of_register entered pending, registerSection_eq]
  obtain ⟨-, refused⟩ | ⟨-, refused⟩ | ⟨stream, task, queue, writer, -, -, accepted⟩ :=
    writeRequest_inv (session.ensureStream metadata) request
  · rw [refused] at success
    cases success
  · rw [refused] at success
    cases success
  · have held := (wired_ensureStream orderly.wired metadata).writer_task stream writer
    refine ⟨stream, ?_⟩
    rw [accepted]
    simp only [stepAcceptances, release, setTask, List.getElem?_set_self bound, held]

/-! ## Whole runs -/

variable {start : Session} {actions : List Action}

/-- The call has asked for this request in a run, with the rules that the counter had by then. -/
def Asked (start : Session) (actions : List Action) (call : Nat) (request : SubscribeRequest) :
    Prop :=
  ∃ earlier later metadata args asked list,
    actions = earlier ++ .start (.registerStream metadata args) :: later ∧
    start.run earlier = some asked ∧ asked.calls.length = call ∧ request = .subscribe list ∧
    list.mode = ListMode.stream.number ∧
    Subscribes args.sampleInterval asked.counter.keys list.subscription

structure Conveyed (start : Session) (actions : List Action) (final : Session) : Prop where
  -- Streams are numbered in the order of their start
  numbered : ∀ (stream : Nat) (task : ReceiveTask), final.tasks[stream]? = some task →
    task.generation = stream + 1
  -- The target receives what was accepted for the stream, from the first request on
  inOrder : ∀ (stream : Nat) (task : ReceiveTask), final.tasks[stream]? = some task →
    task.queue.received <+: requestsTo stream (start.trace stepAcceptances actions)
  -- At most sixteen requests are accepted and not received
  bounded : ∀ (stream : Nat) (task : ReceiveTask), final.tasks[stream]? = some task →
    (requestsTo stream (start.trace stepAcceptances actions)).length
      ≤ task.queue.received.length + 16
  -- They wait for the target as long as it listens
  kept : ∀ (stream : Nat) (task : ReceiveTask), final.tasks[stream]? = some task →
    task.queue.receiverOpen = true → task.queue.received ++ task.queue.waiting
      = requestsTo stream (start.trace stepAcceptances actions)
  -- A request is accepted for one stream, and once
  once : ((start.trace stepAcceptances actions).map Acceptance.call).Nodup
  -- It is accepted for a call that succeeds
  succeeded : ∀ acceptance ∈ start.trace stepAcceptances actions,
    acceptance.stream < final.tasks.length ∧ ∃ metadata, final.calls[acceptance.call]?
      = some (.register metadata acceptance.request (some (.ok ())))
  -- The request of a call that fails is not
  refused : ∀ (call : Nat) (client : ClientCall) (error : SessionError),
    final.calls[call]? = some client → client.outcome? = some (.error error) →
    ∀ acceptance ∈ start.trace stepAcceptances actions, acceptance.call ≠ call
  -- The request of a call that succeeds is
  complete : ∀ call metadata request,
    final.calls[call]? = some (.register metadata request (some (.ok ()))) →
    ∃ acceptance ∈ start.trace stepAcceptances actions,
      acceptance.call = call ∧ acceptance.request = request
  -- It asks for lasting samples of the rules that the counter had when the call was made
  asked : ∀ acceptance ∈ start.trace stepAcceptances actions,
    Asked start actions acceptance.call acceptance.request

theorem Asked.snoc (asked : Asked start actions call request) (action : Action) :
    Asked start (actions ++ [action]) call request := by
  obtain ⟨earlier, later, metadata, args, session, list, rfl, rest⟩ := asked
  refine ⟨earlier, later ++ [action], metadata, args, session, list, ?_, rest⟩
  simp

/-- A request that a session can make asks for samples of all its rules, in the mode of the call
and not in that of its options. -/
theorem prepare_subscribes {args : RpcArgs} {mode : StreamMode}
    (prepared : session.prepare metadata args mode = .ok request) :
    ∃ list, request = .subscribe list ∧ list.mode = mode.listMode.number ∧
      Subscribes args.sampleInterval session.counter.keys list.subscription := by
  simp only [prepare, RpcArgs.request] at prepared
  split at prepared
  · cases prepared
  split at prepared
  · cases prepared
  split at prepared
  · next made =>
    cases prepared
    split at made
    · cases made
      exact ⟨_, rfl, rfl, subscribes_map _ _⟩
    · cases made
  · cases prepared

theorem run_asked (silent : start.calls = []) (ran : start.run actions = some final) :
    ∀ call metadata request outcome,
      final.calls[call]? = some (.register metadata request outcome) →
        Asked start actions call request := by
  refine run_induction (motive := fun actions final => ∀ call metadata request outcome,
    final.calls[call]? = some (.register metadata request outcome) →
      Asked start actions call request) ran ?_ ?_
  · intro call metadata request outcome get
    rw [silent] at get
    cases get
  · intro before last action next earlier asked stepped call metadata request outcome get
    cases step_register stepped get with
    | same there => exact (asked call metadata request outcome there).snoc action
    | @start args started place prepared =>
      obtain ⟨list, same, mode, subscribes⟩ := prepare_subscribes prepared
      subst started place
      exact ⟨before, [], metadata, args, last, list, rfl, earlier, rfl, same, mode, subscribes⟩
    | enter _ pending => exact (asked call metadata request none pending).snoc action

theorem run_succeeded (ran : start.run actions = some final) :
    ∀ acceptance ∈ start.trace stepAcceptances actions, ∃ metadata,
      final.calls[acceptance.call]?
        = some (.register metadata acceptance.request (some (.ok ()))) := by
  refine run_induction (motive := fun actions final =>
    ∀ acceptance ∈ start.trace stepAcceptances actions, ∃ metadata,
      final.calls[acceptance.call]?
        = some (.register metadata acceptance.request (some (.ok ())))) ran ?_ ?_
  · intro acceptance member
    cases member
  · intro before last action next earlier succeeded stepped acceptance member
    rw [trace_snoc earlier stepped, List.mem_append] at member
    rcases member with old | new
    · obtain ⟨metadata, get⟩ := succeeded acceptance old
      exact ⟨metadata, step_returned stepped get (by simp) rfl⟩
    · exact (mem_stepAcceptances new).2

theorem run_once (ran : start.run actions = some final) :
    ((start.trace stepAcceptances actions).map Acceptance.call).Nodup := by
  refine run_induction (motive := fun actions _ =>
    ((start.trace stepAcceptances actions).map Acceptance.call).Nodup) ran List.nodup_nil ?_
  intro before last action next earlier nodup stepped
  rw [trace_snoc earlier stepped, List.map_append, List.nodup_append]
  refine ⟨nodup, ?_, ?_⟩
  · have short := stepAcceptances_length last action next
    match stepAcceptances last action next, short with
    | [], _ => exact List.nodup_nil
    | [acceptance], _ => exact List.pairwise_singleton _ _
  · -- A call that was accepted before has returned, so it is not the one that enters now
    intro call old other new same
    subst same
    obtain ⟨first, accepted, rfl⟩ := List.mem_map.mp old
    obtain ⟨second, now, same⟩ := List.mem_map.mp new
    obtain ⟨metadata, get⟩ := run_succeeded earlier first accepted
    obtain ⟨rfl, -⟩ := mem_stepAcceptances now
    obtain ⟨client, there, running⟩ := acting_inProgress stepped rfl
    rw [same, get] at there
    cases there
    cases running

theorem run_complete (reachable : Reachable start) (silent : start.calls = [])
    (ran : start.run actions = some final) :
    ∀ call metadata request,
      final.calls[call]? = some (.register metadata request (some (.ok ()))) →
      ∃ acceptance ∈ start.trace stepAcceptances actions,
        acceptance.call = call ∧ acceptance.request = request := by
  refine run_induction (motive := fun actions final => ∀ call metadata request,
    final.calls[call]? = some (.register metadata request (some (.ok ()))) →
      ∃ acceptance ∈ start.trace stepAcceptances actions,
        acceptance.call = call ∧ acceptance.request = request) ran ?_ ?_
  · intro call metadata request get
    rw [silent] at get
    cases get
  · intro before last action next earlier complete stepped call metadata request get
    rw [trace_snoc earlier stepped]
    generalize result : some (Except.ok ()) = outcome at get
    cases step_register stepped get with
    | same there =>
      subst result
      obtain ⟨acceptance, member, own⟩ := complete call metadata request there
      exact ⟨acceptance, List.mem_append_left _ member, own⟩
    | start _ _ _ => cases result
    | enter ran pending =>
      subst ran
      have success := (Option.some.inj result).symm
      obtain ⟨stream, accepted⟩ :=
        accepted_of_success (reachable.run earlier).orderly stepped pending success
      rw [accepted]
      exact ⟨⟨stream, call, request⟩, by simp, rfl, rfl⟩

theorem run_carried (reachable : Reachable start) (empty : start.tasks = [])
    (ran : start.run actions = some final) :
    Carried final.queues (start.trace stepAcceptances actions) := by
  refine run_induction (motive := fun actions final =>
    Carried final.queues (start.trace stepAcceptances actions)) ran ?_ ?_
  · exact
      { each := fun stream queue get => by simp [Session.queues, empty] at get
        started := fun acceptance member => by cases member }
  · intro before last action next earlier carried stepped
    rw [trace_snoc earlier stepped]
    exact carried.step (reachable.run earlier).orderly stepped

/-- What a target has received of a stream are the requests of the registrations that succeeded
while the stream was in the slot, in their order and from the first on, and all but sixteen at most.
What other registrations asked for is in none of them. -/
theorem requests_conveyed {counter : Counter} {onSuccess : Option SuccessHandler}
    {onFailure : Option FailureHandler} {now : Nat}
    (ran : (fresh counter onSuccess onFailure now).run actions = some final) :
    Conveyed (fresh counter onSuccess onFailure now) actions final := by
  have begun : Reachable (fresh counter onSuccess onFailure now) := .fresh _ _ _
  have carried := run_carried begun rfl ran
  have succeeded := run_succeeded ran
  have each : ∀ (stream : Nat) (task : ReceiveTask), final.tasks[stream]? = some task →
      task.queue.Carries
        (requestsTo stream
          ((fresh counter onSuccess onFailure now).trace stepAcceptances actions)) := by
    intro stream task get
    apply carried.each
    simp only [Session.queues, List.getElem?_map, get, Option.map_some]
  exact
    { numbered := (begun.run ran).orderly.wired.task_generation
      inOrder := fun stream task get => (each stream task get).received_inOrder
      bounded := fun stream task get => (each stream task get).bounded
      kept := fun stream task get listens => (each stream task get).kept listens
      once := run_once ran
      succeeded := by
        intro acceptance member
        have started := carried.started acceptance member
        rw [Session.queues, List.length_map] at started
        exact ⟨started, succeeded acceptance member⟩
      refused := by
        rintro call client error get failed acceptance member rfl
        obtain ⟨metadata, there⟩ := succeeded acceptance member
        cases get.symm.trans there
        cases failed
      complete := run_complete begun rfl ran
      asked := by
        intro acceptance member
        obtain ⟨metadata, get⟩ := succeeded acceptance member
        exact run_asked rfl ran acceptance.call metadata acceptance.request _ get }

def twoStreams : List Action :=
  [.start (.registerStream admin {}), .acquire (.call 0), .runSection 0,
    .addKeys [⟨"web", "drop"⟩], .start (.registerStream admin {}), .acquire (.call 1),
    .runSection 1, .placeTask 0, .receive 0, .start .close, .acquire (.call 2), .runSection 2,
    .start (.registerStream admin {}), .acquire (.call 3), .runSection 3]

theorem requests_conveyed_twoStreams :
    ∃ final, (fresh {} none none).run twoStreams = some final ∧
      ((fresh {} none none).trace stepAcceptances twoStreams).map
        (fun acceptance => (acceptance.stream, acceptance.call)) = [(0, 0), (0, 1), (1, 3)] ∧
      final.tasks.map (fun task => (task.queue.received.length, task.queue.waiting.length))
        = [(1, 1), (0, 1)] ∧
      Conveyed (fresh {} none none) twoStreams final := by
  have happens : ∃ final, (fresh {} none none).run twoStreams = some final ∧
      ((fresh {} none none).trace stepAcceptances twoStreams).map
        (fun acceptance => (acceptance.stream, acceptance.call)) = [(0, 0), (0, 1), (1, 3)] ∧
      final.tasks.map (fun task => (task.queue.received.length, task.queue.waiting.length))
        = [(1, 1), (0, 1)] := ⟨_, rfl, rfl, rfl⟩
  obtain ⟨final, ran, accepted, conveyed⟩ := happens
  exact ⟨final, ran, accepted, conveyed, requests_conveyed ran⟩

end Session

end PbrTelemetry
