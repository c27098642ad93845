import PbrTelemetry.Session.Step

/-!
# What an operation does

One lemma for each operation of a session: when it is possible, and what the session is afterwards.
Nothing else opens the operations.
-/

namespace PbrTelemetry

/-! ## Places in a list -/

section

variable {α : Type} {entries : List α} {entry found : α} {place other : Nat}

theorem getElem?_set_inv (get : (entries.set place entry)[other]? = some found) :
    (other = place ∧ found = entry) ∨ (other ≠ place ∧ entries[other]? = some found) := by
  rw [List.getElem?_set] at get
  split at get
  · next same =>
    split at get
    · cases get
      exact .inl ⟨same.symm, rfl⟩
    · cases get
  · next different => exact .inr ⟨fun same => different same.symm, get⟩

theorem getElem?_snoc_inv (get : (entries ++ [entry])[other]? = some found) :
    entries[other]? = some found ∨ (other = entries.length ∧ found = entry) := by
  rw [List.getElem?_append] at get
  split at get
  · exact .inl get
  · rw [List.getElem?_singleton] at get
    split at get
    · cases get
      exact .inr ⟨by omega, rfl⟩
    · cases get

end

namespace Session

variable {session next : Session} {id : Nat}

/-! ## The client -/

theorem start_inv {demand : Demand} (started : session.start demand = some next) :
    session.dropped = false ∧
      next = { session with calls := session.calls ++ [session.newCall demand] } := by
  simp only [start] at started
  split at started
  · cases started
  · next kept =>
    cases started
    exact ⟨by simpa using kept, rfl⟩

theorem dropClient_inv (done : session.dropClient = some next) :
    session.dropped = false ∧ (∀ call ∈ session.calls, call.inProgress = false) ∧
      next = { session with dropped := true } := by
  simp only [dropClient] at done
  split at done
  · cases done
  · next idle =>
    cases done
    simp only [List.any_eq_true, not_or, Bool.not_eq_true, not_exists, not_and] at idle
    exact ⟨idle.1, idle.2, rfl⟩

theorem resume_inv (resumed : session.resume id = some next) :
    ∃ task, session.calls[id]? = some (.close (.awaiting task)) ∧
      (session.tasks[task]?).map ReceiveTask.stage = some .finished ∧
      next = session.setCall id (.close .settling) := by
  simp only [resume] at resumed
  split at resumed
  · next task waiting =>
    split at resumed
    · next ended =>
      cases resumed
      exact ⟨task, waiting, ended, rfl⟩
    · cases resumed
  · cases resumed

theorem abandon_inv (left : session.abandon id = some next) :
    ∃ call, session.calls[id]? = some call ∧ call.inProgress = true ∧
      session.lock ≠ some (.call id) ∧ next = session.setCall id call.givenUp := by
  simp only [abandon] at left
  split at left
  · next call get =>
    split at left
    · next waits =>
      cases left
      exact ⟨call, get, waits.1, waits.2, rfl⟩
    · cases left
  · cases left

/-! ## The lock -/

theorem acquire_inv {agent : Agent} (acquired : session.acquire agent = some next) :
    session.lock = none ∧ session.needsLock agent = true ∧
      next = { session with lock := some agent } := by
  simp only [acquire] at acquired
  split at acquired
  · next free =>
    cases acquired
    exact ⟨free.1, free.2, rfl⟩
  · cases acquired

theorem runSection_inv (done : session.runSection id = some next) :
    session.lock = some (.call id) ∧
      ((∃ metadata request, session.calls[id]? = some (.register metadata request none) ∧
          next = (session.registerSection id metadata request).release) ∨
        (session.calls[id]? = some (.close .taking) ∧ next = (session.takeSection id).release) ∨
        (session.calls[id]? = some (.close .settling) ∧
          next = (session.settleSection id).release) ∨
        (session.calls[id]? = some (.inspect none) ∧
          next = (session.setCall id (.inspect (some session.slot.phase))).release)) := by
  simp only [runSection] at done
  split at done
  · next held =>
    refine ⟨held, ?_⟩
    split at done
    · next metadata request get =>
      cases done
      exact .inl ⟨metadata, request, get, rfl⟩
    · next get =>
      cases done
      exact .inr (.inl ⟨get, rfl⟩)
    · next get =>
      cases done
      exact .inr (.inr (.inl ⟨get, rfl⟩))
    · next get =>
      cases done
      exact .inr (.inr (.inr ⟨get, rfl⟩))
    · cases done
  · cases done

theorem runSection_of_register {metadata : CallMetadata} {request : SubscribeRequest}
    (done : session.runSection id = some next)
    (pending : session.calls[id]? = some (.register metadata request none)) :
    next = (session.registerSection id metadata request).release := by
  obtain ⟨-, ⟨_, _, get, same⟩ | ⟨get, -⟩ | ⟨get, -⟩ | ⟨get, -⟩⟩ := runSection_inv done
  · cases pending.symm.trans get
    exact same
  · cases pending.symm.trans get
  · cases pending.symm.trans get
  · cases pending.symm.trans get

theorem runSection_of_taking (done : session.runSection id = some next)
    (taking : session.calls[id]? = some (.close .taking)) :
    next = (session.takeSection id).release := by
  obtain ⟨-, ⟨_, _, get, -⟩ | ⟨-, same⟩ | ⟨get, -⟩ | ⟨get, -⟩⟩ := runSection_inv done
  · cases taking.symm.trans get
  · exact same
  · cases taking.symm.trans get
  · cases taking.symm.trans get

theorem runSection_lock (done : session.runSection id = some next) : next.lock = none := by
  obtain ⟨-, ⟨_, _, -, rfl⟩ | ⟨-, rfl⟩ | ⟨-, rfl⟩ | ⟨-, rfl⟩⟩ := runSection_inv done <;> rfl

/-! ## Sections -/

theorem ensureStream_inv (session : Session) (metadata : CallMetadata) :
    (session.slot.receiveTask = none ∧
        session.ensureStream metadata = session.startStream metadata) ∨
      (session.slot.receiveTask.isSome ∧ session.ensureStream metadata = session) := by
  simp only [ensureStream]
  cases session.slot.receiveTask with
  | none => exact .inl ⟨rfl, rfl⟩
  | some id => exact .inr ⟨rfl, rfl⟩

/-- A request is refused because the stream is over, refused by the queue, or accepted by it. -/
theorem writeRequest_inv (session : Session) (request : SubscribeRequest) :
    (session.slot.writer = none ∧ session.writeRequest request =
        (session, .error (.rpcFailure (session.slot.finalStatus.getD .alreadyClosed)))) ∨
      (session.slot.writer.isSome ∧
        session.writeRequest request = (session, .error .writesFailed)) ∨
      (∃ id task queue, session.slot.writer = some id ∧ session.tasks[id]? = some task ∧
        task.queue.push? request = some queue ∧
        session.writeRequest request = (session.setTask id { task with queue }, .ok ())) := by
  simp only [writeRequest]
  cases writer : session.slot.writer with
  | none => exact .inl ⟨rfl, rfl⟩
  | some id =>
    refine .inr ?_
    cases get : session.tasks[id]? with
    | none => exact .inl ⟨rfl, by simp only [get]⟩
    | some task =>
      cases pushed : task.queue.push? request with
      | none => exact .inl ⟨rfl, by simp only [get, pushed]⟩
      | some queue => exact .inr ⟨id, task, queue, rfl, get, pushed, by simp only [get, pushed]⟩

theorem ensureStream_calls (session : Session) (metadata : CallMetadata) :
    (session.ensureStream metadata).calls = session.calls := by
  obtain ⟨-, started⟩ | ⟨-, same⟩ := ensureStream_inv session metadata
  · rw [started]
    rfl
  · rw [same]

/-- Writing a request changes the queue of a task at most. -/
theorem writeRequest_changes (session : Session) (request : SubscribeRequest) :
    (session.writeRequest request).1 = session ∨
      ∃ id task queue, session.tasks[id]? = some task ∧
        (session.writeRequest request).1 = session.setTask id { task with queue } := by
  obtain ⟨-, same⟩ | ⟨-, same⟩ | ⟨id, task, queue, -, get, -, changed⟩ :=
    writeRequest_inv session request
  · exact .inl (by rw [same])
  · exact .inl (by rw [same])
  · exact .inr ⟨id, task, queue, get, by rw [changed]⟩

theorem writeRequest_calls (session : Session) (request : SubscribeRequest) :
    (session.writeRequest request).1.calls = session.calls := by
  obtain same | ⟨id, task, queue, -, changed⟩ := writeRequest_changes session request
  · rw [same]
  · rw [changed]
    rfl

theorem writeRequest_slot (session : Session) (request : SubscribeRequest) :
    (session.writeRequest request).1.slot = session.slot ∧
      (session.writeRequest request).1.tasks.length = session.tasks.length := by
  obtain same | ⟨id, task, queue, -, changed⟩ := writeRequest_changes session request
  · rw [same]
    exact ⟨rfl, rfl⟩
  · rw [changed]
    exact ⟨rfl, List.length_set⟩

theorem registerSection_eq (session : Session) (id : Nat) (metadata : CallMetadata)
    (request : SubscribeRequest) :
    session.registerSection id metadata request =
      { ((session.ensureStream metadata).writeRequest request).1 with
        calls := session.calls.set id (.register metadata request
          (some ((session.ensureStream metadata).writeRequest request).2)) } := by
  have calls := writeRequest_calls (session.ensureStream metadata) request
  rw [ensureStream_calls] at calls
  rw [← calls]
  rfl

def cancelHeld (session : Session) : Session :=
  match session.slot.cancel with
  | some id => session.cancelTask id
  | none => session

def takenStage : Option Nat → CloseStage
  | some id => .awaiting id
  | none => .returned

theorem takeSection_eq (session : Session) (id : Nat) :
    session.takeSection id =
      { session.cancelHeld with
        slot := { session.slot with writer := none, cancel := none, receiveTask := none }
        calls := session.cancelHeld.calls.set id
          (.close (takenStage session.slot.receiveTask)) } := by
  simp only [takeSection]
  cases session.slot.receiveTask <;> rfl

theorem cancelHeld_of_none (empty : session.slot.cancel = none) : session.cancelHeld = session := by
  simp only [cancelHeld]
  rw [empty]

theorem cancelHeld_of_some {task : ReceiveTask} (cancel : session.slot.cancel = some id)
    (get : session.tasks[id]? = some task) :
    session.cancelHeld = session.setTask id { task with cancelled := true } := by
  simp only [cancelHeld]
  rw [cancel]
  simp only [cancelTask, get]

/-- At most one task is cancelled. -/
theorem cancelHeld_changes (session : Session) : session.cancelHeld = session ∨
    ∃ id task, session.tasks[id]? = some task ∧
      session.cancelHeld = session.setTask id { task with cancelled := true } := by
  cases cancel : session.slot.cancel with
  | none => exact .inl (cancelHeld_of_none cancel)
  | some id =>
    cases get : session.tasks[id]? with
    | none => exact .inl (by simp only [cancelHeld, cancel, cancelTask, get])
    | some task => exact .inr ⟨id, task, get, cancelHeld_of_some cancel get⟩

theorem cancelHeld_calls (session : Session) : session.cancelHeld.calls = session.calls := by
  obtain same | ⟨id, task, -, changed⟩ := cancelHeld_changes session
  · rw [same]
  · rw [changed]
    rfl

/-! ## Receive tasks -/

/-- The clock cannot come to the deadline of a call exactly if the call has a time that reaches
beyond the last reading. -/
theorem deadlineOf?_eq_none_iff {metadata : CallMetadata} :
    session.deadlineOf? metadata = none ↔
      ∃ timeout, metadata.timeout = some timeout ∧ latestReading < session.now + timeout.nanos := by
  simp only [deadlineOf?]
  cases metadata.timeout with
  | none => simp
  | some timeout => simp

/-- A task that starts to run places its remote call, or breaks down. -/
theorem placeTask_inv (placed : session.placeTask id = some next) :
    ∃ task, session.tasks[id]? = some task ∧ task.stage = .spawned ∧
      ((∃ deadline, session.deadlineOf? task.metadata = some deadline ∧
          next = (session.setTask id { task with stage := .opening, deadline }).placeCall
            (.task id) task.metadata) ∨
        (session.deadlineOf? task.metadata = none ∧
          next = session.setTask id
            { task with stage := .finished, queue := task.queue.closeReceiver })) := by
  simp only [placeTask] at placed
  split at placed
  · next task get =>
    split at placed
    · next spawned =>
      refine ⟨task, get, spawned, ?_⟩
      split at placed
      · next deadline timely =>
        cases placed
        exact .inl ⟨deadline, timely, rfl⟩
      · next untimely =>
        cases placed
        exact .inr ⟨untimely, rfl⟩
    · cases placed
  · cases placed

def openedStage : Except Status Unit → TaskStage
  | .ok () => .reading
  | .error status => .ending status

theorem openTask_inv {result : Except Status Unit}
    (opened : session.openTask id result = some next) :
    ∃ task, session.tasks[id]? = some task ∧ task.stage = .opening ∧
      next = session.setTask id { task with stage := openedStage result } := by
  simp only [openTask] at opened
  split at opened
  · next task get =>
    split at opened
    · next opening =>
      refine ⟨task, get, opening, ?_⟩
      cases result <;> (cases opened; rfl)
    · cases opened
  · cases opened

theorem mayGiveUp_inv {task : ReceiveTask} (may : session.mayGiveUp task = true) :
    task.stage = .spawned ∨ task.stage = .opening := by
  simp only [mayGiveUp] at may
  split at may
  · next spawned => exact .inl spawned
  · next opening => exact .inr opening
  · cases may

theorem giveUpTask_inv (left : session.giveUpTask id = some next) :
    ∃ task, session.tasks[id]? = some task ∧ (task.stage = .spawned ∨ task.stage = .opening) ∧
      session.isCancelled task = true ∧
      next = session.setTask id { task with stage := .ending .cancelledByClient } := by
  simp only [giveUpTask] at left
  split at left
  · next task get =>
    split at left
    · next early =>
      cases left
      exact ⟨task, get, mayGiveUp_inv early.1, early.2, rfl⟩
    · cases left
  · cases left

def shown (session : Session) (response : SubscribeResponse) : List HandlerCall :=
  match session.counter.checkResponse response, session.onSuccess with
  | .ok stat, some handler => [.success handler.name (session.counter.accumulate stat)]
  | _, _ => []

def delivered (session : Session) (response : SubscribeResponse) : Session :=
  { session with
    counter := session.counter.accept response
    handled := session.handled ++ session.shown response }

theorem deliver_eq (session : Session) (response : SubscribeResponse) :
    (session.deliver response).1 = session.delivered response := by
  simp only [deliver, delivered, shown, Counter.accept]
  cases session.counter.checkResponse response with
  | error error => simp only [List.append_nil]
  | ok stat =>
    simp only [reportRecord]
    cases session.onSuccess with
    | none => simp only [List.append_nil]
    | some handler => rfl

theorem delivered_of_error {response : SubscribeResponse} {error : DecodeError}
    (unusable : session.counter.checkResponse response = .error error) :
    session.delivered response = session := by
  simp only [delivered, shown, Counter.accept, unusable, List.append_nil]

/-- The handler is not called for a response without a record, so it cannot break down over it. -/
theorem deliver_returned {response : SubscribeResponse} {error : DecodeError}
    (unusable : session.counter.checkResponse response = .error error) :
    (session.deliver response).2 = true := by
  simp only [deliver, unusable]

/-- A task that reads takes a response, after which its handler may have broken down, or it takes
the end of its call. -/
theorem readTask_inv {arrival : Arrival} (done : session.readTask id arrival = some next) :
    ∃ task, session.tasks[id]? = some task ∧ task.stage = .reading ∧
      session.isPossible (session.isCancelled task) task.deadline arrival = true ∧
      ((∃ response, arrival = .response response ∧
          ((session.deliver response).2 = true ∧ next = session.delivered response ∨
            (session.deliver response).2 = false ∧
              next = (session.delivered response).setTask id { task with stage := .finished })) ∨
        (∃ status, arrival.result = .error status ∧
          next = session.setTask id { task with stage := .ending status })) := by
  simp only [readTask] at done
  split at done
  · next task get =>
    split at done
    · next reading =>
      refine ⟨task, get, reading.1, reading.2, ?_⟩
      cases arrival with
      | response response =>
        refine .inl ⟨response, rfl, ?_⟩
        simp only [Arrival.result, deliver_eq] at done
        split at done
        · next returned =>
          cases done
          exact .inl ⟨returned, rfl⟩
        · next broken =>
          cases done
          exact .inr ⟨by simpa using broken, rfl⟩
      | status status =>
        cases done
        exact .inr ⟨status, rfl, rfl⟩
      | endOfStream =>
        cases done
        exact .inr ⟨_, rfl, rfl⟩
      | cancelled =>
        cases done
        exact .inr ⟨_, rfl, rfl⟩
      | expired =>
        cases done
        exact .inr ⟨_, rfl, rfl⟩
    · cases done
  · cases done

def storedSlot (slot : Slot) (generation : Nat) (status : Status) : Slot :=
  if slot.generation = generation then { slot with writer := none, finalStatus := some status }
  else slot

theorem storeStatus_inv (stored : session.storeStatus id = some next) :
    ∃ task status, session.tasks[id]? = some task ∧ task.stage = .ending status ∧
      session.lock = some (.task id) ∧
      next = { session.setTask id { task with stage := .reporting status } with
        slot := storedSlot session.slot task.generation status } := by
  simp only [storeStatus] at stored
  split at stored
  · next task get =>
    split at stored
    · next status ending =>
      split at stored
      · next held =>
        cases stored
        exact ⟨task, status, get, ending, held, rfl⟩
      · cases stored
    · cases stored
  · cases stored

def reported (session : Session) (status : Status) : List HandlerCall :=
  match session.onFailure with
  | some handler => if isFailure status then [.failure handler.name status] else []
  | none => []

theorem reportStatus_eq (session : Session) (status : Status) :
    session.reportStatus status =
      { session with handled := session.handled ++ session.reported status } := by
  obtain ⟨counter, onSuccess, onFailure, slot, lock, tasks, calls, remote, handled, dropped, now⟩ :=
    session
  cases onFailure with
  | none => simp only [reportStatus, reported, List.append_nil]
  | some handler =>
    simp only [reportStatus, reported]
    split
    · rfl
    · rw [List.append_nil]

theorem finishTask_inv (finished : session.finishTask id = some next) :
    ∃ task status, session.tasks[id]? = some task ∧ task.stage = .reporting status ∧
      session.lock = some (.task id) ∧
      next =
        { session with
          handled := session.handled ++ session.reported status
          tasks := session.tasks.set id { task with stage := .finished }
          lock := none } := by
  simp only [finishTask] at finished
  split at finished
  · next task get =>
    split at finished
    · next status reporting =>
      split at finished
      · next held =>
        cases finished
        exact ⟨task, status, get, reporting, held, by rw [reportStatus_eq]; rfl⟩
      · cases finished
    · cases finished
  · cases finished

/-! ## Single subscriptions -/

/-- A single subscription that starts to run places its remote call, or breaks down. -/
theorem placeOnce_inv (placed : session.placeOnce id = some next) :
    ∃ run, session.calls[id]? = some (.once run) ∧ run.stage = .placing ∧
      ((∃ deadline, session.deadlineOf? run.metadata = some deadline ∧
          next = (session.setCall id (.once { run with stage := .opening, deadline })).placeCall
            (.call id) run.metadata) ∨
        (session.deadlineOf? run.metadata = none ∧
          next = session.setCall id (.once { run with stage := .broken }))) := by
  simp only [placeOnce] at placed
  split at placed
  · next run get =>
    split at placed
    · next placing =>
      refine ⟨run, get, placing, ?_⟩
      split at placed
      · next deadline timely =>
        cases placed
        exact .inl ⟨deadline, timely, rfl⟩
      · next untimely =>
        cases placed
        exact .inr ⟨untimely, rfl⟩
    · cases placed
  · cases placed

def openedOnceStage : Except Status Unit → OnceStage
  | .ok () => .reading
  | .error status => .ended status

theorem openOnce_inv {result : Except Status Unit}
    (opened : session.openOnce id result = some next) :
    ∃ run, session.calls[id]? = some (.once run) ∧ run.stage = .opening ∧
      next = session.setCall id (.once { run with stage := openedOnceStage result }) := by
  simp only [openOnce] at opened
  split at opened
  · next run get =>
    split at opened
    · next opening =>
      refine ⟨run, get, opening, ?_⟩
      cases result <;> (cases opened; rfl)
    · cases opened
  · cases opened

/-- A single subscription that reads takes a response or the end of its call. -/
theorem readOnce_inv {arrival : Arrival} (done : session.readOnce id arrival = some next) :
    ∃ run, session.calls[id]? = some (.once run) ∧ run.stage = .reading ∧
      session.isPossible session.dropped run.deadline arrival = true ∧
      ((∃ response, arrival = .response response ∧
          next = { session with counter := session.counter.accept response }) ∨
        (∃ status, arrival.result = .error status ∧
          next = session.setCall id (.once { run with stage := .ended status }))) := by
  simp only [readOnce] at done
  split at done
  · next run get =>
    split at done
    · next reading =>
      refine ⟨run, get, reading.1, reading.2, ?_⟩
      cases arrival with
      | response response =>
        cases done
        exact .inl ⟨response, rfl, rfl⟩
      | status status =>
        cases done
        exact .inr ⟨status, rfl, rfl⟩
      | endOfStream =>
        cases done
        exact .inr ⟨_, rfl, rfl⟩
      | cancelled =>
        cases done
        exact .inr ⟨_, rfl, rfl⟩
      | expired =>
        cases done
        exact .inr ⟨_, rfl, rfl⟩
    · cases done
  · cases done

/-! ## The target -/

theorem setQueue_inv (session : Session) (queue : RequestQueue) (agent : Agent) :
    (∃ id task, agent = .task id ∧ session.tasks[id]? = some task ∧
        session.setQueue queue agent = session.setTask id { task with queue }) ∨
      (∃ id run, agent = .call id ∧ session.calls[id]? = some (.once run) ∧
        session.setQueue queue agent = session.setCall id (.once { run with queue })) ∨
      session.setQueue queue agent = session := by
  cases agent with
  | task id =>
    cases get : session.tasks[id]? with
    | none => exact .inr (.inr (by simp only [setQueue, get]))
    | some task => exact .inl ⟨id, task, rfl, get, by simp only [setQueue, get]⟩
  | call id =>
    simp only [setQueue]
    split
    · next run get => exact .inr (.inl ⟨id, run, rfl, get, rfl⟩)
    · exact .inr (.inr rfl)

theorem receive_inv (received : session.receive id = some next) :
    ∃ remote queue rest, session.remote[id]? = some remote ∧
      session.queueOf? remote.caller = some queue ∧ queue.receive? = some rest ∧
      next = session.setQueue rest remote.caller := by
  simp only [receive, Option.bind_eq_bind, Option.bind_eq_some_iff, Option.pure_def,
    Option.some.injEq] at received
  obtain ⟨remote, placed, queue, has, rest, taken, rfl⟩ := received
  exact ⟨remote, queue, rest, placed, has, taken, rfl⟩

theorem closeReceiver_inv (closed : session.closeReceiver id = some next) :
    ∃ remote queue, session.remote[id]? = some remote ∧
      session.queueOf? remote.caller = some queue ∧
      next = session.setQueue queue.closeReceiver remote.caller := by
  simp only [closeReceiver, Option.bind_eq_bind, Option.bind_eq_some_iff, Option.pure_def,
    Option.some.injEq] at closed
  obtain ⟨remote, placed, queue, has, rfl⟩ := closed
  exact ⟨remote, queue, placed, has, rfl⟩

end Session

end PbrTelemetry
