import PbrTelemetry.Proofs.Session.Barrier

/-!
# The statuses that registrations get

A registration that finds a stream without a writer fails with the status in the slot.  The status
got there from the task of the stream, long before or just now, and the slot may have changed hands
since.  This file follows a status on its way: a task comes to its end with it (`Action.stop?`), the
task leaves it in the slot (`stepEndings`), and a registration fails with it.

* `registrations_refused`: a stream that has ended with a status answers every registration with
  that status, until a close takes it; and no stream is without a writer and without a status.
* `rpcFailure_origin`: where the status of a failed call comes from.
* `rpcFailure_ok`: a status that is no failure, with which a registration fails all the same.

The step of the argument is `run_status`: the status in the slot is what the task in the slot has
left, and no other one.
-/

namespace PbrTelemetry

namespace Session

variable {start session next final here : Session} {action : Action} {actions : List Action}
variable {id call : Nat} {status : Status}

/-! ## The end of a task -/

def Action.stop? : Action → Option (Nat × Status)
  | .openTask id (.error status) => some (id, status)
  | .giveUpTask id => some (id, .cancelledByClient)
  | .readTask id arrival =>
    match arrival.result with
    | .error status => some (id, status)
    | .ok _ => none
  | _ => none

theorem Advance.stop? {task : ReceiveTask}
    (moved : Advance session id task action (.ending status)) :
    action.stop? = some (id, status) := by
  generalize reached : TaskStage.ending status = stage at moved
  cases moved with
  | connect _ result =>
    cases result with
    | ok _ => cases reached
    | error last =>
      cases reached
      rfl
  | giveUp _ _ =>
    cases reached
    rfl
  | stop _ last =>
    cases reached
    simp only [Action.stop?, last]
  | place _ | overrun _ _ | take _ _ | breakDown _ _ => cases reached

theorem stepEndings_eq {ended : Nat × Status}
    (left : ended ∈ stepEndings session action next) :
    action = .storeStatus ended.1 ∧ stageAt session.tasks ended.1 = some (.ending ended.2) := by
  simp only [stepEndings] at left
  split at left
  · split at left
    · next ending =>
      cases List.mem_singleton.mp left
      exact ⟨rfl, ending⟩
    · cases left
  · cases left

theorem run_stopped (empty : start.tasks = []) (ran : start.run actions = some final) :
    ∀ id status, stageAt final.tasks id = some (.ending status) →
      (id, status) ∈ actions.filterMap Action.stop? := by
  refine run_induction (motive := fun actions final => ∀ id status,
    stageAt final.tasks id = some (.ending status) →
      (id, status) ∈ actions.filterMap Action.stop?) ran ?_ ?_
  · intro id status ending
    rw [empty] at ending
    cases ending
  · intro before last action next earlier stopped stepped id status ending
    rw [List.filterMap_append, List.mem_append]
    cases step_stage stepped id with
    | rest _ kept => exact .inl (stopped id status (kept.symm.trans ending))
    | spawn _ _ spawned => cases spawned.symm.trans ending
    | advance _ moved reached =>
      cases reached.symm.trans ending
      exact .inr (by simp [moved.stop?])
    | store _ _ reporting => cases reporting.symm.trans ending
    | finish _ _ finished => cases finished.symm.trans ending

theorem run_endings_stopped (empty : start.tasks = []) (ran : start.run actions = some final) :
    ∀ ended ∈ start.trace stepEndings actions, ended ∈ actions.filterMap Action.stop? := by
  refine run_induction (motive := fun actions _ =>
    ∀ ended ∈ start.trace stepEndings actions, ended ∈ actions.filterMap Action.stop?) ran ?_ ?_
  · intro ended left
    cases left
  · intro before last action next earlier stopped stepped ended left
    rw [trace_snoc earlier stepped, List.mem_append] at left
    rw [List.filterMap_append]
    refine List.mem_append_left _ ?_
    rcases left with old | new
    · exact stopped ended old
    · exact run_stopped empty earlier ended.1 ended.2 (stepEndings_eq new).2

/-- A task that has left its status has nothing more to leave. -/
theorem run_ended (ran : start.run actions = some final) :
    ∀ ended ∈ start.trace stepEndings actions,
      stageAt final.tasks ended.1 = some (.reporting ended.2) ∨
        stageAt final.tasks ended.1 = some .finished := by
  refine run_induction (motive := fun actions final =>
    ∀ ended ∈ start.trace stepEndings actions,
      stageAt final.tasks ended.1 = some (.reporting ended.2) ∨
        stageAt final.tasks ended.1 = some .finished) ran ?_ ?_
  · intro ended left
    cases left
  · intro before last action next earlier past stepped ended left
    rw [trace_snoc earlier stepped, List.mem_append] at left
    rcases left with old | new
    · rcases past ended old with reporting | finished
      · cases step_stage stepped ended.1 with
        | rest _ kept => exact .inl (kept.trans reporting)
        | spawn _ absent _ => cases absent.symm.trans reporting
        | advance get moved _ =>
          rw [stageAt_of_get get, Option.some.injEq] at reporting
          exact absurd reporting (moved.not_ended ended.2).2
        | store _ ending _ => cases ending.symm.trans reporting
        | finish _ _ finished => exact .inr finished
      · exact .inr (finished_stays stepped finished)
    · obtain ⟨storing, ending⟩ := stepEndings_eq new
      cases step_stage stepped ended.1 with
      | rest other _ => exact absurd (by rw [storing]; rfl) other
      | spawn other _ _ => exact absurd (by rw [storing]; rfl) other
      | advance _ moved _ => exact absurd storing moved.not_terminal.2
      | store _ same reporting =>
        cases ending.symm.trans same
        exact .inl reporting
      | finish finishing _ _ => cases storing.symm.trans finishing

theorem run_not_ended (ran : start.run actions = some final) {leaving : Status}
    (ending : stageAt final.tasks id = some (.ending leaving)) (status : Status) :
    (id, status) ∉ start.trace stepEndings actions := by
  intro left
  rcases run_ended ran _ left with reporting | finished
  · cases ending.symm.trans reporting
  · cases ending.symm.trans finished

/-! ## The status in the slot -/

inductive StatusStep (session : Session) (action : Action) (next : Session) (id : Nat) : Prop where
  -- It was there before, and the task has left nothing
  | same (held : session.slot.receiveTask = some id)
      (silent : ∀ status, (id, status) ∉ stepEndings session action next)
      (kept : next.slot.finalStatus = session.slot.finalStatus)
  -- The stream of the task has started
  | start (new : id = session.tasks.length) (silent : stepEndings session action next = [])
      (cleared : next.slot.finalStatus = none)
  -- The task has left it
  | store {status : Status} (ending : stageAt session.tasks id = some (.ending status))
      (left : stepEndings session action next = [(id, status)])
      (stored : next.slot.finalStatus = some status)

theorem runSection_status (ran : session.runSection call = some next)
    (held : next.slot.receiveTask = some id) :
    StatusStep session (.runSection call) next id := by
  obtain ⟨-, ⟨metadata, request, -, rfl⟩ | ⟨-, rfl⟩ | ⟨-, rfl⟩ | ⟨-, rfl⟩⟩ := runSection_inv ran
  · rw [registerSection_eq] at held ⊢
    simp only [release, (writeRequest_slot (session.ensureStream metadata) request).1] at held
    obtain ⟨-, started⟩ | ⟨-, same⟩ := ensureStream_inv session metadata
    · rw [started] at held
      cases held
      refine .start rfl rfl ?_
      simp only [release, writeRequest_slot, started]
      rfl
    · rw [same] at held
      refine .same held (fun _ => List.not_mem_nil) ?_
      simp only [release, writeRequest_slot, same]
  · rw [takeSection_eq] at held
    cases held
  · exact .same held (fun _ => List.not_mem_nil) rfl
  · exact .same held (fun _ => List.not_mem_nil) rfl

theorem step_status (orderly : Orderly session) (stepped : session.step action = some next)
    (held : next.slot.receiveTask = some id) : StatusStep session action next id := by
  -- A task that acts without storing leaves nothing
  have quiet : (∀ other, action ≠ .storeStatus other) →
      ∀ status, (id, status) ∉ stepEndings session action next :=
    fun unlike status left => unlike id (stepEndings_eq left).1
  cases step_effect stepped with
  | aside none slot _ _ =>
    refine .same (by rw [← slot, held]) (quiet ?_) (by rw [slot])
    rintro other rfl
    cases none
  | queue _ none _ =>
    refine .same held (quiet ?_) rfl
    rintro other rfl
    cases none
  | advance _ _ moved _ _ slot _ _ =>
    refine .same (by rw [← slot, held]) (quiet ?_) (by rw [slot])
    rintro other rfl
    cases moved
  | finish _ _ _ => exact .same held (fun _ => List.not_mem_nil) rfl
  | acquire _ _ => exact .same held (fun _ => List.not_mem_nil) rfl
  | inSection _ ran => exact runSection_status ran held
  | @store storing task last get ending _ =>
    have stage : stageAt session.tasks storing = some (.ending last) := by
      rw [stageAt_of_get get, ending]
    have before : session.slot.receiveTask = some id := by
      simp only [storedSlot] at held
      split at held <;> exact held
    have left : stepEndings session (.storeStatus storing)
        { session.setTask storing { task with stage := .reporting last } with
          slot := storedSlot session.slot task.generation last } = [(storing, last)] := by
      simp only [stepEndings, stage]
    have own := orderly.wired.task_generation storing task get
    have number := orderly.wired.generation_eq
    have latest := orderly.wired.latest id before
    by_cases current : session.slot.generation = task.generation
    · have same : storing = id := by omega
      subst same
      exact .store stage left (by simp [storedSlot, current])
    · -- The slot is another stream's, so the status is thrown away
      refine .same before ?_ (by simp [storedSlot, current])
      rw [left]
      rintro status member
      cases List.mem_singleton.mp member
      omega

/-- The status in the slot is what the task in the slot has left. -/
theorem run_status (reachable : Reachable start) (empty : start.tasks = [])
    (ran : start.run actions = some final) :
    ∀ id status, final.slot.receiveTask = some id →
      (final.slot.finalStatus = some status ↔
        (id, status) ∈ start.trace stepEndings actions) := by
  refine run_induction (motive := fun actions final => ∀ id status,
    final.slot.receiveTask = some id → (final.slot.finalStatus = some status ↔
      (id, status) ∈ start.trace stepEndings actions)) ran ?_ ?_
  · intro id status held
    have latest := reachable.orderly.wired.latest id held
    simp [empty] at latest
  · intro before last action next earlier recorded stepped id status held
    rw [trace_snoc earlier stepped, List.mem_append]
    cases step_status (reachable.run earlier).orderly stepped held with
    | same there silent kept =>
      rw [kept, recorded id status there]
      exact ⟨.inl, fun left => left.resolve_right (silent status)⟩
    | start new silent cleared =>
      -- A task that was not there has left nothing
      have absent : (id, status) ∉ start.trace stepEndings before := by
        intro left
        have none : stageAt last.tasks id = none := by simp [stageAt, new]
        rcases run_ended earlier _ left with reporting | finished
        · cases none.symm.trans reporting
        · cases none.symm.trans finished
      simp [cleared, silent, absent]
    | @store left ending ends stored =>
      have absent := run_not_ended earlier ending status
      rw [stored, ends, List.mem_singleton, Option.some.injEq, Prod.mk.injEq]
      exact ⟨fun same => .inr ⟨rfl, same.symm⟩, fun found =>
        (found.resolve_left absent).2.symm⟩

/-- A registration that finds no writer finds the status that the task in the slot has left. -/
theorem run_recorded (reachable : Reachable start) (empty : start.tasks = [])
    (ran : start.run actions = some final) (metadata : CallMetadata)
    (unwritable : (final.ensureStream metadata).slot.writer = none) :
    ∃ id status, final.slot.receiveTask = some id ∧ final.slot.finalStatus = some status ∧
      (id, status) ∈ start.trace stepEndings actions := by
  obtain ⟨-, started⟩ | ⟨held, same⟩ := ensureStream_inv final metadata
  · rw [started] at unwritable
    cases unwritable
  · rw [same] at unwritable
    have wired := (reachable.run ran).orderly.wired
    have ended := (wired.writer_none_iff held).mp unwritable
    obtain ⟨status, stored⟩ := Option.isSome_iff_exists.mp ended
    obtain ⟨id, held⟩ := Option.isSome_iff_exists.mp held
    exact ⟨id, status, held, stored, (run_status reachable empty ran id status held).mp stored⟩

/-! ## Streams that have ended -/

/-- What registrations come to in a session: each fails with the status, and changes nothing but
itself. -/
structure Refuses (session : Session) (status : Status) : Prop where
  -- A registration that has the lock
  entering : ∀ call metadata request, session.lock = some (.call call) →
    session.calls[call]? = some (.register metadata request none) →
    session.runSection call = some { session with
      calls := session.calls.set call
        (.register metadata request (some (.error (.rpcFailure status))))
      lock := none }
  -- A registration from its start to its end
  whole : ∀ metadata args request, session.dropped = false → session.lock = none →
    session.prepare metadata args .stream = .ok request →
    session.run [.start (.registerStream metadata args), .acquire (.call session.calls.length),
        .runSection session.calls.length] = some { session with
      calls := session.calls ++
        [.register metadata request (some (.error (.rpcFailure status)))] }

theorem runSection_of_ended (session : Session) (held : session.slot.receiveTask = some id)
    (writer : session.slot.writer = none) (stored : session.slot.finalStatus = some status)
    {metadata : CallMetadata} {request : SubscribeRequest}
    (locked : session.lock = some (.call call))
    (pending : session.calls[call]? = some (.register metadata request none)) :
    session.runSection call = some { session with
      calls := session.calls.set call
        (.register metadata request (some (.error (.rpcFailure status))))
      lock := none } := by
  simp only [runSection, locked, pending, if_true, registerSection_of_ended held writer stored]
  rfl

theorem register_acquires {metadata : CallMetadata} {args : RpcArgs} {request : SubscribeRequest}
    (kept : session.dropped = false) (free : session.lock = none)
    (prepared : session.prepare metadata args .stream = .ok request) :
    session.run [.start (.registerStream metadata args), .acquire (.call session.calls.length)]
      = some { session with
          calls := session.calls ++ [.register metadata request none]
          lock := some (.call session.calls.length) } := by
  have new : session.newCall (.registerStream metadata args) = .register metadata request none := by
    simp only [newCall, prepared]
  simp [run, step, start, acquire, needsLock, kept, free, new]

theorem refuses_of_ended (held : session.slot.receiveTask = some id)
    (writer : session.slot.writer = none) (stored : session.slot.finalStatus = some status) :
    Refuses session status where
  entering _ _ _ locked pending :=
    runSection_of_ended session held writer stored locked pending
  whole metadata args request kept free prepared := by
    have entered := runSection_of_ended { session with
      calls := session.calls ++ [.register metadata request none]
      lock := some (.call session.calls.length) } held writer stored rfl
        List.getElem?_concat_length
    show session.run ([_, _] ++ [_]) = _
    rw [run_append, register_acquires kept free prepared, Option.bind_some]
    simp only [run, step, entered]
    simp [free]

/-- Only a close takes a stream out of the slot. -/
theorem step_keeps_held (held : session.slot.receiveTask = some id)
    (stepped : session.step action = some next) (kept : stepTakings session action next = []) :
    next.slot.receiveTask = some id := by
  cases step_held stepped with
  | same same _ => rw [same, held]
  | start empty _ _ => cases empty.symm.trans held
  | take ran taking _ _ =>
    subst ran
    simp [stepTakings, taking] at kept

theorem run_keeps_held (held : session.slot.receiveTask = some id)
    (ran : session.run actions = some final) (kept : session.trace stepTakings actions = []) :
    final.slot.receiveTask = some id :=
  run_unobserved (motive := fun session => session.slot.receiveTask = some id)
    (fun _ _ _ held stepped kept => step_keeps_held held stepped kept) ran kept held

structure Answered (start : Session) (actions : List Action) (session : Session) : Prop where
  -- A registration that finds no writer finds the status of the stream, so none has to be made up
  recorded : ∀ metadata, (session.ensureStream metadata).slot.writer = none → ∃ id status,
    session.slot.receiveTask = some id ∧ session.slot.finalStatus = some status ∧
      (id, status) ∈ start.trace stepEndings actions
  -- A task leaves one status at most
  once : ∀ (id : Nat) (first second : Status), (id, first) ∈ start.trace stepEndings actions →
    (id, second) ∈ start.trace stepEndings actions → first = second
  -- A stream that has ended refuses registrations with its status, until a close takes it
  refuses : ∀ id status, session.slot.receiveTask = some id →
    (id, status) ∈ start.trace stepEndings actions → ∀ between here,
    session.run between = some here → session.trace stepTakings between = [] →
    Refuses here status
  -- Whatever registrations have returned by then have failed with it
  returned : ∀ id status, session.slot.receiveTask = some id →
    (id, status) ∈ start.trace stepEndings actions → ∀ between here,
    session.run between = some here → session.trace stepTakings between = [] →
    ∀ (call : Nat) (metadata : CallMetadata) (request : SubscribeRequest) (outcome : Outcome),
      here.calls[call]? = some (.register metadata request (some outcome)) →
      session.calls[call]? = some (.register metadata request (some outcome)) ∨
        outcome = .error (.rpcFailure status)

theorem run_endings_once (ran : start.run actions = some final) :
    ∀ id first second, (id, first) ∈ start.trace stepEndings actions →
      (id, second) ∈ start.trace stepEndings actions → first = second := by
  refine run_induction (motive := fun actions _ => ∀ id first second,
    (id, first) ∈ start.trace stepEndings actions →
      (id, second) ∈ start.trace stepEndings actions → first = second) ran ?_ ?_
  · intro id first second left
    cases left
  · intro before last action next earlier once stepped id first second one other
    have apart : ∀ old new, (id, old) ∈ start.trace stepEndings before →
        (id, new) ∉ stepEndings last action next :=
      fun old _ left leaves => run_not_ended earlier (stepEndings_eq leaves).2 old left
    rw [trace_snoc earlier stepped, List.mem_append] at one other
    rcases one with one | one <;> rcases other with other | other
    · exact once id first second one other
    · exact absurd other (apart first second one)
    · exact absurd one (apart second first other)
    · have same := (stepEndings_eq one).2.symm.trans (stepEndings_eq other).2
      cases same
      rfl

theorem run_ended_slot {between : List Action} (reachable : Reachable start)
    (empty : start.tasks = []) (ran : start.run actions = some session)
    (held : session.slot.receiveTask = some id)
    (left : (id, status) ∈ start.trace stepEndings actions)
    (later : session.run between = some here) (kept : session.trace stepTakings between = []) :
    here.slot.receiveTask = some id ∧ here.slot.writer = none ∧
      here.slot.finalStatus = some status := by
  have still := run_keeps_held held later kept
  have all : start.run (actions ++ between) = some here := by
    rw [run_append, ran]
    exact later
  have stored : here.slot.finalStatus = some status := by
    rw [run_status reachable empty all id status still, trace_append ran]
    exact List.mem_append_left _ left
  have wired := ((reachable.run ran).run later).orderly.wired
  have unwritable := (wired.writer_none_iff (by simp [still])).mpr (by simp [stored])
  exact ⟨still, unwritable, stored⟩

theorem writeRequest_of_ended (held : session.slot.receiveTask = some id)
    (writer : session.slot.writer = none) (stored : session.slot.finalStatus = some status)
    (metadata : CallMetadata) (request : SubscribeRequest) :
    ((session.ensureStream metadata).writeRequest request).2 = .error (.rpcFailure status) := by
  simp [ensureStream, writeRequest, held, writer, stored]

theorem run_returned {between : List Action} (reachable : Reachable start)
    (empty : start.tasks = []) (ran : start.run actions = some session)
    (held : session.slot.receiveTask = some id)
    (left : (id, status) ∈ start.trace stepEndings actions)
    (later : session.run between = some here) (kept : session.trace stepTakings between = [])
    (metadata : CallMetadata) (request : SubscribeRequest) (outcome : Outcome) :
    here.calls[call]? = some (.register metadata request (some outcome)) →
      session.calls[call]? = some (.register metadata request (some outcome)) ∨
        outcome = .error (.rpcFailure status) := by
  refine run_induction (motive := fun between here => session.trace stepTakings between = [] →
    here.calls[call]? = some (.register metadata request (some outcome)) →
      session.calls[call]? = some (.register metadata request (some outcome)) ∨
        outcome = .error (.rpcFailure status)) later ?_ ?_ kept
  · exact fun _ get => .inl get
  · intro before last action next earlier returned stepped kept get
    rw [trace_snoc earlier stepped, List.append_eq_nil_iff] at kept
    generalize result : some outcome = answer at get
    cases step_register stepped get with
    | same there =>
      subst result
      exact returned kept.1 there
    | start _ _ _ => cases result
    | enter _ _ =>
      obtain ⟨still, writer, stored⟩ :=
        run_ended_slot reachable empty ran held left earlier kept.1
      rw [writeRequest_of_ended still writer stored, Option.some.injEq] at result
      exact .inr result

/-- A stream that has ended fails every registration with its own status, until a close takes it.
No registration ever finds a stream without a writer and without a status. -/
theorem registrations_refused {counter : Counter} {onSuccess : Option SuccessHandler}
    {onFailure : Option FailureHandler} {now : Nat}
    (ran : (fresh counter onSuccess onFailure now).run actions = some final) :
    Answered (fresh counter onSuccess onFailure now) actions final := by
  have begun : Reachable (fresh counter onSuccess onFailure now) := .fresh _ _ _
  exact
    { recorded := run_recorded begun rfl ran
      once := run_endings_once ran
      refuses := by
        intro id status held left between here later kept
        obtain ⟨still, writer, stored⟩ := run_ended_slot begun rfl ran held left later kept
        exact refuses_of_ended still writer stored
      returned := by
        intro id status held left between here later kept call metadata request outcome
        exact run_returned begun rfl ran held left later kept metadata request outcome }

theorem registrations_refused_refusedStream :
    ∃ final here, (fresh {} none none).run refusedStream = some final ∧
      final.slot.receiveTask = some 0 ∧
      (fresh {} none none).trace stepEndings refusedStream
        = [(0, ⟨.unavailable, "no target"⟩)] ∧
      final.run lateRegistration.tail = some here ∧
      final.trace stepTakings lateRegistration.tail = [] ∧
      Refuses here ⟨.unavailable, "no target"⟩ ∧
      Answered (fresh {} none none) refusedStream final := by
  have happens : ∃ final here, (fresh {} none none).run refusedStream = some final ∧
      final.slot.receiveTask = some 0 ∧
      (fresh {} none none).trace stepEndings refusedStream
        = [(0, ⟨.unavailable, "no target"⟩)] ∧
      final.run lateRegistration.tail = some here ∧
      final.trace stepTakings lateRegistration.tail = [] := ⟨_, _, rfl, rfl, rfl, rfl, rfl⟩
  obtain ⟨final, here, ran, held, ended, late, kept⟩ := happens
  have answered := registrations_refused ran
  have left : (0, ⟨.unavailable, "no target"⟩) ∈
      (fresh {} none none).trace stepEndings refusedStream := by
    rw [ended]
    exact List.mem_singleton_self _
  have refuses := answered.refuses 0 _ held left _ here late kept
  exact ⟨final, here, ran, held, ended, late, kept, refuses, answered⟩

/-! ## Where failures come from -/

inductive FailureOrigin (start : Session) (actions : List Action) (call : Nat) (status : Status) :
    ClientCall → Prop where
  -- The remote call of a single subscription has ended with it
  | once {run : OnceCall} (ended : run.stage = .ended status) (failed : status.code ≠ .ok) :
      FailureOrigin start actions call status (.once run)
  -- The task that was in the slot had come to its end with it, and had left it there, before the
  -- registration had the lock
  | register {metadata : CallMetadata} {request : SubscribeRequest} {earlier later : List Action}
      {there : Session} {id : Nat} (split : actions = earlier ++ .runSection call :: later)
      (ran : start.run earlier = some there) (held : there.slot.receiveTask = some id)
      (left : (id, status) ∈ start.trace stepEndings earlier)
      (stopped : (id, status) ∈ earlier.filterMap Action.stop?) :
      FailureOrigin start actions call status
        (.register metadata request (some (.error (.rpcFailure status))))

theorem run_failureOrigin (reachable : Reachable start) (empty : start.tasks = [])
    (silent : start.calls = []) (ran : start.run actions = some final) :
    ∀ call metadata request status,
      final.calls[call]? = some (.register metadata request (some (.error (.rpcFailure status)))) →
      FailureOrigin start actions call status
        (.register metadata request (some (.error (.rpcFailure status)))) := by
  refine run_induction (motive := fun actions final => ∀ call metadata request status,
    final.calls[call]? = some (.register metadata request (some (.error (.rpcFailure status)))) →
      FailureOrigin start actions call status
        (.register metadata request (some (.error (.rpcFailure status))))) ran ?_ ?_
  · intro call metadata request status get
    rw [silent] at get
    cases get
  · intro before last action next earlier origin stepped call metadata request status get
    generalize result : some (Except.error (SessionError.rpcFailure status)) = outcome at get
    cases step_register stepped get with
    | same there =>
      subst result
      cases origin call metadata request status there with
      | @register _ _ first second _ _ split ran held left stopped =>
        have whole : before ++ [action] = first ++ .runSection call :: (second ++ [action]) := by
          rw [split, List.append_assoc, List.cons_append]
        exact .register whole ran held left stopped
    | start _ _ _ => cases result
    | enter entered _ =>
      subst entered
      rw [Option.some.injEq] at result
      obtain ⟨unwritable, failed⟩ | ⟨-, failed⟩ | ⟨_, _, _, -, -, -, accepted⟩ :=
        writeRequest_inv (last.ensureStream metadata) request
      · obtain ⟨id, recorded, held, stored, left⟩ :=
          run_recorded reachable empty earlier metadata unwritable
        obtain ⟨empty', -⟩ | ⟨-, same⟩ := ensureStream_inv last metadata
        · cases held.symm.trans empty'
        · rw [failed, same, stored]
          rw [failed, same, stored] at result
          cases result
          exact .register rfl earlier held left (run_endings_stopped empty earlier _ left)
      · rw [failed] at result
        cases result
      · rw [accepted] at result
        cases result

/-- A call fails with a status that its own remote call ended with, if that is no success, or with
whatever status the stream in the slot ended with before. -/
theorem rpcFailure_origin {counter : Counter} {onSuccess : Option SuccessHandler}
    {onFailure : Option FailureHandler} {now : Nat}
    (ran : (fresh counter onSuccess onFailure now).run actions = some final) :
    ∀ (call : Nat) (client : ClientCall) (status : Status), final.calls[call]? = some client →
      client.outcome? = some (.error (.rpcFailure status)) →
      FailureOrigin (fresh counter onSuccess onFailure now) actions call status client := by
  intro call client status get failed
  cases client with
  | refused fault => cases failed
  | inspect _ | withdrawn => cases failed
  | close stage =>
    simp only [ClientCall.outcome?] at failed
    split at failed <;> cases failed
  | once run =>
    simp only [ClientCall.outcome?] at failed
    split at failed
    · next last ended =>
      simp only [Outcome.ofStatus, Option.some.injEq] at failed
      split at failed
      · cases failed
      · next unsuccessful =>
        cases failed
        exact .once ended unsuccessful
    · cases failed
  | register metadata request outcome =>
    simp only [ClientCall.outcome?] at failed
    subst failed
    exact run_failureOrigin (.fresh counter onSuccess onFailure) rfl rfl ran call metadata request
      status get

def cleanEnd : List Action :=
  [.start (.registerStream admin {}), .acquire (.call 0), .runSection 0, .placeTask 0,
    .openTask 0 (.ok ()), .readTask 0 .endOfStream, .acquire (.task 0), .storeStatus 0,
    .finishTask 0, .start (.registerStream admin {}), .acquire (.call 1), .runSection 1]

/-- The status of a failed registration may be a success. -/
theorem rpcFailure_ok :
    ∃ final, (fresh {} none none).run cleanEnd = some final ∧
      (final.calls[1]?).bind ClientCall.outcome? = some (.error (.rpcFailure ⟨.ok, ""⟩)) :=
  ⟨_, rfl, rfl⟩

theorem rpcFailure_origin_cleanEnd :
    ∃ final client, (fresh {} none none).run cleanEnd = some final ∧
      final.calls[1]? = some client ∧
      client.outcome? = some (.error (.rpcFailure ⟨.ok, ""⟩)) ∧
      FailureOrigin (fresh {} none none) cleanEnd 1 ⟨.ok, ""⟩ client := by
  have happens : ∃ final client, (fresh {} none none).run cleanEnd = some final ∧
      final.calls[1]? = some client ∧
      client.outcome? = some (.error (.rpcFailure ⟨.ok, ""⟩)) := ⟨_, _, rfl, rfl, rfl⟩
  obtain ⟨final, client, ran, get, failed⟩ := happens
  exact ⟨final, client, ran, get, failed, rpcFailure_origin ran 1 client _ get failed⟩

end Session

end PbrTelemetry
