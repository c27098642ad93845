import PbrTelemetry.Proofs.Session.Lock

/-!
# At most one live stream

A close lets go of the lock while the task that it took comes to its end, and a registration that
slips in starts the next stream.  Then tasks of several streams are there at once, and the older
ones reach their terminal sections at any later time.

* `IsLive`: a task that is neither over nor cancelled.  `one_live_stream` says that it is the task
  in the slot.
* `Superseded`: a task of an earlier stream.  Its terminal section stores nothing, and nobody else
  touches the slot while it lasts.
-/

namespace PbrTelemetry

namespace Session

/-- A task that is not over and that nothing has cancelled. -/
def IsLive (session : Session) (id : Nat) : Prop :=
  ∃ task, session.tasks[id]? = some task ∧ task.stage ≠ .finished ∧
    session.isCancelled task = false

/-- A task of an earlier stream than that of the slot. -/
def Superseded (session : Session) (id : Nat) : Prop :=
  ∃ task, session.tasks[id]? = some task ∧ task.generation < session.slot.generation

def terminalSection (id : Nat) : List Action :=
  [.acquire (.task id), .storeStatus id, .finishTask id]

variable {session next final : Session} {action : Action} {id : Nat}

/-! ## Live tasks -/

theorem Orderly.live_held (orderly : Orderly session) (live : IsLive session id) :
    session.slot.receiveTask = some id := by
  obtain ⟨task, get, -, kept⟩ := live
  simp only [isCancelled, Bool.or_eq_false_iff] at kept
  exact orderly.wired.uncancelled id task get kept.1

theorem Orderly.superseded_apart (orderly : Orderly session) (superseded : Superseded session id) :
    session.slot.receiveTask ≠ some id := by
  intro held
  obtain ⟨task, get, older⟩ := superseded
  obtain ⟨same, there, generation⟩ := orderly.wired.held_generation held
  cases get.symm.trans there
  omega

theorem not_live_of_dropped (dropped : session.dropped = true) : ¬ IsLive session id := by
  rintro ⟨task, -, -, kept⟩
  simp [isCancelled, dropped] at kept

/-! ## Superseded tasks -/

theorem Superseded.storeStatus (superseded : Superseded session id)
    (stored : session.storeStatus id = some next) : next.slot = session.slot := by
  obtain ⟨task, get, older⟩ := superseded
  obtain ⟨same, status, there, -, -, rfl⟩ := storeStatus_inv stored
  cases get.symm.trans there
  -- The status is thrown away, for the slot has the number of a later stream
  have different : session.slot.generation ≠ task.generation := by omega
  simp [storedSlot, different]

/-- Each step of the terminal section leaves the slot and all other tasks alone. -/
theorem Superseded.step_section (superseded : Superseded session id)
    (inside : action ∈ terminalSection id) (stepped : session.step action = some next) :
    next.slot = session.slot ∧
      ∀ other, other ≠ id → next.tasks[other]? = session.tasks[other]? := by
  simp only [terminalSection, List.mem_cons, List.not_mem_nil, or_false] at inside
  rcases inside with rfl | rfl | rfl
  · obtain ⟨-, -, rfl⟩ := acquire_inv stepped
    exact ⟨rfl, fun _ _ => rfl⟩
  · refine ⟨superseded.storeStatus stepped, ?_⟩
    obtain ⟨task, status, -, -, -, rfl⟩ := storeStatus_inv stepped
    intro other different
    exact List.getElem?_set_ne different.symm
  · obtain ⟨task, status, -, -, -, rfl⟩ := finishTask_inv stepped
    refine ⟨rfl, ?_⟩
    intro other different
    exact List.getElem?_set_ne different.symm

/-- As long as a superseded task holds the lock, the slot stays as it is, whoever acts. -/
theorem Superseded.step (superseded : Superseded session id)
    (held : session.lock = some (.task id)) (stepped : session.step action = some next)
    (unfinished : action ≠ .finishTask id) :
    next.lock = some (.task id) ∧ next.slot = session.slot ∧ Superseded next id := by
  have slot : next.slot = session.slot := by
    by_cases storing : action = .storeStatus id
    · subst storing
      exact superseded.storeStatus stepped
    · exact step_slot stepped held storing
  refine ⟨step_lock stepped held unfinished, slot, ?_⟩
  obtain ⟨task, get, older⟩ := superseded
  obtain ⟨later, found, same, -⟩ := step_continues stepped id task get
  exact ⟨later, found, by rw [same, slot]; exact older⟩

theorem Superseded.run {actions : List Action} (superseded : Superseded session id)
    (held : session.lock = some (.task id)) (ran : session.run actions = some final)
    (unfinished : .finishTask id ∉ actions) :
    final.slot = session.slot ∧ Superseded final id := by
  induction actions generalizing session with
  | nil =>
    cases ran
    exact ⟨rfl, superseded⟩
  | cons action rest ih =>
    obtain ⟨next, stepped, ran⟩ := run_cons_inv ran
    simp only [List.mem_cons, not_or] at unfinished
    obtain ⟨holds, slot, later⟩ := superseded.step held stepped fun same => unfinished.1 same.symm
    rw [← slot]
    exact ih later holds ran unfinished.2

/-- From its first step to its last, with whatever comes in between, the terminal section of a
superseded task leaves the slot as it found it. -/
theorem Superseded.run_section {between : List Action} (superseded : Superseded session id)
    (unfinished : .finishTask id ∉ between)
    (ran : session.run (.acquire (.task id) :: between ++ [.finishTask id]) = some final) :
    final.slot = session.slot := by
  obtain ⟨last, ran, finished⟩ := run_snoc_inv ran
  obtain ⟨first, acquired, ran⟩ := run_cons_inv ran
  obtain ⟨-, -, rfl⟩ := acquire_inv acquired
  have waiting : Superseded { session with lock := some (.task id) } id := superseded
  obtain ⟨slot, later⟩ := waiting.run rfl ran unfinished
  have finish := later.step_section (by simp [terminalSection]) finished
  rw [finish.1, slot]

/-! ## The streams of a session -/

/-- A live task is the task in the slot and has the number of its stream, so there is one at most,
and none once the client is dropped.  A task of an earlier stream changes nothing in the slot and
nothing in any other task. -/
theorem one_live_stream (reachable : Reachable session) :
    (∀ id, IsLive session id → session.slot.receiveTask = some id ∧
      ∃ task, session.tasks[id]? = some task ∧ task.generation = session.slot.generation) ∧
    (∀ first second, IsLive session first → IsLive session second → first = second) ∧
    (session.dropped = true → ∀ id, ¬ IsLive session id) ∧
    (∀ id, Superseded session id → session.slot.receiveTask ≠ some id ∧
      (∀ action ∈ terminalSection id, ∀ next, session.step action = some next →
        next.slot = session.slot ∧
          ∀ other, other ≠ id → next.tasks[other]? = session.tasks[other]?) ∧
      (∀ between final, .finishTask id ∉ between →
        session.run (.acquire (.task id) :: between ++ [.finishTask id]) = some final →
        final.slot = session.slot)) := by
  have orderly := reachable.orderly
  refine ⟨?_, ?_, fun dropped _ => not_live_of_dropped dropped, ?_⟩
  · intro id live
    have held := orderly.live_held live
    exact ⟨held, orderly.wired.held_generation held⟩
  · intro first second live alive
    have held := orderly.live_held live
    rw [orderly.live_held alive] at held
    exact (Option.some.inj held).symm
  · intro id superseded
    exact ⟨orderly.superseded_apart superseded,
      fun action inside next stepped => superseded.step_section inside stepped,
      fun between final unfinished ran => superseded.run_section unfinished ran⟩

def overtakenStream : List Action :=
  [.start (.registerStream admin {}), .acquire (.call 0), .runSection 0,
    .start .close, .acquire (.call 1), .runSection 1,
    .start (.registerStream admin {}), .acquire (.call 2), .runSection 2, .giveUpTask 0]

theorem one_live_stream_overtakenStream :
    ∃ session final, (fresh {} none none).run overtakenStream = some session ∧
      IsLive session 1 ∧ session.slot.receiveTask = some 1 ∧
      session.run (terminalSection 0) = some final ∧ final.slot = session.slot := by
  have live : ∃ session final, (fresh {} none none).run overtakenStream = some session ∧
      IsLive session 1 ∧ Superseded session 0 ∧ session.run (terminalSection 0) = some final :=
    ⟨_, _, rfl, ⟨_, rfl, by decide, rfl⟩, ⟨_, rfl, by decide⟩, rfl⟩
  obtain ⟨session, final, ran, live, superseded, finished⟩ := live
  obtain ⟨held, -, -, apart⟩ := one_live_stream ((Reachable.fresh {} none none).run ran)
  have slot := (apart 0 superseded).2.2 [.storeStatus 0] final (by simp) finished
  exact ⟨session, final, ran, live, (held 1 live).1, finished, slot⟩

end Session

end PbrTelemetry
