import PbrTelemetry.Proofs.Session.Outward

/-!
# What a session records

Any number of tasks and single subscriptions feed the one counter of a session, and the responses
that they take come in any order.  The *journal* of a run lists the records of these responses with
their readers.  `records_exact` says that the counter holds exactly the records of the journal, that
the journal is an interleaving of what each reader has read, and that the handler for new records is
called once for each record of a stream.

All of it is read off one step: `step_stats` for the counter and `step_shown` for the handler.  The
counter in which a response is checked has changed since the run began, but the check only looks at
its origin, which never changes.
-/

namespace PbrTelemetry

namespace Counter

variable {counter other : Counter}

def record? (counter : Counter) (response : SubscribeResponse) : Option PbrStat :=
  (counter.checkResponse response).toOption

/-- Only the origin of a counter matters for the record of a response. -/
theorem record?_congr (origin : counter.origin = other.origin) :
    counter.record? = other.record? := by
  funext response
  cases response <;> simp [record?, checkResponse, origin]

theorem accept_stats (response : SubscribeResponse) :
    (counter.accept response).stats = counter.stats ++ (counter.record? response).toList := by
  simp only [accept, record?]
  cases counter.checkResponse response with
  | error error => simp [Except.toOption]
  | ok stat => simp [Except.toOption, accumulate]

theorem accept_origin (response : SubscribeResponse) :
    (counter.accept response).origin = counter.origin := by
  simp only [accept]
  cases counter.checkResponse response <;> rfl

end Counter

def Agent.isTask : Agent → Bool
  | task _ => true
  | call _ => false

namespace Session

/-! ## What is read -/

def Action.response? : Action → Option (Agent × SubscribeResponse)
  | .readTask id (.response response) => some (.task id, response)
  | .readOnce id (.response response) => some (.call id, response)
  | _ => none

def responses (actions : List Action) : List (Agent × SubscribeResponse) :=
  actions.filterMap Action.response?

def responsesTo (reader : Agent) (actions : List Action) : List SubscribeResponse :=
  ((responses actions).filter (·.1 = reader)).map Prod.snd

/-- The records of the responses that are taken, with their readers. -/
def journal (counter : Counter) (actions : List Action) : List (Agent × PbrStat) :=
  (responses actions).filterMap fun read => (counter.record? read.2).map (read.1, ·)

def streamRecords (counter : Counter) (actions : List Action) : List PbrStat :=
  ((journal counter actions).filter (·.1.isTask)).map Prod.snd

def shownCounters (handled : List HandlerCall) : List Counter :=
  handled.filterMap fun
    | .success _ counter => some counter
    | .failure _ _ => none

variable {session next final : Session} {action : Action} {actions more : List Action}
variable {counter other : Counter}

theorem journal_append :
    journal counter (actions ++ more) = journal counter actions ++ journal counter more := by
  simp [journal, responses]

theorem journal_congr (actions : List Action) (origin : counter.origin = other.origin) :
    journal counter actions = journal other actions := by
  simp only [journal]
  rw [Counter.record?_congr origin]

theorem streamRecords_append : streamRecords counter (actions ++ more)
    = streamRecords counter actions ++ streamRecords counter more := by
  simp [streamRecords, journal_append]

theorem streamRecords_congr (actions : List Action) (origin : counter.origin = other.origin) :
    streamRecords counter actions = streamRecords other actions := by
  simp only [streamRecords]
  rw [journal_congr actions origin]

/-- For each reader, the journal has the records of what it has read, in the order in which it has
read it. -/
theorem journal_of_reader (counter : Counter) (actions : List Action) (reader : Agent) :
    ((journal counter actions).filter (·.1 = reader)).map Prod.snd
      = (responsesTo reader actions).filterMap counter.record? := by
  simp only [journal, responsesTo]
  induction responses actions with
  | nil => rfl
  | cons read rest ih =>
    cases recorded : counter.record? read.2 with
    | none =>
      by_cases own : read.1 = reader <;> simp [recorded, own, ih]
    | some stat =>
      by_cases own : read.1 = reader <;> simp [recorded, own, ih]

/-! ## One step -/

theorem step_origin (stepped : session.step action = some next) :
    next.counter.origin = session.counter.origin := by
  rw [(step_outward stepped).counter]
  simp only [counterAfter]
  split
  · rfl
  · exact Counter.accept_origin _
  · exact Counter.accept_origin _
  · rfl

theorem counterAfter_of_response {reader : Agent} {response : SubscribeResponse}
    (taken : action.response? = some (reader, response)) :
    session.counterAfter action = session.counter.accept response := by
  simp only [Action.response?] at taken
  split at taken
  · cases taken
    rfl
  · cases taken
    rfl
  · cases taken

theorem counterAfter_of_none (none : action.response? = none) :
    (session.counterAfter action).stats = session.counter.stats := by
  simp only [counterAfter]
  split
  · rfl
  · cases none
  · cases none
  · rfl

/-- A step adds the record of the response that it takes, and nothing else, at the end. -/
theorem step_stats (stepped : session.step action = some next) :
    next.counter.stats
      = session.counter.stats ++ (journal session.counter [action]).map Prod.snd := by
  rw [(step_outward stepped).counter]
  cases taken : action.response? with
  | none => simp [counterAfter_of_none taken, journal, responses, taken]
  | some read =>
    obtain ⟨reader, response⟩ := read
    rw [counterAfter_of_response taken, Counter.accept_stats]
    cases recorded : session.counter.record? response <;>
      simp [journal, responses, taken, recorded]

theorem shownCounters_append {first second : List HandlerCall} :
    shownCounters (first ++ second) = shownCounters first ++ shownCounters second := by
  simp [shownCounters]

theorem shownCounters_shown {handler : SuccessHandler}
    (installed : session.onSuccess = some handler) (response : SubscribeResponse) :
    shownCounters (session.shown response)
      = (session.counter.record? response).toList.map fun _ => session.counter.accept response := by
  simp only [shown, Counter.record?, Counter.accept]
  rw [installed]
  cases session.counter.checkResponse response with
  | error error => rfl
  | ok stat => rfl

theorem shownCounters_reported (session : Session) (status : Status) :
    shownCounters (session.reported status) = [] := by
  simp only [reported]
  split
  · split <;> rfl
  · rfl

theorem shownCounters_called {handler : SuccessHandler}
    (installed : session.onSuccess = some handler) (action : Action) :
    shownCounters (session.called action)
      = (streamRecords session.counter [action]).map fun _ => session.counterAfter action := by
  cases action with
  | readTask id arrival =>
    cases arrival with
    | response response =>
      have shown := shownCounters_shown installed response
      cases recorded : session.counter.record? response <;>
        simp [called, shown, streamRecords, journal, responses, Action.response?, recorded,
          Agent.isTask, counterAfter]
    | status _ | endOfStream | cancelled | expired => rfl
  | readOnce id arrival =>
    cases arrival with
    | response response =>
      cases recorded : session.counter.record? response <;>
        simp [called, shownCounters, streamRecords, journal, responses, Action.response?, recorded,
          Agent.isTask]
    | status _ | endOfStream | cancelled | expired => rfl
  | finishTask id =>
    simp only [called]
    split
    · exact shownCounters_reported session _
    · rfl
  | addKeys _ | setSuccessHandler _ | setFailureHandler _ | start _ | dropClient | acquire _
  | runSection _ | resume _ | placeTask _ | openTask _ _ | giveUpTask _ | storeStatus _
  | placeOnce _ | openOnce _ _ | abandon _ | receive _ | closeReceiver _ | pass _ => rfl

/-- A step shows the handler the counter if it adds the record of a stream, and only then. -/
theorem step_shown {handler : SuccessHandler} (installed : session.onSuccess = some handler)
    (stepped : session.step action = some next) :
    shownCounters next.handled = shownCounters session.handled ++
      (streamRecords session.counter [action]).map fun _ => next.counter := by
  have outward := step_outward stepped
  rw [outward.handled, outward.counter, shownCounters_append, shownCounters_called installed]

theorem step_last (stepped : session.step action = some next) :
    (streamRecords session.counter [action]).map (fun _ => next.counter.stats.getLast?)
      = (streamRecords session.counter [action]).map some := by
  have stats := step_stats stepped
  cases taken : action.response? with
  | none => simp [streamRecords, journal, responses, taken]
  | some read =>
    obtain ⟨reader, response⟩ := read
    cases recorded : session.counter.record? response with
    | none => simp [streamRecords, journal, responses, taken, recorded]
    | some stat =>
      have last : next.counter.stats.getLast? = some stat := by
        simp [stats, journal, responses, taken, recorded]
      cases reader <;>
        simp [streamRecords, journal, responses, taken, recorded, Agent.isTask, last]

/-- A response without a record leaves the whole session as it is. -/
theorem step_skipped {reader : Agent} {response : SubscribeResponse} {error : DecodeError}
    (stepped : session.step action = some next)
    (taken : action.response? = some (reader, response))
    (unusable : session.counter.checkResponse response = .error error) : next = session := by
  simp only [Action.response?] at taken
  split at taken
  · cases taken
    obtain ⟨task, -, -, -, ⟨same, equal, outcome⟩ | ⟨status, last, -⟩⟩ := readTask_inv stepped
    · cases equal
      rw [deliver_returned unusable, delivered_of_error unusable] at outcome
      obtain ⟨-, done⟩ | ⟨broken, -⟩ := outcome
      · exact done
      · cases broken
    · cases last
  · cases taken
    obtain ⟨run, -, -, -, ⟨same, equal, rfl⟩ | ⟨status, last, -⟩⟩ := readOnce_inv stepped
    · cases equal
      simp only [Counter.accept, unusable]
    · cases last
  · cases taken

/-! ## Whole runs -/

/-- What the counter holds after a run, and how it goes on. -/
structure Recorded (counter : Counter) (actions : List Action) (final : Session) : Prop where
  -- The counter has the records of the journal, in its order
  stats : final.counter.stats = counter.stats ++ (journal counter actions).map Prod.snd
  -- The journal is an interleaving of what the readers have read
  interleaved : ∀ reader, ((journal counter actions).filter (·.1 = reader)).map Prod.snd
    = (responsesTo reader actions).filterMap counter.record?
  -- Records are only ever added at the end
  grows : ∀ more later, final.run more = some later → final.counter.stats <+: later.counter.stats
  -- A response without a record changes nothing
  skipped : ∀ action reader response error next, final.step action = some next →
    action.response? = some (reader, response) →
    final.counter.checkResponse response = .error error → next = final

/-- What the handler for new records is shown in a run that it was there for from the start. -/
structure Notified (handler : SuccessHandler) (counter : Counter) (actions : List Action)
    (final : Session) : Prop where
  -- One call for each record of a stream, in their order, with a counter that ends with the record
  inOrder : (shownCounters final.handled).map (·.stats.getLast?)
    = (streamRecords counter actions).map some
  -- The call is made in the very step that adds the record
  atOnce : ∀ action next, final.step action = some next →
    shownCounters next.handled = shownCounters final.handled ++
      (streamRecords final.counter [action]).map fun _ => next.counter
  -- No other handler is called
  named : ∀ name shown, .success name shown ∈ final.handled →
    ∃ installed : SuccessHandler, installed.name = name ∧
      (installed = handler ∨ .setSuccessHandler installed ∈ actions)

theorem run_stats (ran : session.run actions = some final) :
    final.counter.origin = session.counter.origin ∧
      final.counter.stats
        = session.counter.stats ++ (journal session.counter actions).map Prod.snd := by
  refine run_induction (motive := fun actions final =>
    final.counter.origin = session.counter.origin ∧ final.counter.stats
      = session.counter.stats ++ (journal session.counter actions).map Prod.snd) ran ?_ ?_
  · exact ⟨rfl, (List.append_nil _).symm⟩
  · intro before last action next _ earlier stepped
    obtain ⟨origin, stats⟩ := earlier
    refine ⟨(step_origin stepped).trans origin, ?_⟩
    rw [step_stats stepped, stats, journal_append, journal_congr [action] origin, List.map_append,
      List.append_assoc]

theorem run_grows (ran : session.run actions = some final) :
    session.counter.stats <+: final.counter.stats := by
  rw [(run_stats ran).2]
  exact List.prefix_append _ _

theorem success_called {handler : SuccessHandler} {name : String} {shown : Counter}
    (installed : session.onSuccess = some handler)
    (call : .success name shown ∈ session.called action) : handler.name = name := by
  simp only [called] at call
  split at call
  · simp only [Session.shown] at call
    split at call
    · next stat other _ same =>
      cases installed.symm.trans same
      simp only [List.mem_singleton, HandlerCall.success.injEq] at call
      exact call.1.symm
    · cases call
  · split at call
    · simp only [reported] at call
      split at call
      · split at call <;> simp at call
      · cases call
    · cases call
  · cases call

theorem run_shown {handler : SuccessHandler} (installed : session.onSuccess = some handler)
    (silent : session.handled = []) (ran : session.run actions = some final) :
    (shownCounters final.handled).map (·.stats.getLast?)
      = (streamRecords session.counter actions).map some := by
  refine run_induction (motive := fun actions final =>
    (shownCounters final.handled).map (·.stats.getLast?)
      = (streamRecords session.counter actions).map some) ran ?_ ?_
  · rw [silent]
    rfl
  · intro before last action next earlier same stepped
    -- The handler may be another one by now, but there is one
    obtain ⟨current, present, -⟩ := run_onSuccess installed earlier
    obtain ⟨origin, -⟩ := run_stats earlier
    rw [step_shown present stepped, streamRecords_append, List.map_append, List.map_append, same,
      ← streamRecords_congr [action] origin, ← step_last stepped, List.map_map]
    rfl

theorem run_named {handler : SuccessHandler} (installed : session.onSuccess = some handler)
    (silent : session.handled = []) (ran : session.run actions = some final) :
    ∀ name shown, .success name shown ∈ final.handled →
      ∃ current : SuccessHandler, current.name = name ∧
        (current = handler ∨ .setSuccessHandler current ∈ actions) := by
  refine run_induction (motive := fun actions final => ∀ name shown,
    .success name shown ∈ final.handled → ∃ current : SuccessHandler, current.name = name ∧
      (current = handler ∨ .setSuccessHandler current ∈ actions)) ran ?_ ?_
  · intro name shown call
    rw [silent] at call
    cases call
  · intro before last action next earlier named stepped name shown call
    rw [(step_outward stepped).handled, List.mem_append] at call
    rcases call with call | call
    · obtain ⟨current, same, origin⟩ := named name shown call
      exact ⟨current, same, origin.imp_right fun member => List.mem_append_left _ member⟩
    · obtain ⟨current, present, origin⟩ := run_onSuccess installed earlier
      exact ⟨current, success_called present call,
        origin.imp_right fun member => List.mem_append_left _ member⟩

/-- Every response with a record is recorded once, in the order in which the responses are taken,
and nothing else is; and the handler for new records is called for those of a stream. -/
theorem records_exact {onSuccess : Option SuccessHandler} {onFailure : Option FailureHandler}
    {now : Nat} (ran : (fresh counter onSuccess onFailure now).run actions = some final) :
    Recorded counter actions final ∧
      ∀ handler, onSuccess = some handler → Notified handler counter actions final := by
  refine ⟨?_, ?_⟩
  · exact
      { stats := (run_stats ran).2
        interleaved := journal_of_reader counter actions
        grows := fun _ _ further => run_grows further
        skipped := fun _ _ _ _ _ stepped taken unusable => step_skipped stepped taken unusable }
  · rintro handler rfl
    have installed : (fresh counter (some handler) onFailure now).onSuccess = some handler := rfl
    have silent : (fresh counter (some handler) onFailure now).handled = [] := rfl
    obtain ⟨current, present, -⟩ := run_onSuccess installed ran
    have inOrder := run_shown installed silent ran
    have named := run_named installed silent ran
    exact ⟨inOrder, fun _ _ stepped => step_shown present stepped, named⟩

def usableResponse : SubscribeResponse :=
  .update {
    prefixPath := some {
      origin := pbrOrigin
      elems := [
        { name := "policy-map", keys := TextMap.empty.insert "policy-name" "web" },
        { name := "rule-name", keys := TextMap.empty.insert "rule-name" "drop" }] }
    update := [{ path := some {}, val := some (.uint 7) }] }

/-- A stream and a single subscription, which take a response with a record each, and a response
without one in between. -/
def mixedReads : List Action :=
  [.start (.registerStream admin {}), .acquire (.call 0), .runSection 0, .placeTask 0,
    .openTask 0 (.ok ()), .start (.registerOnce admin {}), .placeOnce 1, .openOnce 1 (.ok ()),
    .readTask 0 (.response usableResponse), .readTask 0 (.response (.sync true)),
    .readOnce 1 (.response usableResponse)]

theorem records_exact_mixedReads :
    ∃ final, (fresh {} (some { name := "print" }) none).run mixedReads = some final ∧
      final.counter.stats.length = 2 ∧ (shownCounters final.handled).length = 1 ∧
      Recorded {} mixedReads final ∧ Notified { name := "print" } {} mixedReads final := by
  have happens : ∃ final, (fresh {} (some { name := "print" }) none).run mixedReads = some final ∧
      final.counter.stats.length = 2 ∧ (shownCounters final.handled).length = 1 :=
    ⟨_, rfl, rfl, rfl⟩
  obtain ⟨final, ran, recorded, shown⟩ := happens
  obtain ⟨exact, notified⟩ := records_exact ran
  exact ⟨final, ran, recorded, shown, exact, notified _ rfl⟩

end Session

end PbrTelemetry
