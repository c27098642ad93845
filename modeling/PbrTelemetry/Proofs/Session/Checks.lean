import PbrTelemetry.Proofs.Session.Quiet

/-!
# Subscriptions that fail the checks

A subscription is checked before it waits for anything.  One that fails the checks has returned by
then, and it is the only kind of call that ever returns with a fault of the client
(`subscription_checked`): what the other ones come to is decided by the slot, by a queue, or by the
status of a remote call.

A call that has failed the checks leaves nothing behind but its outcome.  It never acts, takes no
lock, and no remote call is ever its own.
-/

namespace PbrTelemetry

def ClientCall.IsFaulty (client : ClientCall) : Prop :=
  ∃ fault, client.outcome? = some (.error (.clientType fault))

namespace Session

/-! ## The checks -/

structure Admits (session : Session) (metadata : CallMetadata) (args : RpcArgs) : Prop where
  counter : session.counter.tag = "pbr"
  username : metadata.username ≠ ""
  password : metadata.password ≠ ""
  encoding : args.encoding = .proto ∨ args.encoding = .jsonIetf

inductive Demand.Subscribes (metadata : CallMetadata) (args : RpcArgs) : Demand → Prop where
  | once : Subscribes metadata args (.registerOnce metadata args)
  | stream : Subscribes metadata args (.registerStream metadata args)

variable {session next final : Session} {action : Action} {actions : List Action} {call : Nat}
variable {metadata : CallMetadata} {args : RpcArgs} {demand : Demand} {client : ClientCall}

theorem isSupported_iff {encoding : Encoding} :
    encoding.isSupported = true ↔ encoding = .proto ∨ encoding = .jsonIetf := by
  cases encoding <;> decide

theorem hasCredentials_iff :
    metadata.hasCredentials = true ↔ metadata.username ≠ "" ∧ metadata.password ≠ "" := by
  simp [CallMetadata.hasCredentials]

/-- A request is made for exactly those subscriptions that pass, whatever their paths are. -/
theorem prepare_of_admits (admits : session.Admits metadata args) (mode : StreamMode) :
    ∃ request, session.prepare metadata args mode = .ok request := by
  have credentials := hasCredentials_iff.mpr ⟨admits.username, admits.password⟩
  have supported := isSupported_iff.mpr admits.encoding
  have counter : session.counter.tag = pbrTag := admits.counter
  rw [prepare, if_neg (not_not_intro counter), credentials]
  simp only [RpcArgs.request, supported]
  exact ⟨_, rfl⟩

theorem prepare_of_not_admits (refused : ¬ session.Admits metadata args) (mode : StreamMode) :
    ∃ fault, session.prepare metadata args mode = .error fault := by
  by_cases counter : session.counter.tag = pbrTag
  · cases credentials : metadata.hasCredentials with
    | false =>
      refine ⟨.missingCredentials, ?_⟩
      rw [prepare, if_neg (not_not_intro counter), credentials]
      rfl
    | true =>
      obtain ⟨username, password⟩ := hasCredentials_iff.mp credentials
      have unsupported : ¬ args.encoding.isSupported = true := fun supported =>
        refused ⟨counter, username, password, isSupported_iff.mp supported⟩
      refine ⟨.unusableRequest (.unsupportedEncoding args.encoding.number), ?_⟩
      rw [prepare, if_neg (not_not_intro counter), credentials, RpcArgs.request,
        if_neg unsupported]
      rfl
  · exact ⟨.wrongCounter session.counter.tag, if_pos counter⟩

/-! ## Faults of the client -/

theorem newCall_of_not_admits (subscribes : demand.Subscribes metadata args)
    (refused : ¬ session.Admits metadata args) :
    ∃ fault, session.newCall demand = .refused fault := by
  cases subscribes with
  | once =>
    obtain ⟨fault, failed⟩ := prepare_of_not_admits refused .once
    exact ⟨fault, by rw [newCall, failed]⟩
  | stream =>
    obtain ⟨fault, failed⟩ := prepare_of_not_admits refused .stream
    exact ⟨fault, by rw [newCall, failed]⟩

theorem newCall_of_admits (subscribes : demand.Subscribes metadata args)
    (admits : session.Admits metadata args) : ¬ (session.newCall demand).IsFaulty := by
  rintro ⟨fault, faulty⟩
  cases subscribes with
  | once =>
    obtain ⟨request, made⟩ := prepare_of_admits admits .once
    rw [newCall, made] at faulty
    cases faulty
  | stream =>
    obtain ⟨request, made⟩ := prepare_of_admits admits .stream
    rw [newCall, made] at faulty
    cases faulty

theorem once_not_faulty (run : OnceCall) : ¬ (ClientCall.once run).IsFaulty := by
  rintro ⟨fault, faulty⟩
  simp only [ClientCall.outcome?] at faulty
  split at faulty
  · simp only [Outcome.ofStatus, Option.some.injEq] at faulty
    split at faulty <;> cases faulty
  · cases faulty

theorem SectionStep.not_faulty {before after : ClientCall}
    (went : SectionStep session before after) : ¬ after.IsFaulty := by
  rintro ⟨fault, faulty⟩
  cases went with
  | register metadata request =>
    simp only [ClientCall.outcome?] at faulty
    obtain ⟨-, written⟩ | ⟨-, written⟩ | ⟨_, _, _, -, -, -, written⟩ :=
      writeRequest_inv (session.ensureStream metadata) request <;>
      (rw [written] at faulty; cases faulty)
  | take =>
    simp only [ClientCall.outcome?] at faulty
    split at faulty <;> cases faulty
  | settle => cases faulty
  | inspect => cases faulty

theorem outcome?_givenUp (client : ClientCall) : client.givenUp.outcome? = none := by
  cases client <;> rfl

theorem step_not_faulty (stepped : session.step action = some next)
    (get : session.calls[call]? = some client) (sound : ¬ client.IsFaulty) :
    ∃ after, next.calls[call]? = some after ∧ ¬ after.IsFaulty := by
  have bound := (List.getElem?_eq_some_iff.mp get).1
  have replaced : ∀ (place : Nat) (entry : ClientCall), ¬ entry.IsFaulty →
      ∃ after, (session.calls.set place entry)[call]? = some after ∧ ¬ after.IsFaulty := by
    intro place entry innocent
    by_cases same : place = call
    · subst same
      exact ⟨entry, List.getElem?_set_self bound, innocent⟩
    · exact ⟨client, getElem?_set_keep get same, sound⟩
  cases step_calls stepped with
  | kept calls => exact ⟨client, by rw [calls, get], sound⟩
  | start _ calls =>
    exact ⟨client, by rw [calls, List.getElem?_append_left bound, get], sound⟩
  | enter _ _ went calls =>
    rw [calls]
    exact replaced _ _ went.not_faulty
  | resume _ _ _ calls =>
    rw [calls]
    exact replaced _ _ fun faulty => by cases faulty.choose_spec
  | @abandon _ before _ _ _ calls =>
    rw [calls]
    refine replaced _ _ ?_
    rintro ⟨fault, faulty⟩
    cases (outcome?_givenUp before).symm.trans faulty
  | once _ calls =>
    rw [calls]
    exact replaced _ _ (once_not_faulty _)

theorem run_not_faulty (ran : session.run actions = some final)
    (get : session.calls[call]? = some client) (sound : ¬ client.IsFaulty) :
    ∃ after, final.calls[call]? = some after ∧ ¬ after.IsFaulty :=
  run_induction (motive := fun _ final => ∃ after, final.calls[call]? = some after ∧
      ¬ after.IsFaulty) ran ⟨client, get, sound⟩
    fun _ _ _ _ _ earlier stepped =>
      earlier.elim fun _ held => step_not_faulty stepped held.1 held.2

/-! ## Refused calls -/

variable {fault : ClientFault}

theorem agent?_eq_call (acts : action.agent? = some (.call call)) :
    action = .acquire (.call call) ∨ action.call? = some call := by
  cases action with
  | acquire agent =>
    cases acts
    exact .inl rfl
  | runSection id | resume id | abandon id | placeOnce id | openOnce id _ | readOnce id _ =>
    cases acts
    exact .inr rfl
  | _ => cases acts

/-- A refused call does not act, and does not take the lock either. -/
theorem agent_ne_of_refused (stepped : session.step action = some next)
    (get : session.calls[call]? = some (.refused fault)) : action.agent? ≠ some (.call call) := by
  intro acts
  have running : ∃ client, session.calls[call]? = some client ∧ client.inProgress = true := by
    rcases agent?_eq_call acts with rfl | acts
    · obtain ⟨-, needed, -⟩ := acquire_inv stepped
      exact needsLock_inProgress needed
    · exact acting_inProgress stepped acts
  obtain ⟨client, there, running⟩ := running
  cases get.symm.trans there
  cases running

/-- A refused call in a run: it stays as it is, none of the actions is its own, and so is none of
the remote calls. -/
structure RefusedIn (call : Nat) (fault : ClientFault) (actions : List Action) (final : Session) :
    Prop where
  outcome : final.calls[call]? = some (.refused fault)
  idle : ∀ action ∈ actions, action.agent? ≠ some (.call call)
  silent : ∀ remote ∈ final.remote, remote.caller ≠ .call call

theorem run_refused (ran : session.run actions = some final)
    (get : session.calls[call]? = some (.refused fault))
    (silent : ∀ remote ∈ session.remote, remote.caller ≠ .call call) :
    RefusedIn call fault actions final := by
  refine run_induction (motive := RefusedIn call fault) ran ⟨get, nofun, silent⟩ ?_
  intro before last action next _ earlier stepped
  have apart := agent_ne_of_refused stepped earlier.outcome
  refine ⟨step_returned stepped earlier.outcome nofun rfl, ?_, ?_⟩
  · intro other member
    rcases List.mem_append.mp member with old | new
    · exact earlier.idle other old
    · cases List.mem_singleton.mp new
      exact apart
  · intro remote member
    obtain same | ⟨caller, metadata, -, acts, added⟩ := (step_outside stepped).remote
    · rw [same] at member
      exact earlier.silent remote member
    · rw [added] at member
      rcases List.mem_append.mp member with old | new
      · exact earlier.silent remote old
      · cases List.mem_singleton.mp new
        rintro rfl
        exact apart acts

/-! ## Every subscription -/

structure Checked (session : Session) (metadata : CallMetadata) (args : RpcArgs) (next : Session) :
    Prop where
  /-- The call returns with a fault of the client exactly if it fails the checks, which shows at
  once and for good. -/
  faulty_iff : ∀ later final, next.run later = some final →
    ((∃ client, final.calls[session.calls.length]? = some client ∧ client.IsFaulty) ↔
      ¬ session.Admits metadata args)
  /-- If it fails them, nothing else changes, and nothing that happens later is its own. -/
  inert : ¬ session.Admits metadata args → ∃ fault,
    next = { session with calls := session.calls ++ [.refused fault] } ∧
    ∀ later final, next.run later = some final →
      RefusedIn session.calls.length fault later final

/-- In whatever state a session is, a subscription fails the checks for the counter, the credentials
or the encoding alone, and then the session stays in that state. -/
theorem subscription_checked (reachable : Reachable session) (kept : session.dropped = false)
    (subscribes : demand.Subscribes metadata args) :
    ∃ next, session.step (.start demand) = some next ∧ Checked session metadata args next := by
  let next := { session with calls := session.calls ++ [session.newCall demand] }
  have started : session.step (.start demand) = some next := by
    simp [step, start, kept, next]
  have get : next.calls[session.calls.length]? = some (session.newCall demand) := by
    simp [next]
  refine ⟨next, started, ?_⟩
  by_cases admits : session.Admits metadata args
  · have sound := newCall_of_admits subscribes admits
    refine ⟨fun later final ran => ?_, fun refused => absurd admits refused⟩
    obtain ⟨client, there, innocent⟩ := run_not_faulty ran get sound
    refine iff_of_false ?_ (not_not_intro admits)
    rintro ⟨other, found, faulty⟩
    cases there.symm.trans found
    exact innocent faulty
  · obtain ⟨fault, refused⟩ := newCall_of_not_admits subscribes admits
    rw [refused] at get
    have after : ∀ later final, next.run later = some final →
        RefusedIn session.calls.length fault later final :=
      fun _ _ ran => run_refused ran get reachable.caller_ne
    refine ⟨fun later final ran => ?_, fun _ => ⟨fault, by simp only [next, refused], after⟩⟩
    exact iff_of_true ⟨_, (after later final ran).outcome, fault, rfl⟩ admits

theorem subscription_checked_refusedStream :
    ∃ session next, (fresh {} none none).run refusedStream = some session ∧
      session.step (.start (.registerStream { username := "admin", password := "" } {}))
        = some next ∧
      ¬ session.Admits { username := "admin", password := "" } {} ∧
      next.slot = session.slot ∧
      Checked session { username := "admin", password := "" } {} next := by
  obtain ⟨session, ran, kept⟩ : ∃ session, (fresh {} none none).run refusedStream = some session ∧
      session.dropped = false := ⟨_, rfl, rfl⟩
  have subscribes : (Demand.registerStream { username := "admin", password := "" } {}).Subscribes
      { username := "admin", password := "" } {} := .stream
  obtain ⟨next, started, checked⟩ := subscription_checked
    ((Reachable.fresh {} none none).run ran) kept subscribes
  have refused : ¬ session.Admits { username := "admin", password := "" } {} :=
    fun admits => admits.password rfl
  obtain ⟨fault, same, -⟩ := checked.inert refused
  exact ⟨session, next, ran, started, refused, by rw [same], checked⟩

end Session

end PbrTelemetry
