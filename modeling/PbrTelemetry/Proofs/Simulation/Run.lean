import Mathlib.Logic.Relation
import PbrTelemetry.Cli.Run
import PbrTelemetry.Proofs.Session.Run

/-!
# Simulations are runs

A simulation does nothing to its session that is not a run of the session: one simulation leads to
another one (`Leads`) if some actions, each of them possible in its turn, lead from the session of
the first to that of the second.  Every operation leads on in this sense, and what only concerns the
script of the target leaves the session alone.

So whatever is done with a simulation (`Operates`), its session stays `Reachable`, and all that
holds of reachable sessions and of runs holds of simulated ones, whatever the script says.  The same
goes for the server behind the program (`Cli.serve_reachable`).

What repeats a step is bounded by `fuel`, and the proofs about it are inductions on the fuel.
-/

namespace PbrTelemetry

open Session (Reachable)

namespace Simulation

variable {sim middle next : Simulation} {agent : Agent} {id : Nat}

/-- The session of `next` comes about in a run from that of `sim`. -/
def Leads (sim next : Simulation) : Prop :=
  ∃ actions, sim.session.run actions = some next.session

namespace Leads

theorem of_eq (same : next.session = sim.session) : sim.Leads next := ⟨[], by rw [same]; rfl⟩

theorem refl (sim : Simulation) : sim.Leads sim := of_eq rfl

theorem trans (first : sim.Leads middle) (second : middle.Leads next) : sim.Leads next := by
  obtain ⟨before, ran⟩ := first
  obtain ⟨behind, further⟩ := second
  exact ⟨before ++ behind, by rw [Session.run_append, ran, Option.bind_some, further]⟩

theorem reachable (leads : sim.Leads next) (reachable : Reachable sim.session) :
    Reachable next.session := by
  obtain ⟨actions, ran⟩ := leads
  exact reachable.run ran

end Leads

/-! ## Single actions -/

theorem act_leads {action : Session.Action} (did : sim.act action = some next) :
    sim.Leads next := by
  obtain ⟨session, stepped, rfl⟩ := Option.map_eq_some_iff.mp did
  exact ⟨[action], by simp only [Session.run, stepped]⟩

theorem attempt_leads (sim : Simulation) (action : Session.Action) :
    sim.Leads (sim.attempt action) := by
  rw [attempt]
  cases did : sim.act action with
  | none => exact .refl sim
  | some next => exact act_leads did

theorem dropUnread_session (sim : Simulation) (agent : Agent) :
    (sim.dropUnread agent).session = sim.session := by
  rw [dropUnread]
  split
  · rfl
  · split <;> rfl

/-! ## Remote calls -/

theorem failCall_leads {status : Status} (failed : sim.failCall agent status = some next) :
    sim.Leads next := by
  obtain ⟨opened, did, closed⟩ := Option.bind_eq_some_iff.mp failed
  cases closed
  exact (act_leads did).trans (attempt_leads opened _)

theorem answerCall_leads (answered : sim.answerCall agent = some next) : sim.Leads next := by
  rw [answerCall] at answered
  split at answered
  · exact failCall_leads answered
  · next status rest _ =>
    have taken : sim.Leads { sim with openings := rest } := .of_eq rfl
    exact taken.trans (failCall_leads answered)
  · cases answered
    exact .of_eq rfl
  · next index rest _ =>
    have taken : sim.Leads
        { sim with openings := rest, readers := (agent, index) :: sim.readers } := .of_eq rfl
    exact taken.trans (act_leads answered)

theorem placeCall_leads (placed : sim.placeCall agent = some next) : sim.Leads next := by
  obtain ⟨there, did, rest⟩ := Option.bind_eq_some_iff.mp placed
  refine (act_leads did).trans ?_
  split at rest
  · cases rest
    exact .refl _
  · exact answerCall_leads rest

theorem nextArrival?_session {arrival : Arrival}
    (arrived : sim.nextArrival? agent = some (arrival, next)) : next.session = sim.session := by
  obtain ⟨index, -, rest⟩ := Option.bind_eq_some_iff.mp arrived
  obtain ⟨stream, -, rest⟩ := Option.bind_eq_some_iff.mp rest
  split at rest
  · cases rest
    rfl
  · split at rest
    · cases rest
      rfl
    · cases rest

theorem seenBy?_session {cancelled : Bool} {deadline : Option Nat} {arrival : Arrival}
    (seen : sim.seenBy? agent cancelled deadline = some (arrival, next)) :
    next.session = sim.session := by
  rw [seenBy?] at seen
  split at seen
  · cases seen
    rfl
  · split at seen
    · cases seen
      rfl
    · exact nextArrival?_session seen

theorem readOn_leads {cancelled : Bool} {deadline : Option Nat}
    (went : sim.readOn agent cancelled deadline = some next) : sim.Leads next := by
  obtain ⟨⟨arrival, middle⟩, seen, rest⟩ := Option.bind_eq_some_iff.mp went
  obtain ⟨read, did, done⟩ := Option.bind_eq_some_iff.mp rest
  cases done
  have shown : sim.Leads middle := .of_eq (seenBy?_session seen)
  exact (shown.trans (act_leads did)).trans (.of_eq (dropUnread_session read agent))

/-! ## Running -/

theorem stepTask_leads (went : sim.stepTask id = some next) : sim.Leads next := by
  obtain ⟨task, -, rest⟩ := Option.bind_eq_some_iff.mp went
  split at rest
  · obtain gave | ⟨-, placed⟩ := Option.or_eq_some_iff.mp rest
    · exact act_leads gave
    · exact placeCall_leads placed
  · exact act_leads rest
  · exact readOn_leads rest
  · obtain ⟨locked, did, stored⟩ := Option.bind_eq_some_iff.mp rest
    exact (act_leads did).trans (act_leads stored)
  · exact act_leads rest
  · cases rest

theorem stepCall_leads (went : sim.stepCall id = some next) : sim.Leads next := by
  obtain ⟨call, -, rest⟩ := Option.bind_eq_some_iff.mp went
  split at rest
  · exact act_leads rest
  · split at rest
    · exact placeCall_leads rest
    · exact readOn_leads rest
    · cases rest
  · obtain ⟨locked, did, ran⟩ := Option.bind_eq_some_iff.mp rest
    exact (act_leads did).trans (act_leads ran)

theorem stepTasks_leads (went : sim.stepTasks = some next) : sim.Leads next := by
  obtain ⟨id, -, went⟩ := List.exists_of_findSome?_eq_some went
  exact stepTask_leads went

theorem exhaust_leads {step : Simulation → Option Simulation}
    (leads : ∀ sim next, step sim = some next → sim.Leads next) (fuel : Nat) (sim : Simulation) :
    sim.Leads (exhaust step fuel sim) := by
  induction fuel generalizing sim with
  | zero => exact .refl sim
  | succ fuel ih =>
    rw [exhaust]
    split
    · next next went => exact (leads sim next went).trans (ih next)
    · exact .refl sim

theorem settle_leads (sim : Simulation) : sim.Leads sim.settle :=
  exhaust_leads (fun _ _ => stepTasks_leads) _ sim

theorem runCall_leads (sim : Simulation) (id : Nat) : sim.Leads (sim.runCall id) :=
  exhaust_leads (fun _ _ => stepCall_leads) _ sim

/-! ## Waiting -/

theorem passUntil_leads (sim : Simulation) (moment : Nat) : sim.Leads (sim.passUntil moment) :=
  attempt_leads sim _

theorem abandon_leads (id moment : Nat) (sim : Simulation) :
    sim.Leads (awaitUntil.abandon id moment sim) :=
  ((passUntil_leads sim moment).trans (attempt_leads _ _)).trans (.of_eq (dropUnread_session _ _))

theorem awaitUntil_leads (id moment fuel : Nat) (sim : Simulation) :
    sim.Leads (awaitUntil id moment fuel sim) := by
  induction fuel generalizing sim with
  | zero => exact .refl sim
  | succ fuel ih =>
    have rested : sim.Leads (((sim.runCall id).settle).runCall id) :=
      ((runCall_leads sim id).trans (settle_leads _)).trans (runCall_leads _ id)
    rw [awaitUntil]
    refine rested.trans ?_
    generalize ((sim.runCall id).settle).runCall id = rested
    split
    · exact .refl rested
    · split
      · split
        · exact (passUntil_leads rested _).trans (ih _)
        · exact abandon_leads id moment rested
      · exact abandon_leads id moment rested

theorem await_leads (sim : Simulation) (id : Nat) : sim.Leads (sim.await id) :=
  awaitUntil_leads id _ _ sim

/-! ## What a client does -/

theorem startCall_leads {demand : Session.Demand}
    (started : sim.startCall demand = some (id, next)) : sim.Leads next := by
  obtain ⟨there, did, rest⟩ := Option.bind_eq_some_iff.mp started
  cases rest
  exact (act_leads did).trans (runCall_leads there _)

theorem perform_leads {demand : Session.Demand} {outcome : Option Outcome}
    (performed : sim.perform demand = some (outcome, next)) : sim.Leads next := by
  obtain ⟨⟨id, started⟩, began, rest⟩ := Option.bind_eq_some_iff.mp performed
  obtain ⟨-, rfl⟩ := Prod.mk.inj (Option.some.inj rest)
  exact (startCall_leads began).trans (await_leads started id)

theorem performBoth_leads {first second : Session.Demand}
    {outcomes : Option Outcome × Option Outcome}
    (performed : sim.performBoth first second = some (outcomes, next)) : sim.Leads next := by
  obtain ⟨⟨firstId, one⟩, began, rest⟩ := Option.bind_eq_some_iff.mp performed
  obtain ⟨⟨secondId, both⟩, followed, rest⟩ := Option.bind_eq_some_iff.mp rest
  obtain ⟨-, rfl⟩ := Prod.mk.inj (Option.some.inj rest)
  have started := (startCall_leads began).trans (startCall_leads followed)
  exact (started.trans (await_leads both firstId)).trans (await_leads _ secondId)

/-! ## What a target does -/

theorem send_session (sim : Simulation) (index : Nat) (items : List StreamItem) :
    (sim.send index items).2.session = sim.session := by
  rw [send]
  split
  · split <;> rfl
  · rfl

theorem attemptAll_leads {α : Type} (items : List α) (action : Session.Action)
    (sim : Simulation) : sim.Leads (items.foldl (fun sim _ => sim.attempt action) sim) := by
  induction items generalizing sim with
  | nil => exact .refl sim
  | cons item rest ih => exact (attempt_leads sim action).trans (ih _)

theorem takeRequests_leads {remote : Nat} {requests : List SubscribeRequest} {more : Bool}
    (took : sim.takeRequests remote = some (requests, more, next)) : sim.Leads next := by
  obtain ⟨call, -, rest⟩ := Option.bind_eq_some_iff.mp took
  obtain ⟨queue, -, rest⟩ := Option.bind_eq_some_iff.mp rest
  obtain ⟨-, rest⟩ := Prod.mk.inj (Option.some.inj rest)
  obtain ⟨-, rfl⟩ := Prod.mk.inj rest
  exact attemptAll_leads queue.waiting _ sim

/-! ## Whatever is done -/

/-- One thing that a client, a target or the passing of time does to a simulation. -/
inductive Operates (sim : Simulation) : Simulation → Prop where
  | act {action : Session.Action} {next : Simulation} (did : sim.act action = some next) :
      Operates sim next
  | startCall {demand : Session.Demand} {id : Nat} {next : Simulation}
      (started : sim.startCall demand = some (id, next)) : Operates sim next
  | perform {demand : Session.Demand} {outcome : Option Outcome} {next : Simulation}
      (performed : sim.perform demand = some (outcome, next)) : Operates sim next
  | performBoth {first second : Session.Demand} {outcomes : Option Outcome × Option Outcome}
      {next : Simulation} (performed : sim.performBoth first second = some (outcomes, next)) :
      Operates sim next
  | settle : Operates sim sim.settle
  | pass (time : Duration) : Operates sim (sim.pass time)
  | addStream : Operates sim sim.addStream
  | script (opening : Opening) : Operates sim (sim.script opening)
  | send (index : Nat) (items : List StreamItem) : Operates sim (sim.send index items).2
  | endStream (index : Nat) : Operates sim (sim.endStream index)
  | takeRequests {remote : Nat} {requests : List SubscribeRequest} {more : Bool}
      {next : Simulation} (took : sim.takeRequests remote = some (requests, more, next)) :
      Operates sim next

theorem Operates.leads (operates : Operates sim next) : sim.Leads next := by
  cases operates with
  | act did => exact act_leads did
  | startCall started => exact startCall_leads started
  | perform performed => exact perform_leads performed
  | performBoth performed => exact performBoth_leads performed
  | settle => exact settle_leads sim
  | pass time => exact attempt_leads sim _
  | addStream => exact .of_eq rfl
  | script opening => exact .of_eq rfl
  | send index items => exact .of_eq (send_session sim index items)
  | endStream index => exact .of_eq rfl
  | takeRequests took => exact takeRequests_leads took

/-- What a simulation comes to in any number of operations, its session comes to in one run. -/
theorem leads_of_operates (operated : Relation.ReflTransGen Operates sim next) :
    sim.Leads next := by
  induction operated with
  | refl => exact .refl sim
  | tail _ operates ih => exact ih.trans operates.leads

theorem reachable_of_operates (reachable : Reachable sim.session)
    (operated : Relation.ReflTransGen Operates sim next) : Reachable next.session :=
  (leads_of_operates operated).reachable reachable

end Simulation

/-! ## The server behind the program -/

namespace Cli

open Simulation (Leads)

theorem watchStream_leads (closing : Option Nat) (fuel : Nat) (sim : Simulation) :
    sim.Leads (watchStream closing fuel sim) := by
  induction fuel generalizing sim with
  | zero => exact .refl sim
  | succ fuel ih =>
    unfold watchStream
    refine (Simulation.settle_leads sim).trans ?_
    generalize sim.settle = settled
    dsimp only
    split
    · exact .refl settled
    · split
      · split
        · exact (Simulation.passUntil_leads settled _).trans (ih _)
        · exact Simulation.passUntil_leads settled _
      · exact (Simulation.passUntil_leads settled _).trans (ih _)
      · exact Simulation.passUntil_leads settled _
      · exact .refl settled

theorem serveOnce_leads (sim : Simulation) (metadata : CallMetadata) (rpcArgs : RpcArgs)
    (json : Bool) : sim.Leads (serveOnce sim metadata rpcArgs json).server := by
  rw [serveOnce]
  split
  · next done performed => exact Simulation.perform_leads performed
  · next error done performed => exact Simulation.perform_leads performed
  · next done performed =>
    split
    · exact Simulation.perform_leads performed
    · exact Simulation.perform_leads performed
  · exact .refl sim

theorem install_leads (sim : Simulation) : sim.Leads (install sim) :=
  (Simulation.attempt_leads sim _).trans (Simulation.attempt_leads _ _)

theorem closeStream_leads (watched : Simulation) : watched.Leads (closeStream watched) := by
  rw [closeStream]
  split
  · next performed => exact Simulation.perform_leads performed
  · exact .refl watched

theorem serveStream_leads (sim : Simulation) (metadata : CallMetadata) (rpcArgs : RpcArgs)
    (arguments : Arguments) :
    sim.Leads (serveStream sim metadata rpcArgs arguments).server := by
  rw [serveStream]
  refine (install_leads sim).trans ?_
  split
  · exact .refl _
  · next id started began =>
    refine (Simulation.startCall_leads began).trans ?_
    split
    · exact .refl started
    · exact (watchStream_leads _ _ started).trans (closeStream_leads _)

/-- Whatever the server does, the session with it is one that could come about with any target. -/
theorem serve_reachable (server : Simulation) (config : TelemetryConfig) (arguments : Arguments) :
    Reachable (serve server config arguments).server.session := by
  have opened : ∀ metadata, Reachable (openSession server config metadata).session :=
    fun metadata => .fresh { keys := config.policies } none none
  rw [serve]
  split
  · exact (serveOnce_leads _ _ _ _).reachable (opened _)
  · exact (serveStream_leads _ _ _ _).reachable (opened _)

end Cli

end PbrTelemetry
