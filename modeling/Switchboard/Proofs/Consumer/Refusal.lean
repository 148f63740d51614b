import Switchboard.Consumer.Delivery
import Switchboard.Proofs.Aggregate.Construction
import Switchboard.Proofs.Repository.Sequential
import Switchboard.Proofs.Signal.Inheritance

namespace Switchboard

/-! Why a signal comes to nothing, and how its consumer tells of that. A handler that rejects a
signal and one that fails at it are told apart. -/

variable {ω β σ κ : Type}

inductive Refusal where
  | rejected (rejection : Rejection)
  | failed (record : ErrorRecord)

def HandlerError.refusal : HandlerError → Refusal
  | .rejected rejection => .rejected rejection
  | .failed type message => .failed (.of type message)

/-- The event is the one that tells of a rejected signal. -/
structure Signal.Rejects (event parent : Signal) (rejection : Rejection) : Prop extends event.Inherits parent where
  type : event.type = rejection.type
  payload : event.payload = rejection.data
  producer : event.context.producer = some Rejection.producer
  version : event.context.version = none

inductive Outcome.Tells (signal : Signal) : Outcome → Refusal → Prop where
  | rejection {event : Signal} {rejection : Rejection} (rejects : event.Rejects signal rejection) :
      Tells signal (.rejection event) (.rejected rejection)
  | failure (record : ErrorRecord) : Tells signal (.failure record) (.failed record)

theorem ofHandlerError_tells (error : HandlerError) (signal : Signal) (supply : Supply) :
    (Outcome.ofHandlerError error signal supply).1.Tells signal error.refusal := by
  cases error with
  | rejected rejection =>
      exact .rejection ⟨produced_inherits rejection.eventMessage signal Rejection.producer none supply,
        rfl, rfl, rfl, rfl⟩
  | failed type message => exact .failure _

/-- A handler rejects, or fails, or its events cannot be written. -/
inductive HandlerResult.Refuses : HandlerResult → Refusal → Prop where
  | rejected (rejection : Rejection) : Refuses (.error (.rejected rejection)) (.rejected rejection)
  | failed (type message : String) : Refuses (.error (.failed type message)) (.failed (.of type message))
  | unwritable (error : EncodeError) : Refuses (.ofEvents (.error error)) (.failed (.of "Error" error.message))

theorem HandlerResult.Refuses.error {result : HandlerResult} {refusal : Refusal} (refuses : Refuses result refusal) :
    ∃ error, result = .error error ∧ refusal = error.refusal := by
  cases refuses <;> exact ⟨_, rfl, rfl⟩

/-- The handler of a method refuses a message, or the message cannot be read. -/
inductive HandlerMethod.Refuses (m : HandlerMethod ω) (payload : Json) (context : SignalContext) (outside : ω) :
    Refusal → Prop where
  | given {refusal : Refusal} (refuses : HandlerResult.Refuses (m.invoke payload context outside).1 refusal) :
      Refuses m payload context outside refusal
  | unreadable {μ : Type} {t : MessageType μ} {takesContext : Bool}
      {handle : μ → SignalContext → StateM ω HandlerResult} {error : DecodeError}
      (reads : m = .reading t takesContext handle) (unread : payload.decode t.decode = .error error) :
      Refuses m payload context outside (.failed (.of "Error" error.message))

theorem HandlerMethod.Refuses.error {m : HandlerMethod ω} {payload : Json} {context : SignalContext} {outside : ω}
    {refusal : Refusal} (refuses : m.Refuses payload context outside refusal) :
    ∃ error, (m.invoke payload context outside).1 = .error error ∧ refusal = error.refusal := by
  cases refuses with
  | given refuses => exact refuses.error
  | @unreadable _ _ _ _ error reads unread =>
      subst reads
      refine ⟨.codec error.message, ?_, rfl⟩
      simp only [reading, unread, Computation.pure_apply]

theorem HandlerSet.handle_refused {set : HandlerSet ω} {m : HandlerMethod ω} {signal : Signal} {w : World ω}
    {refusal : Refusal} (found : set.method? signal.type = some m)
    (refuses : m.Refuses signal.payload signal.context w.outside refusal) :
    (set.handle signal w).1.Tells signal refusal ∧
      (set.handle signal w).2.outside = (m.invoke signal.payload signal.context w.outside).2 := by
  obtain ⟨error, invoked, rfl⟩ := refuses.error
  simp only [handle, found, Computation.bind_apply, Computation.outside_apply, invoked, Computation.drawing_apply]
  exact ⟨ofHandlerError_tells error signal w.supply, trivial⟩

/-- The handler of a command refuses it, or the command cannot be read, or the entity cannot read
one of the events that come of it. -/
inductive Root.Refuses (model : AggregateModel σ) (root : Root σ) (command : Signal) (supply : Supply) :
    Refusal → Prop where
  | given {handler : CommandHandler σ} {result : HandlerResult} {refusal : Refusal}
      (known : model.handler? command.type = some handler)
      (handled : handler.handle root.state command.payload ⟨root.key.id, root.version, command⟩ = .given result)
      (refuses : HandlerResult.Refuses result refusal) : Refuses model root command supply refusal
  | unreadable {μ : Type} {t : MessageType μ} {handle : σ → μ → HandlerContext → Verdict} {error : DecodeError}
      (known : model.handler? command.type = some (.reading t handle))
      (unread : command.payload.decode t.decode = .error error) :
      Refuses model root command supply (.failed (.of "Error" error.message))
  | inapplicable {handler : CommandHandler σ} {messages : List EventMessage} {event : String} {error : DecodeError}
      (known : model.handler? command.type = some handler)
      (handled : handler.handle root.state command.payload ⟨root.key.id, root.version, command⟩ = .given (.ok messages))
      (unread : (produce model root.key.id command root.snapshot messages supply).1 = .error (.decode event error)) :
      Refuses model root command supply (.failed (.of "DecodeError" (AggregateError.decode event error).message))

section Aggregate

variable {model : AggregateModel σ} {root : Root σ} {command : Signal} {supply : Supply} {refusal : Refusal}

theorem Root.Refuses.error (refuses : root.Refuses model command supply refusal) :
    (∃ error, (dispatch model command root supply).1 = (.error (.handler error), root) ∧ refusal = error.refusal) ∨
      ∃ event error, (dispatch model command root supply).1 = (.error (.decode event error), root) ∧
        refusal = .failed (.of "DecodeError" (AggregateError.decode event error).message) := by
  cases refuses with
  | given known handled refuses =>
      obtain ⟨error, rfl, rfl⟩ := refuses.error
      refine .inl ⟨error, ?_, rfl⟩
      exact congrArg Prod.fst (dispatch_undecided (by simp only [decide, known, handled]))
  | @unreadable _ _ _ error known unread =>
      refine .inl ⟨.codec error.message, ?_, rfl⟩
      exact congrArg Prod.fst (dispatch_undecided (by simp only [decide, known, CommandHandler.reading, unread]))
  | @inapplicable _ messages event error known handled unread =>
      refine .inr ⟨event, error, ?_, rfl⟩
      have decided : root.decide model command = .ok messages := by
        simp only [decide, known, handled]
      rw [dispatch_obstructed decided (Prod.ext unread rfl)]

/-- An entity that refuses a command stays as it is. -/
theorem answer_refused {key : EntityKey} {s : Snapshot σ}
    (refuses : (Root.ofSnapshot model key s).Refuses model command supply refusal) :
    ∃ outcome, (model.answer key s command supply).1 = (.ok outcome, s) ∧ outcome.Tells command refusal := by
  rcases dispatched : Root.dispatch model command (.ofSnapshot model key s) supply with ⟨ended, later⟩
  obtain ⟨error, same, rfl⟩ | ⟨event, error, same, rfl⟩ := refuses.error
  · obtain rfl : ended = _ := (congrArg Prod.fst dispatched).symm.trans same
    refine ⟨_, ?_, ofHandlerError_tells error command later⟩
    simp only [AggregateModel.answer, Computation.bind_apply, dispatched, Computation.pure_apply, ExceptT.run, StateT.run]
  · obtain rfl : ended = _ := (congrArg Prod.fst dispatched).symm.trans same
    refine ⟨_, ?_, .failure _⟩
    simp only [AggregateModel.answer, Computation.bind_apply, dispatched, Computation.pure_apply, ExceptT.run, StateT.run]

end Aggregate

namespace Repository

variable {r : Repository β σ} {key : EntityKey} {command : Signal} {w : World (RepositoryState β σ)} {refusal : Refusal}

/-- All entities are the same, and so is what is recorded of them. -/
def EqualEntities (r : Repository β σ) (view : r.storage.View) (first second : Cached β (Root σ)) : Prop :=
  (r.inventory view first).latest r.model = (r.inventory view second).latest r.model ∧
    (r.inventory view first).records = (r.inventory view second).records

/-- Of the next two messages, one does not come too late. -/
def Reached (r : Repository β σ) (s : RepositoryState β σ) : Prop :=
  r.late s.sent = false ∨ r.late (s.sent + 1) = false

theorem send_reaching {α : Type} {actor : ActorRef} {work : Act (Cached β (Root σ)) (Except DispatchError α)}
    (prompt : r.late w.outside.sent = false) (alive : w.outside.actors.isAlive actor = true) :
    work (inside w) = ((r.send actor work w).1, inside (r.send actor work w).2) := by
  rw [send_alive prompt alive]
  rfl

/-- A command that reaches an actor gets the answer of the actor, unless that ends over it. -/
theorem dispatch_reached (target : r.keyOf? command = some key) (reached : r.Reached w.outside)
    (answers : (r.worker.dispatch key command (inside w)).1 ≠ .error .actorGone) :
    r.worker.dispatch key command (inside w) = ((r.dispatch command w).1, inside (r.dispatch command w).2) := by
  simp only [dispatch, target, dispatchTo, Computation.bind_apply, actor_key]
  cases late : r.late w.outside.sent with
  | false =>
      have worked : r.worker.dispatch key command (inside (Act.outside (actor key) w).2) = _ :=
        send_reaching late (actor_isAlive w key)
      rw [inside_actor] at worked
      rw [worked] at answers ⊢
      rcases sent : r.send (Act.outside (actor key) w).1 (r.worker.dispatch key command) (Act.outside (actor key) w).2 with
        ⟨(_ | _ | _) | _, done⟩
      case error.actorGone =>
        rw [sent] at answers
        exact absurd rfl answers
      all_goals rfl
  | true =>
      -- the first message ends the actor before it is read, so the second goes to an actor of its own
      have prompt : r.late (w.outside.sent + 1) = false := reached.resolve_left (by simp [late])
      obtain ⟨between, missed, same, sent⟩ : ∃ between,
          r.send (Act.outside (actor key) w).1 (r.worker.dispatch key command) (Act.outside (actor key) w).2 =
            (.error .actorGone, between) ∧ inside between = inside w ∧ between.outside.sent = w.outside.sent + 1 :=
        ⟨_, send_late late, rfl, rfl⟩
      have worked : r.worker.dispatch key command (inside (Act.outside (actor key) between).2) = _ :=
        send_reaching (sent ▸ prompt) (actor_isAlive between key)
      rw [inside_actor, same] at worked
      rw [missed]
      simp only [Computation.bind_apply, actor_key]
      exact worked

/-- A repository whose entity refuses a command tells of that, and keeps all entities as they are. -/
theorem dispatch_refused (view : r.storage.View) (reliable : r.storage.Reliable) (proper : r.Proper w.outside.cached)
    (target : r.keyOf? command = some key) (reached : r.Reached w.outside)
    (refuses : (Root.ofSnapshot r.model key ((r.inventory view w.outside.cached).latest r.model key)).Refuses
      r.model command w.supply refusal) :
    ∃ outcome, (r.dispatch command w).1 = .ok outcome ∧ outcome.Tells command refusal ∧
      r.EqualEntities view (r.dispatch command w).2.outside.cached w.outside.cached := by
  obtain ⟨outcome, answered, tells⟩ := answer_refused refuses
  have answer := worker_answer view (w := inside w) reliable proper key command
  rw [keyOf_normal target] at answer
  rcases worked : r.worker.dispatch key command (inside w) with ⟨reply, done⟩
  rw [worked] at answer
  obtain ⟨-, -, next, same, -⟩ := answer
  obtain rfl : reply = .ok outcome := congrArg Prod.fst ((congrArg Prod.fst same).symm.trans answered)
  have sent := dispatch_reached target reached (by simp [worked])
  have replied := dispatch_replied view proper target
  rcases dispatched : r.dispatch command w with ⟨given, after⟩
  rw [worked, dispatched] at sent
  rw [dispatched] at replied
  obtain rfl : .ok outcome = given := congrArg Prod.fst sent
  refine ⟨outcome, rfl, tells, ?_⟩
  -- entities change only along with a success that reports it, and no refusal is told as one
  obtain ⟨-, unchanged⟩ | ⟨events, _, reported, -⟩ := replied.2.cases
  · exact unchanged
  · cases tells <;> cases reported

end Repository

/-- The consumer refuses a signal that gets to it. Of the entities, `see` sees the ones of a repository and
none that a method changes by itself. -/
inductive Consumer.Refuses (see : ω → κ) (signal : Signal) (w : World ω) : Consumer ω → Refusal → Prop where
  | handlers {set : HandlerSet ω} {m : HandlerMethod ω} {refusal : Refusal}
      (found : set.method? signal.type = some m)
      (refuses : m.Refuses signal.payload signal.context w.outside refusal)
      (apart : see (m.invoke signal.payload signal.context w.outside).2 = see w.outside) :
      Refuses see signal w (.handlers set) refusal
  | repository {β σ : Type} {r : Repository β σ} {place : Place ω (RepositoryState β σ)} {key : EntityKey}
      {refusal : Refusal} (view : r.storage.View) (reliable : r.storage.Reliable)
      (proper : r.Proper (place.get w.outside).cached) (target : r.keyOf? signal = some key)
      (reached : r.Reached (place.get w.outside))
      (refuses : (Root.ofSnapshot r.model key ((r.inventory view (place.get w.outside).cached).latest r.model key)).Refuses
        r.model signal w.supply refusal)
      (entities : ∀ first second outside, r.EqualEntities view first.cached second.cached →
        see (place.set first outside) = see (place.set second outside)) :
      Refuses see signal w (.dispatcher (r.dispatcher place)) refusal

theorem Consumer.Refuses.deliver {see : ω → κ} {signal : Signal} {w : World ω} {c : Consumer ω} {refusal : Refusal}
    (refuses : c.Refuses see signal w refusal) :
    ∃ outcome after, c.deliver signal w = (.ok outcome, after) ∧ outcome.Tells signal refusal ∧
      see after.outside = see w.outside := by
  cases refuses with
  | @handlers set m _ found refuses apart =>
      obtain ⟨tells, outside⟩ := HandlerSet.handle_refused found refuses
      refine ⟨_, _, rfl, tells, ?_⟩
      exact (congrArg see outside).trans apart
  | @repository _ _ r place key _ view reliable proper target reached refuses entities =>
      obtain ⟨outcome, given, tells, same⟩ := Repository.dispatch_refused
        (w := ⟨w.supply, place.get w.outside⟩) view reliable proper target reached refuses
      rcases dispatched : r.dispatch signal ⟨w.supply, place.get w.outside⟩ with ⟨reply, after⟩
      rw [dispatched] at given same
      obtain rfl : reply = .ok outcome := given
      refine ⟨outcome, ⟨after.supply, place.set after.outside w.outside⟩, ?_, tells, ?_⟩
      · simp only [Consumer.deliver, Repository.dispatcher, Computation.bind_apply, Act.within, dispatched,
          Computation.pure_apply]
      · have unchanged := entities after.outside (place.get w.outside) w.outside same
        rwa [place.set_get] at unchanged

end Switchboard
