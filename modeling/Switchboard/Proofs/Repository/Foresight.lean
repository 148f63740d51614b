import Switchboard.Proofs.Repository.Sending
import Switchboard.Proofs.Signal.Future

namespace Switchboard

/-! A repository does what it does by the ids and times that are to come. -/

open Switchboard.Computation

variable {β σ α : Type}

theorem Worker.dispatch_blind (worker : Worker β σ) (key : EntityKey) (command : Signal) :
    Blind (World.Alike id) (worker.dispatch key command) := by
  refine (outside_plain _).bind fun read => ?_
  cases read with
  | error error => exact .pure _
  | ok root =>
      refine (drawing_blind (Root.dispatch_blind worker.model root command)).bind fun dispatched => ?_
      obtain ⟨result, next⟩ := dispatched
      cases result with
      | error error =>
          cases error with
          | handler error => exact (drawing_blind (ofHandlerError_blind error command)).bind fun _ => .pure _
          | _ => exact .pure _
      | ok events =>
          refine (outside_plain _).bind fun written => ?_
          cases written <;> exact .pure _

namespace Repository

variable (r : Repository β σ)

theorem send_blind (actor : ActorRef) {work : Act (Cached β (Root σ)) (Except DispatchError α)}
    (blind : Blind (World.Alike id) work) : Blind (World.Alike id) (r.send actor work) := by
  rintro ⟨supply, state⟩ ⟨other, left⟩ same
  obtain rfl : left = state := same.outside
  cases late : r.late left.sent with
  | true =>
      rw [send_late late, send_late late]
      exact ⟨rfl, rfl, same.supply⟩
  | false =>
      cases alive : left.actors.isAlive actor with
      | false =>
          rw [send_ended late alive, send_ended late alive]
          exact ⟨rfl, rfl, same.supply⟩
      | true =>
          have seen : World.Alike id (inside ⟨supply, left⟩) (inside ⟨other, left⟩) := ⟨rfl, same.supply⟩
          have worked := blind seen
          rw [send_alive late alive, send_alive late alive]
          generalize work (inside ⟨supply, left⟩) = once at worked ⊢
          generalize work (inside ⟨other, left⟩) = again at worked ⊢
          obtain ⟨reply, done⟩ := once
          obtain ⟨answer, after⟩ := again
          obtain ⟨rfl, kept⟩ : reply = answer ∧ World.Alike id done after := worked
          refine ⟨rfl, ?_, kept.supply⟩
          change RepositoryState.mk after.outside _ _ = RepositoryState.mk done.outside _ _
          rw [kept.outside]
          rfl

theorem dispatch_blind (command : Signal) : Blind (World.Alike id) (r.dispatch command) := by
  have attempt : ∀ key, Blind (World.Alike id) (do r.dispatchTo (← Act.outside (actor key)) command) := fun key =>
    (outside_plain _).bind fun actor => r.send_blind actor (r.worker.dispatch_blind actor.key command)
  unfold dispatch
  cases r.keyOf? command with
  | none => exact .pure _
  | some key =>
      refine (outside_plain _).bind fun first => ?_
      refine (r.send_blind first (r.worker.dispatch_blind first.key command)).bind fun reply => ?_
      rcases reply with (_ | _ | _) | _
      · exact .pure _
      · exact attempt key
      · exact .pure _
      · exact .pure _

end Repository

end Switchboard
