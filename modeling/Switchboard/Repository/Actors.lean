import Switchboard.Entity.Key
import Switchboard.Table

namespace Switchboard

/-! Actors: the entities of a repository are worked on by one actor each, which is
started when it is needed and may end. -/

/-- A reference to one actor. An actor started later for the same entity is another. -/
structure ActorRef where
  key : EntityKey
  number : Nat
deriving DecidableEq, Repr

structure Actors where
  /-- The actor started last for each entity. -/
  latest : Table EntityKey Nat
  started : Nat
  /-- The numbers of those that have ended. -/
  ended : List Nat
  ended_lt_started : ∀ number ∈ ended, number < started

namespace Actors

def empty : Actors := ⟨.empty, 0, [], by simp⟩

def isAlive (a : Actors) (actor : ActorRef) : Bool :=
  actor.number < a.started && actor.number ∉ a.ended

def start (a : Actors) (key : EntityKey) : ActorRef × Actors :=
  (⟨key, a.started⟩, {
    latest := a.latest.insert key a.started
    started := a.started + 1
    ended := a.ended
    ended_lt_started := fun number ended => Nat.lt_succ_of_lt (a.ended_lt_started number ended) })

/-- The actor of an entity, started if there is none alive. -/
def obtain (a : Actors) (key : EntityKey) : ActorRef × Actors :=
  match a.latest.find? key with
  | none => a.start key
  | some number => if a.isAlive ⟨key, number⟩ then (⟨key, number⟩, a) else a.start key

/-- The actors without one of them. -/
def stop (a : Actors) (actor : ActorRef) : Actors :=
  if started : actor.number < a.started then
    { a with
      ended := actor.number :: a.ended
      ended_lt_started := by simpa [started] using a.ended_lt_started }
  else a

def retire (a : Actors) (key : EntityKey) : Actors :=
  match a.latest.find? key with
  | none => a
  | some number => a.stop ⟨key, number⟩

theorem start_isAlive (a : Actors) (key : EntityKey) :
    (a.start key).2.isAlive (a.start key).1 = true := by
  have fresh : a.started ∉ a.ended := fun ended =>
    Nat.lt_irrefl _ (a.ended_lt_started a.started ended)
  simp [start, isAlive, fresh]

theorem obtain_isAlive (a : Actors) (key : EntityKey) :
    (a.obtain key).2.isAlive (a.obtain key).1 = true := by
  unfold obtain
  split
  · exact a.start_isAlive key
  · split
    · assumption
    · exact a.start_isAlive key

theorem stop_isAlive (a : Actors) (actor : ActorRef) : (a.stop actor).isAlive actor = false := by
  by_cases started : actor.number < a.started <;> simp [stop, isAlive, started]

theorem obtain_key (a : Actors) (key : EntityKey) : (a.obtain key).1.key = key := by
  unfold obtain
  split
  · rfl
  · split <;> rfl

end Actors

end Switchboard
