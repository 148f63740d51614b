import Switchboard.Signal.Supply

namespace Switchboard

/-! Computations that change the world. -/

/-- What a run can change: the supply of ids and times, and everything outside. -/
structure World (ω : Type) where
  supply : Supply
  outside : ω

abbrev Act (ω α : Type) := StateM (World ω) α

/-- A part of something larger that can be seen and exchanged by itself. -/
structure Place (ω α : Type) where
  get : ω → α
  set : α → ω → ω
  get_set : ∀ part whole, get (set part whole) = part
  set_get : ∀ whole, set (get whole) whole = whole
  set_set : ∀ first last whole, set last (set first whole) = set last whole

namespace Place

def inner (p : Place ω β) (q : Place β α) : Place ω α where
  get whole := q.get (p.get whole)
  set part whole := p.set (q.set part (p.get whole)) whole
  get_set part whole := by rw [p.get_set, q.get_set]
  set_get whole := by rw [q.set_get, p.set_get]
  set_set first last whole := by rw [p.get_set, p.set_set, q.set_set]

/-- What a computation on the part does to the whole. -/
def within (p : Place ω β) (step : StateM β α) : StateM ω α := fun whole =>
  let (value, part) := step (p.get whole)
  (value, p.set part whole)

end Place

namespace Act

/-- A computation that draws from the supply and leaves the outside alone. -/
def drawing (step : StateM Supply α) : Act ω α := fun w =>
  let (value, supply) := step w.supply
  (value, { w with supply })

/-- A computation on the outside, which leaves the supply alone. -/
def outside (step : StateM ω α) : Act ω α := fun w =>
  let (value, outside) := step w.outside
  (value, { w with outside })

/-- A computation whose outside is a part of a larger one. -/
def within (p : Place ω β) (act : Act β α) : Act ω α := fun w =>
  let (value, part) := act ⟨w.supply, p.get w.outside⟩
  (value, ⟨part.supply, p.set part.outside w.outside⟩)

end Act

end Switchboard
