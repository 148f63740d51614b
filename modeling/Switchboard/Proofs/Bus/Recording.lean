import Switchboard.Bus.Posting
import Switchboard.Bus.Sweep
import Switchboard.Proofs.Computation

namespace Switchboard

/-! Recording what a bus does. A recorded bus does what the bus does, and puts down each call
that it makes with the answer to it. -/

variable {ω α : Type}

instance decidableEqExcept {ε : Type} [DecidableEq ε] [DecidableEq α] : DecidableEq (Except ε α)
  | .ok _, .ok _ => decidable_of_iff _ (by rw [Except.ok.injEq])
  | .error _, .error _ => decidable_of_iff _ (by rw [Except.error.injEq])
  | .ok _, .error _ => isFalse nofun
  | .error _, .ok _ => isFalse nofun

/-- A call that a bus makes of its store, of a consumer or of whom it reports to. -/
inductive Call where
  | save (signal : Signal) (status : SignalStatus) (error : Option ErrorRecord)
      (answer : Except StorageError Unit)
  | record (id : SignalId) (answer : Except StorageError (Option SignalRecord))
  | scheduled (answer : Except StorageError (List Signal))
  | claim (id : SignalId) (answer : Except StorageError Bool)
  | deliver (consumer : String) (signal : Signal) (answer : Except ConfigurationError Outcome)
  | acknowledge (ack : Ack) (answer : Except MonitorError Unit)
  /-- A system event is posted. -/
  | announce (event : Signal)
deriving DecidableEq

/-- To whom a signal is delivered, and which. -/
def Call.delivery? : Call → Option (String × Signal)
  | .deliver consumer signal _ => some (consumer, signal)
  | _ => none

/-- The outside of a bus, and the calls that the bus has made. -/
structure Recorded (ω : Type) where
  outside : ω
  calls : List Call

/-- A world whose outside goes with a list of calls. -/
def World.recorded (w : World ω) (calls : List Call) : World (Recorded ω) :=
  ⟨w.supply, ⟨w.outside, calls⟩⟩

def Recorded.noting (call : α → Call) (step : StateM ω α) : StateM (Recorded ω) α := fun r =>
  let (value, outside) := step r.outside
  (value, ⟨outside, r.calls ++ [call value]⟩)

def Act.noted (call : α → Call) (act : Act ω α) : Act (Recorded ω) α := fun w =>
  let (value, after) := act ⟨w.supply, w.outside.outside⟩
  (value, after.recorded (w.outside.calls ++ [call value]))

theorem Act.noted_apply (call : α → Call) (act : Act ω α) (w : World ω) (calls : List Call) :
    act.noted call (w.recorded calls) =
      ((act w).1, (act w).2.recorded (calls ++ [call (act w).1])) := rfl

def SignalStore.recorded (s : SignalStore ω) : SignalStore (Recorded ω) where
  save signal status error := Recorded.noting (.save signal status error) (s.save signal status error)
  record id := Recorded.noting (.record id) (s.record id)
  scheduled := Recorded.noting .scheduled s.scheduled
  claim id := Recorded.noting (.claim id) (s.claim id)

def Observer.recorded (observer : Observer ω) : Observer (Recorded ω) := fun ack =>
  Act.noted (.acknowledge ack) (observer ack)

/-- The consumer with all that is delivered to it put down. Whatever it is, it takes signals
like a dispatcher. -/
def Consumer.recorded (c : Consumer ω) : Consumer (Recorded ω) := .dispatcher {
  id := c.id
  classes := c.classes
  dispatch signal :=
    Except.mapError .configuration <$> Act.noted (.deliver c.id signal) (c.deliver signal) }

/-- A dispatcher that knows no errors but those of configuration. -/
theorem Consumer.deliver_configured (id : String) (classes : List MessageClass)
    (step : Signal → Act ω (Except ConfigurationError Outcome)) (signal : Signal) :
    (Consumer.dispatcher ⟨id, classes, fun signal => Except.mapError .configuration <$> step signal⟩).deliver signal =
      step signal := by
  funext w
  simp only [deliver, Computation.bind_apply, Computation.map_apply]
  rcases step signal w with ⟨_ | _, after⟩ <;> rfl

theorem Consumer.deliver_recorded (c : Consumer ω) (signal : Signal) :
    c.recorded.deliver signal = (c.deliver signal).noted (.deliver c.id signal) :=
  deliver_configured c.id c.classes (fun signal => (c.deliver signal).noted (.deliver c.id signal)) signal

namespace Registry

def recorded (r : Registry ω) : Registry (Recorded ω) where
  ownership := r.ownership
  subscriptions := r.subscriptions.map fun s => ⟨s.message, s.consumers.map Consumer.recorded⟩

variable (r : Registry ω) (type : String)

theorem find?_recorded :
    r.recorded.find? type = (r.find? type).map fun s => ⟨s.message, s.consumers.map Consumer.recorded⟩ :=
  Table.find?_map _ _ _

theorem class?_recorded : r.recorded.class? type = r.class? type := by
  cases found : r.find? type <;> simp [class?, find?_recorded, found]

theorem consumers_recorded : r.recorded.consumers type = (r.consumers type).map Consumer.recorded := by
  cases found : r.find? type <;> simp [consumers, find?_recorded, found]

end Registry

namespace Bus

def recorded (b : Bus ω) : Bus (Recorded ω) where
  commands := b.commands.recorded
  events := b.events.recorded
  store := b.store.recorded
  system := b.system.map fun post event => Recorded.noting (fun _ => .announce event) (post event)
  multitenant := b.multitenant

theorem registry_recorded (b : Bus ω) (kind : SignalKind) :
    b.recorded.registry kind = (b.registry kind).recorded := by
  cases kind <;> rfl

theorem defect?_recorded (b : Bus ω) (signal : Signal) (message : MessageClass) :
    b.recorded.defect? signal message = b.defect? signal message := rfl

end Bus

end Switchboard
