import Switchboard.Bus.Processing

namespace Switchboard

/-! Delivery of signals that were scheduled and have become due. -/

structure SweepReport where
  delivered : Nat
  pending : Nat
  /-- How many due signals somebody else had claimed. -/
  alreadyClaimed : Nat
deriving DecidableEq, Repr

namespace Bus

/-- Delivers one scheduled signal if it is due and nobody else has claimed it. -/
def sweepSignal (b : Bus ω) (fuel : Nat) (now : UInt64) (report : SweepReport) (signal : Signal) :
    Run ω SweepReport := do
  if signal.context.isDelayed now then return { report with pending := report.pending + 1 }
  else if ← Run.storing (b.store.claim signal.id) then
    discard (b.carryOut fuel signal)
    return { report with delivered := report.delivered + 1 }
  else return { report with alreadyClaimed := report.alreadyClaimed + 1 }

/-- Delivers all signals that are due at a time. -/
def sweepDue (b : Bus ω) (fuel : Nat) (now : UInt64) : Run ω SweepReport := do
  (← Run.storing b.store.scheduled).foldlM (b.sweepSignal fuel now) ⟨0, 0, 0⟩

/-- Delivers all signals that are due. -/
def sweep (b : Bus ω) (fuel : Nat) : Run ω SweepReport := do
  b.sweepDue fuel (← Run.acting (Act.drawing Supply.now))

end Bus

/-- The bus with all its consumers, after a first sweep. -/
def BusPlan.launch (p : BusPlan ω) (fuel : Nat) : Run ω (Bus ω) := do
  match p.build with
  | .error error => throw (.error (.registration error))
  | .ok bus =>
      discard (bus.sweep fuel)
      return bus

/-- Something that sweeps a bus again and again until it is shut down. -/
structure Sweeper where
  /-- Milliseconds between two sweeps. -/
  interval : Nat
  sweeps : Nat
  running : Bool
deriving DecidableEq, Repr

namespace Sweeper

def defaultInterval : Nat := 1000

def start (interval : Nat) : Sweeper := ⟨interval, 0, true⟩

/-- Sweeps once, if not shut down. A sweep counts also if it breaks off. -/
def tick (s : Sweeper) (b : Bus ω) (fuel : Nat) : Act ω Sweeper := do
  if s.running then
    discard (b.sweep fuel).run
    return { s with sweeps := s.sweeps + 1 }
  else return s

/-- Ends the sweeping. Doing so again changes nothing. -/
def shutdown (s : Sweeper) : Sweeper := { s with running := false }

end Sweeper

end Switchboard
