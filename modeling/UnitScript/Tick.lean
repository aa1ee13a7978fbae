import Std.Data.ExtTreeSet
import UnitScript.Interpreter

/-!
One tick of an environment: every live thread has one turn, in the order of creation. Who gets a
turn is settled when the tick starts, so a thread started during the tick waits for the next, and
one that a signal ends before its turn never has it. A blocked thread whose condition has cleared
is woken and runs in the same turn.
-/

namespace UnitScript

structure TickReport where
  ran : Array ThreadId := #[]
  blocked : Array ThreadId := #[]
  finished : Array ThreadId := #[]
  /-- Threads that a signal ended, their own or another's. -/
  killed : Array ThreadId := #[]
  faulted : Array (ThreadId × Fault) := #[]
  deriving DecidableEq

namespace TickReport

def record (r : TickReport) (id : ThreadId) (status : Status) : TickReport :=
  let r := { r with ran := r.ran.push id }
  match status with
  | .continuing => r
  | .blocked _ => { r with blocked := r.blocked.push id }
  | .finished => { r with finished := r.finished.push id }
  | .killed _ => { r with killed := r.killed.push id }
  | .faulted fault => { r with faulted := r.faulted.push (id, fault) }

def ended (r : TickReport) : Std.ExtTreeSet ThreadId :=
  .ofList (r.finished.toList ++ r.killed.toList ++ r.faulted.toList.map Prod.fst)

end TickReport

structure TickState (σ : Type) where
  environment : Environment
  host : σ
  report : TickReport := {}

namespace TickState

variable {σ : Type} [Host σ]

def isCleared (host : σ) (now : Tick) : BlockReason → Bool
  | .sleep deadline => deadline ≤ now
  | .motion motion piece axis => !(Host.pieces host).isInMotion motion piece axis

def runThread (config : Config) (now : Tick) (environment : Environment) (host : σ)
    (report : TickReport) (thread : Thread) : TickState σ :=
  let id := thread.id
  let (status, m) :=
    Machine.run config now config.runtime.maxInstructionsPerRun { thread, environment, host }
  { environment := if status.isLive then m.environment.restore m.thread else m.environment
    host := m.host
    report := report.record id status }

def turn (config : Config) (now : Tick) (s : TickState σ) (id : ThreadId) : TickState σ :=
  match s.environment.thread? id with
  | none => s
  | some thread =>
    let environment := s.environment.detach id
    match thread.state with
    | .ready => runThread config now environment s.host s.report thread
    | .blocked reason =>
      if isCleared s.host now reason then
        runThread config now environment s.host s.report thread.wake
      else
        { s with report := { s.report with blocked := s.report.blocked.push id } }
    | .finished | .faulted _ => { s with environment }

/-- Settle the report: a scheduled thread that is gone without an end of its own went to another's
signal, and one that was blocked before it went is no longer blocked. -/
def close (s : TickState σ) (scheduled : List ThreadId) : TickState σ :=
  let ended := s.report.ended
  let gone := scheduled.filter fun id =>
    !ended.contains id && !s.environment.threads.contains id
  { s with
    report :=
      { s.report with
        killed := s.report.killed ++ gone
        blocked := s.report.blocked.filter s.environment.threads.contains } }

end TickState

def runTick {σ : Type} [Host σ] (config : Config) (now : Tick) (environment : Environment)
    (host : σ) : TickState σ :=
  let scheduled := environment.threadIds
  (scheduled.foldl (TickState.turn config now) { environment, host }).close scheduled

end UnitScript
