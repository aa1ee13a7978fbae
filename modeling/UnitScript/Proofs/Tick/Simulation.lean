import UnitScript.Proofs.Interpreter.Deeds
import UnitScript.Proofs.Tick.Turn

/-!
Hosts that scripts cannot tell apart. All that a thread learns from its host are its pieces and the
values of the unit, so hosts that agree on these and go on to do so see the same run and the same
tick, whatever else they make of what they are told.
-/

namespace UnitScript

/-- A relation between hosts that scripts cannot tell apart, and that nothing they do breaks up. -/
structure Host.Simulation {σ τ : Type} [Host σ] [Host τ] (R : σ → τ → Prop) : Prop where
  pieces : ∀ {h h'}, R h h' → Host.pieces h = Host.pieces h'
  value : ∀ {h h'}, R h h' → ∀ key, Host.value key h = Host.value key h'
  request : ∀ {h h'}, R h h' → ∀ piece request,
    R (Host.request piece request h) (Host.request piece request h')
  act : ∀ {h h'}, R h h' → ∀ act, R (Host.act act h) (Host.act act h')
  setValue : ∀ {h h'}, R h h' → ∀ key value,
    R (Host.setValue key value h) (Host.setValue key value h')
  reportFault : ∀ {h h'}, R h h' → ∀ thread fault,
    R (Host.reportFault thread fault h) (Host.reportFault thread fault h')

variable {σ τ : Type} [Host σ] [Host τ] {R : σ → τ → Prop}

namespace Machine

structure Alike (R : σ → τ → Prop) (m : Machine σ) (m' : Machine τ) : Prop where
  thread : m.thread = m'.thread
  environment : m.environment = m'.environment
  host : R m.host m'.host

variable {m : Machine σ} {m' : Machine τ}

theorem Alike.execute_eq (alike : Alike R m m') (sim : Host.Simulation R) (config : Config)
    (now : Tick) (t : Thread) (i : Instr) :
    m.execute config now t i = m'.execute config now t i := by
  have environment := alike.environment
  have pieces := sim.pieces alike.host
  have value := sim.value alike.host
  cases i with
  | animate verb piece axis => simp only [execute, checkPiece, environment, pieces]
  | burst burst piece => simp only [execute, checkPiece, environment, pieces]
  | setFlag flag on piece => simp only [execute, checkPiece, environment, pieces]
  | attachUnit => simp only [execute, pieceOfValue, checkPiece, environment, pieces]
  | waitFor motion piece axis => simp only [execute, checkPiece, environment, pieces]
  | getUnitValue => simp only [execute, value]
  | callScript script argc => simp only [execute, call, environment]
  | startScript script argc => simp only [execute, environment]
  | pushStatic slot => simp only [execute, environment]
  | popStatic slot => simp only [execute, environment]
  | _ => rfl

theorem Alike.step_eq (alike : Alike R m m') (sim : Host.Simulation R) (config : Config)
    (now : Tick) : m.step config now = m'.step config now := by
  simp only [step, alike.environment, alike.thread, alike.execute_eq sim config now]

theorem Alike.perform {host : σ} {host' : τ} (related : R host host') (sim : Host.Simulation R)
    (t : Thread) (e : Environment) (d : Deed) :
    Alike R (perform t e host d) (perform t e host' d) := by
  cases d with
  | request piece request => exact ⟨rfl, rfl, sim.request related piece request⟩
  | act act => exact ⟨rfl, rfl, sim.act related act⟩
  | setValue key value => exact ⟨rfl, rfl, sim.setValue related key value⟩
  | _ => exact ⟨rfl, rfl, related⟩

omit [Host σ] [Host τ] in
theorem Alike.settle (alike : Alike R m m') (halt : Halt) :
    Alike R (m.settle halt) (m'.settle halt) := by
  obtain ⟨thread, environment, host⟩ := alike
  cases halt <;> exact ⟨by simp only [Machine.settle, thread], environment, host⟩

theorem Alike.run (alike : Alike R m m') (sim : Host.Simulation R) (config : Config) (now : Tick)
    (budget : Nat) :
    (m.run config now budget).1 = (m'.run config now budget).1 ∧
      Alike R (m.run config now budget).2 (m'.run config now budget).2 ∧
      m.deeds config now budget = m'.deeds config now budget := by
  induction budget generalizing m m' with
  | zero => exact ⟨rfl, alike, rfl⟩
  | succ budget ih =>
    simp only [Machine.run, deeds, alike.step_eq sim config now]
    cases m'.step config now with
    | error kind =>
      simp only [fail, alike.thread, alike.environment, true_and, and_true]
      exact ⟨rfl, rfl, sim.reportFault alike.host _ _⟩
    | ok s =>
      have next := Alike.perform alike.host sim s.thread m'.environment s.deed
      simp only [alike.environment]
      cases s.stop with
      | none =>
        obtain ⟨status, machine, deeds⟩ := ih next
        exact ⟨status, machine, congrArg (s.deed :: ·) deeds⟩
      | some halt => exact ⟨rfl, next.settle halt, rfl⟩

end Machine

namespace TickState

structure Alike (R : σ → τ → Prop) (s : TickState σ) (s' : TickState τ) : Prop where
  environment : s.environment = s'.environment
  host : R s.host s'.host
  report : s.report = s'.report

variable {s : TickState σ} {s' : TickState τ}

theorem isCleared_eq {host : σ} {host' : τ} (related : R host host') (sim : Host.Simulation R)
    (now : Tick) (reason : BlockReason) :
    isCleared host now reason = isCleared host' now reason := by
  cases reason with
  | sleep deadline => rfl
  | motion motion piece axis => simp only [isCleared, sim.pieces related]

theorem Alike.runThread {host : σ} {host' : τ} (related : R host host') (sim : Host.Simulation R)
    (config : Config) (now : Tick) (e : Environment) (report : TickReport) (t : Thread) :
    Alike R (runThread config now e host report t) (runThread config now e host' report t) := by
  have start : Machine.Alike R { thread := t, environment := e, host }
      { thread := t, environment := e, host := host' } := ⟨rfl, rfl, related⟩
  obtain ⟨status, alike, -⟩ := start.run sim config now config.runtime.maxInstructionsPerRun
  simp only [TickState.runThread, status, alike.thread, alike.environment]
  exact ⟨rfl, alike.host, rfl⟩

theorem Alike.turn (alike : Alike R s s') (sim : Host.Simulation R) (config : Config) (now : Tick)
    (id : ThreadId) : Alike R (s.turn config now id) (s'.turn config now id) := by
  simp only [TickState.turn, alike.environment]
  split
  · exact alike
  · simp only [alike.report, isCleared_eq alike.host sim]
    split
    · exact .runThread alike.host sim ..
    · split
      · exact .runThread alike.host sim ..
      · exact ⟨rfl, alike.host, rfl⟩
    · exact ⟨rfl, alike.host, rfl⟩
    · exact ⟨rfl, alike.host, rfl⟩

theorem Alike.foldl_turn (alike : Alike R s s') (sim : Host.Simulation R) (config : Config)
    (now : Tick) (ids : List ThreadId) :
    Alike R (ids.foldl (TickState.turn config now) s)
      (ids.foldl (TickState.turn config now) s') := by
  induction ids generalizing s s' with
  | nil => exact alike
  | cons id rest ih => exact ih (alike.turn sim config now id)

end TickState

theorem runTick_alike {host : σ} {host' : τ} (related : R host host') (sim : Host.Simulation R)
    (config : Config) (now : Tick) (e : Environment) :
    (runTick config now e host).Alike R (runTick config now e host') := by
  have start : TickState.Alike R { environment := e, host } { environment := e, host := host' } :=
    ⟨rfl, related, rfl⟩
  have alike := start.foldl_turn sim config now e.threadIds
  simp only [runTick, TickState.close, alike.environment, alike.report]
  exact ⟨rfl, alike.host, rfl⟩

end UnitScript
