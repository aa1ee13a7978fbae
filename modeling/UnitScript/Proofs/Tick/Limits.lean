import UnitScript.Proofs.Tick.Turn

universe u

namespace UnitScript

def FaultKind.isLimit : FaultKind → Bool
  | .stackOverflow _ | .arithmetic => true
  | _ => false

/-- Wider limits on both stacks, and zero as the result of a division by zero where it faulted. All
else is the same. -/
inductive Config.Widens (config : Config) : Config → Prop
  | limits {stack depth : Nat} {mode : DivideByZero} : config.runtime.maxStackSize ≤ stack →
    config.runtime.maxCallDepth ≤ depth →
    mode = config.semantics.divideByZero ∨
      config.semantics.divideByZero = .fault ∧ mode = .zero →
    Widens config
      { runtime := { config.runtime with maxStackSize := stack, maxCallDepth := depth }
        semantics := { config.semantics with divideByZero := mode } }

/-- Computations that come to the same, unless the first one hits a limit. -/
inductive Widened {α : Type u} : Except FaultKind α → Except FaultKind α → Prop
  | hit {kind : FaultKind} (x : Except FaultKind α) : kind.isLimit = true →
    Widened (.error kind) x
  | same (x : Except FaultKind α) : Widened x x

theorem Widened.bind {α β : Type u} {x x' : Except FaultKind α}
    {next next' : α → Except FaultKind β} (h : Widened x x')
    (rest : ∀ a, Widened (next a) (next' a)) : Widened (x >>= next) (x' >>= next') := by
  cases h with
  | hit x' limit => exact .hit _ limit
  | same x =>
    cases x with
    | error kind => exact .same _
    | ok a => exact rest a

theorem BinaryOp.eval_widened {mode mode' : DivideByZero}
    (h : mode' = mode ∨ mode = .fault ∧ mode' = .zero) (op : BinaryOp) (a b : Int32) :
    Widened (op.eval mode a b) (op.eval mode' a b) := by
  obtain rfl | ⟨rfl, rfl⟩ := h
  · exact .same _
  · cases op with
    | div =>
      simp only [eval]
      split
      · exact .hit _ rfl
      · exact .same _
    | _ => exact .same _

namespace Thread

variable {limit limit' : Nat}

theorem push_widened (wider : limit ≤ limit') (t : Thread) (value : Int32) :
    Widened (t.push value limit) (t.push value limit') := by
  unfold push
  by_cases room : t.stack.depth < limit
  · rw [if_pos room, if_pos (Nat.lt_of_lt_of_le room wider)]
    exact .same _
  · rw [if_neg room]
    exact .hit _ rfl

theorem pushFrame_widened (wider : limit ≤ limit') (t : Thread) (frame : Frame) :
    Widened (t.pushFrame frame limit) (t.pushFrame frame limit') := by
  unfold pushFrame
  by_cases room : t.frames.depth < limit
  · rw [if_pos room, if_pos (Nat.lt_of_lt_of_le room wider)]
    exact .same _
  · rw [if_neg room]
    exact .hit _ rfl

end Thread

def Status.hitsLimit : Status → Bool
  | .faulted fault => fault.kind.isLimit
  | _ => false

def TickReport.hitsLimit (r : TickReport) : Bool := r.faulted.any (·.2.kind.isLimit)

theorem TickReport.hitsLimit_record (r : TickReport) (id : ThreadId) (status : Status) :
    (r.record id status).hitsLimit = (r.hitsLimit || status.hitsLimit) := by
  cases status <;> simp [record, hitsLimit, Status.hitsLimit]

variable {σ : Type} [Host σ] {config config' : Config}

namespace Machine

omit [Host σ] in
theorem call_widened (widens : config.Widens config') (m : Machine σ) (t : Thread)
    (script : ScriptId) (argc : UInt8) :
    Widened (m.call config t script argc) (m.call config' t script argc) := by
  cases widens with
  | limits stack depth division =>
    unfold call
    split
    · exact .same _
    · refine (Widened.same _).bind fun popped => ?_
      dsimp only
      split
      · exact .same _
      · exact (Thread.pushFrame_widened depth ..).bind fun _ => .same _

theorem execute_widened (widens : config.Widens config') (m : Machine σ) (now : Tick) (t : Thread)
    (i : Instr) : Widened (m.execute config now t i) (m.execute config' now t i) := by
  have push (t : Thread) (value : Int32) :
      Widened
        (t.push value config.runtime.maxStackSize >>= fun t => pure ({ thread := t } : Step))
        (t.push value config'.runtime.maxStackSize >>= fun t => pure { thread := t }) := by
    cases widens with
    | limits stack depth division => exact (Thread.push_widened stack ..).bind fun _ => .same _
  cases i with
  | binary op =>
    refine (Widened.same _).bind fun popped => ?_
    cases widens with
    | limits stack depth division =>
      exact (BinaryOp.eval_widened division ..).bind fun value => push _ value
  | unary op => exact (Widened.same _).bind fun popped => push _ _
  | callScript script argc => exact (m.call_widened widens t script argc).bind fun _ => .same _
  | pushConstant value => exact push t value
  | pushLocal slot =>
    refine (Widened.same _).bind fun frame => ?_
    exact (Widened.same _).bind fun value => push t value
  | pushStatic slot => exact (Widened.same _).bind fun value => push t value
  | getUnitValue => exact (Widened.same _).bind fun popped => push _ _
  | randomNumber =>
    refine (Widened.same _).bind fun popped => ?_
    cases widens with
    | limits stack depth division =>
      dsimp only
      by_cases room : popped.2.2.stack.depth < config.runtime.maxStackSize
      · rw [if_pos room, if_pos (Nat.lt_of_lt_of_le room stack)]
        exact .same _
      · rw [if_neg room]
        exact .hit _ rfl
  | _ =>
    cases widens with
    | limits stack depth division => exact .same _

theorem step_widened (widens : config.Widens config') (m : Machine σ) (now : Tick) :
    Widened (m.step config now) (m.step config' now) := by
  unfold step
  split
  · exact .same _
  · exact m.execute_widened widens ..

theorem run_widened (widens : config.Widens config') (now : Tick) (budget : Nat) (m : Machine σ) :
    (m.run config now budget).1.hitsLimit = true ∨
      m.run config' now budget = m.run config now budget := by
  induction budget generalizing m with
  | zero => exact .inr rfl
  | succ budget ih =>
    have step := m.step_widened widens now
    simp only [run]
    generalize m.step config now = x, m.step config' now = x' at step
    cases step with
    | hit x' limit => exact .inl limit
    | same x =>
      cases x with
      | error kind => exact .inr rfl
      | ok s =>
        dsimp only
        cases s.stop with
        | none => exact ih _
        | some halt => exact .inr rfl

end Machine

namespace TickState

theorem runThread_widened (widens : config.Widens config') (now : Tick) (e : Environment) (host : σ)
    (report : TickReport) (t : Thread) :
    (runThread config now e host report t).report.hitsLimit = true ∨
      runThread config' now e host report t = runThread config now e host report t := by
  have budget : config'.runtime.maxInstructionsPerRun = config.runtime.maxInstructionsPerRun := by
    cases widens with
    | limits => rfl
  have run := Machine.run_widened widens now config.runtime.maxInstructionsPerRun
    { thread := t, environment := e, host }
  simp only [runThread, TickReport.hitsLimit_record, budget]
  cases run with
  | inl hit => exact .inl (by rw [hit, Bool.or_true])
  | inr same => exact .inr (by rw [same])

theorem turn_widened (widens : config.Widens config') (now : Tick) (s : TickState σ)
    (id : ThreadId) :
    (s.turn config now id).report.hitsLimit = true ∨
      s.turn config' now id = s.turn config now id := by
  unfold turn
  split
  · exact .inr rfl
  · dsimp only
    split
    · exact runThread_widened widens ..
    · split
      · exact runThread_widened widens ..
      · exact .inr rfl
    · exact .inr rfl
    · exact .inr rfl

theorem hitsLimit_turn (now : Tick) {s : TickState σ} (h : s.report.hitsLimit = true)
    (id : ThreadId) : (s.turn config now id).report.hitsLimit = true := by
  have turn := turn_cases config now s id
  generalize s.turn config now id = s' at turn
  cases turn with
  | gone => exact h
  | held => exact h
  | runs => simp [runThread, TickReport.hitsLimit_record, h]
  | dropped => exact h

theorem foldl_turn_widened (widens : config.Widens config') (now : Tick) (ids : List ThreadId)
    (s : TickState σ) :
    (ids.foldl (turn config now) s).report.hitsLimit = true ∨
      ids.foldl (turn config' now) s = ids.foldl (turn config now) s := by
  induction ids generalizing s with
  | nil => exact .inr rfl
  | cons id rest ih =>
    rw [List.foldl_cons, List.foldl_cons]
    cases turn_widened widens now s id with
    | inl hit =>
      -- What has been reported once stays in the report.
      exact .inl (foldl_turn_induction (P := (·.report.hitsLimit = true)) rest hit
        fun _ id h => hitsLimit_turn now h id)
    | inr same =>
      rw [same]
      exact ih _

end TickState

theorem runTick_widened (widens : config.Widens config') (now : Tick) (e : Environment) (host : σ) :
    (runTick config now e host).report.hitsLimit = true ∨
      runTick config' now e host = runTick config now e host := by
  cases TickState.foldl_turn_widened widens now e.threadIds { environment := e, host } with
  | inl hit => exact .inl hit
  | inr same =>
    refine .inr ?_
    rw [runTick, runTick, same]

end UnitScript
