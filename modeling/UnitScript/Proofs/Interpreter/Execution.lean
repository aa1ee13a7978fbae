import UnitScript.Proofs.Interpreter.Deeds

namespace UnitScript

namespace Deed

def onFrame : Deed → Frame → Frame
  | .claimLocal, f => f.claim
  | .setLocal slot value, f => f.put slot value
  | _, f => f

@[simp] theorem returnIp_onFrame (d : Deed) (f : Frame) :
    (d.onFrame f).returnIp = f.returnIp := by
  cases d <;> rfl

end Deed

namespace Machine

variable {σ : Type} [Host σ]

@[simp] theorem frames_perform (t : Thread) (e : Environment) (host : σ) (d : Deed) :
    (perform t e host d).thread.frames.items = t.frames.items.modifyHead d.onFrame := by
  cases d with
  | claimLocal => rfl
  | setLocal slot value => rfl
  | _ =>
    change t.frames.items = t.frames.items.modifyHead id
    rw [List.modifyHead_id, id]

@[simp] theorem depth_stack_perform (t : Thread) (e : Environment) (host : σ) (d : Deed) :
    (perform t e host d).thread.stack.depth = t.stack.depth + d.pushes := by
  cases d <;> rfl

variable {config : Config} {now : Tick} {m : Machine σ} {s : Step}

theorem depth_stack_le (worked : m.step config now = .ok s)
    (room : m.thread.stack.depth ≤ config.runtime.maxStackSize) :
    (perform s.thread m.environment m.host s.deed).thread.stack.depth ≤
      config.runtime.maxStackSize := by
  obtain ⟨i, -, shape⟩ := step_shape worked
  rw [depth_stack_perform]
  exact shape.depth_stack_le room

end Machine

/-- An instruction that was executed: the machine that it found, and what was worked out there. -/
structure Execution (σ : Type) where
  machine : Machine σ
  instr : Instr
  step : Step

namespace Execution

variable {σ : Type}

structure Genuine [Host σ] (config : Config) (now : Tick) (x : Execution σ) : Prop where
  fetched : x.machine.environment.module.instr? x.machine.thread.ip = some x.instr
  worked : x.machine.step config now = .ok x.step

def signal? (x : Execution σ) : Option UInt32 :=
  match x.instr with
  | .sendSignal => x.machine.thread.stack.top?.map (·.toUInt32)
  | _ => none

def started? (x : Execution σ) : Option (ThreadId × UInt32) :=
  match x.instr with
  | .startScript _ _ => some (x.machine.environment.nextThread, x.machine.thread.mask)
  | _ => none

theorem signal?_of_plain {x : Execution σ} (plain : x.instr.isPlain = true) : x.signal? = none := by
  unfold signal?
  split
  · next sends => simp [sends, Instr.isPlain] at plain
  · rfl

theorem started?_of_plain {x : Execution σ} (plain : x.instr.isPlain = true) :
    x.started? = none := by
  unfold started?
  split
  · next starts => simp [starts, Instr.isPlain] at plain
  · rfl

variable [Host σ] {config : Config} {now : Tick} {x : Execution σ}

theorem Genuine.shape (h : x.Genuine config now) :
    x.machine.Shape config now { x.machine.thread with ip := x.machine.thread.ip + 1 } x.instr
      x.step := by
  obtain ⟨i, fetched, shape⟩ := Machine.step_shape h.worked
  cases h.fetched.symm.trans fetched
  exact shape

theorem Genuine.deed_eq_signal_iff (h : x.Genuine config now) {bits : UInt32} :
    x.step.deed = .signal bits ↔ x.signal? = some bits := by
  obtain ⟨machine, instr, step⟩ := x
  have shape := h.shape
  dsimp only at shape
  cases shape with
  | plain plain fits =>
    rw [signal?_of_plain plain]
    refine iff_of_false ?_ nofun
    rintro ⟨⟩
    exact fits
  | signals hstack =>
    simp only at hstack
    simp [signal?, Stack.top?, hstack]
  | _ => simp [signal?]

theorem Genuine.map_started? (h : x.Genuine config now) :
    (x.step.deed.started?.map fun t => (t.id, t.mask)) = x.started? := by
  obtain ⟨machine, instr, step⟩ := x
  have shape := h.shape
  dsimp only at shape
  cases shape with
  | @plain _ _ _ deed plain fits =>
    rw [started?_of_plain plain]
    cases deed with
    | start t => exact fits.elim
    | _ => rfl
  | _ => rfl

end Execution

namespace Machine

variable {σ : Type} [Host σ] {config : Config} {now : Tick} {m : Machine σ} {x : Execution σ}

def trace (config : Config) (now : Tick) : Nat → Machine σ → List (Execution σ)
  | 0, _ => []
  | budget + 1, m =>
    match m.environment.module.instr? m.thread.ip, m.step config now with
    | some instr, .ok step =>
      { machine := m, instr, step } ::
        match step.stop with
        | none => trace config now budget (perform step.thread m.environment m.host step.deed)
        | some _ => []
    | _, _ => []

theorem genuine_of_mem_trace {budget : Nat} (member : x ∈ trace config now budget m) :
    x.Genuine config now := by
  induction budget generalizing m with
  | zero => cases member
  | succ budget ih =>
    unfold trace at member
    split at member
    · next instr step fetched worked =>
      obtain rfl | member := List.mem_cons.mp member
      · exact ⟨fetched, worked⟩
      · split at member
        · exact ih member
        · cases member
    · cases member

theorem map_deed_trace (config : Config) (now : Tick) (budget : Nat) (m : Machine σ) :
    (trace config now budget m).map (·.step.deed) = deeds config now budget m := by
  induction budget generalizing m with
  | zero => rfl
  | succ budget ih =>
    cases worked : m.step config now with
    | error kind => simp [trace, deeds, worked]
    | ok s =>
      obtain ⟨i, fetched, -⟩ := step_shape worked
      cases stop : s.stop with
      | none => simp [trace, deeds, worked, fetched, stop, ih]
      | some halt => simp [trace, deeds, worked, fetched, stop]

end Machine

end UnitScript
