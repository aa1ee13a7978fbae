import UnitScript.Proofs.Interpreter.Budget
import UnitScript.Proofs.Interpreter.Entry

namespace UnitScript

def wrap (z : Int) : Int := z.bmod Int32.size

def indicator (p : Prop) [Decidable p] : Int := if p then 1 else 0

def bitwise (f : BitVec 32 → BitVec 32 → BitVec 32) (a b : Int) : Int :=
  (f (.ofInt 32 a) (.ofInt 32 b)).toInt

def UnaryOp.value : UnaryOp → Int → Int
  | .logicalNot, a => indicator (a = 0)
  | .bitNot, a => -a - 1

def BinaryOp.value (mode : DivideByZero) : BinaryOp → Int → Int → Option Int
  | .add, a, b => some (wrap (a + b))
  | .sub, a, b => some (wrap (a - b))
  | .mul, a, b => some (wrap (a * b))
  | .div, a, b =>
    if b ≠ 0 then some (wrap (a.tdiv b))
    else
      match mode with
      | .zero => some 0
      | .fault => none
  | .lt, a, b => some (indicator (a < b))
  | .le, a, b => some (indicator (a ≤ b))
  | .eq, a, b => some (indicator (a = b))
  | .ne, a, b => some (indicator (a ≠ b))
  | .gt, a, b => some (indicator (a > b))
  | .ge, a, b => some (indicator (a ≥ b))
  | .logicalAnd, a, b => some (indicator (a ≠ 0 ∧ b ≠ 0))
  | .logicalOr, a, b => some (indicator (a ≠ 0 ∨ b ≠ 0))
  | .logicalXor, a, b => some (indicator (¬(a ≠ 0 ↔ b ≠ 0)))
  | .bitAnd, a, b => some (bitwise (· &&& ·) a b)
  | .bitOr, a, b => some (bitwise (· ||| ·) a b)
  | .bitXor, a, b => some (bitwise (· ^^^ ·) a b)

inductive Expr
  | const (value : Int32)
  | unary (op : UnaryOp) (a : Expr)
  | binary (op : BinaryOp) (a b : Expr)

namespace Expr

/-- The value of an expression, unless a division in it faults. Both operands of an operator are
always evaluated. -/
def value (mode : DivideByZero) : Expr → Option Int
  | .const value => some value.toInt
  | .unary op a => (a.value mode).map op.value
  | .binary op a b => do op.value mode (← a.value mode) (← b.value mode)

/-- The right operand comes last and so is on top, or the other way round. -/
def compile (order : OperandOrder) : Expr → List Instr
  | .const value => [.pushConstant value]
  | .unary op a => a.compile order ++ [.unary op]
  | .binary op a b =>
    match order with
    | .rightOnTop => a.compile order ++ b.compile order ++ [.binary op]
    | .leftOnTop => b.compile order ++ a.compile order ++ [.binary op]

inductive Within (part : Expr) : Expr → Prop
  | refl : part.Within part
  | operand {op : UnaryOp} {a : Expr} : part.Within a → part.Within (.unary op a)
  | left {op : BinaryOp} {a b : Expr} : part.Within a → part.Within (.binary op a b)
  | right {op : BinaryOp} {a b : Expr} : part.Within b → part.Within (.binary op a b)

def DividesByZero (mode : DivideByZero) (e : Expr) : Prop :=
  ∃ a b, (binary .div a b).Within e ∧ b.value mode = some 0

end Expr

theorem toInt_truth (b : Bool) : (truth b).toInt = indicator (b = true) := by
  cases b <;> rfl

theorem bitwise_toInt (f : BitVec 32 → BitVec 32 → BitVec 32) (a b : Int32) :
    bitwise f a.toInt b.toInt = (f a.toBitVec b.toBitVec).toInt := by
  simp only [bitwise, ← Int32.toInt_toBitVec, BitVec.ofInt_toInt]

theorem toInt_eq_zero_iff {a : Int32} : a.toInt = 0 ↔ a = 0 := by
  rw [← Int32.toInt_zero, Int32.toInt_inj]

theorem UnaryOp.toInt_eval (op : UnaryOp) (a : Int32) : (op.eval a).toInt = op.value a.toInt := by
  cases op with
  | logicalNot => simp [eval, value, toInt_truth, toInt_eq_zero_iff]
  | bitNot =>
    have low := a.le_toInt
    have high := a.toInt_lt
    rw [eval, value, Int32.toInt_not, Int.bmod_eq_of_le (by omega) (by omega)]

theorem BinaryOp.toInt_eval (mode : DivideByZero) (op : BinaryOp) (a b : Int32) :
    match op.value mode a.toInt b.toInt with
    | some v => ∃ x, op.eval mode a b = .ok x ∧ x.toInt = v
    | none => op.eval mode a b = .error .arithmetic := by
  cases op with
  | add => exact ⟨_, rfl, Int32.toInt_add a b⟩
  | sub => exact ⟨_, rfl, Int32.toInt_sub a b⟩
  | mul => exact ⟨_, rfl, Int32.toInt_mul a b⟩
  | div =>
    by_cases zero : b = 0
    · cases mode <;> simp [value, eval, zero]
    · have nonzero : b.toInt ≠ 0 := mt toInt_eq_zero_iff.mp zero
      simp only [value, eval, if_pos nonzero, if_neg zero]
      exact ⟨_, rfl, Int32.toInt_div a b⟩
  | lt | gt => exact ⟨_, rfl, by simp [toInt_truth, Int32.lt_iff_toInt_lt]⟩
  | le | ge => exact ⟨_, rfl, by simp [toInt_truth, Int32.le_iff_toInt_le]⟩
  | eq | ne => exact ⟨_, rfl, by simp [toInt_truth, Int32.toInt_inj]⟩
  | logicalAnd | logicalOr => exact ⟨_, rfl, by simp [toInt_truth, toInt_eq_zero_iff]⟩
  | logicalXor =>
    have nonzero (a : Int32) : (a != 0) = decide (a.toInt ≠ 0) := by
      rw [Bool.eq_iff_iff]
      simp [toInt_eq_zero_iff]
    exact ⟨_, rfl, by simp [toInt_truth, nonzero, not_iff_not]⟩
  | bitAnd => exact ⟨_, rfl, (bitwise_toInt (· &&& ·) a b).symm⟩
  | bitOr => exact ⟨_, rfl, (bitwise_toInt (· ||| ·) a b).symm⟩
  | bitXor => exact ⟨_, rfl, (bitwise_toInt (· ^^^ ·) a b).symm⟩

theorem BinaryOp.value_eq_none_iff {mode : DivideByZero} {op : BinaryOp} {a b : Int} :
    op.value mode a b = none ↔ op = .div ∧ mode = .fault ∧ b = 0 := by
  cases op with
  | div =>
    by_cases zero : b = 0
    · cases mode <;> simp [value, zero]
    · simp [value, zero]
  | _ => simp [value]

namespace Expr

variable {mode : DivideByZero} {op : BinaryOp} {a b : Expr}

theorem value_binary_of_none (h : a.value mode = none ∨ b.value mode = none) :
    (binary op a b).value mode = none := by
  rcases h with none | none
  · simp [value, none]
  · simp [value, none]

theorem value_binary_of_some {x y : Int} (left : a.value mode = some x)
    (right : b.value mode = some y) : (binary op a b).value mode = op.value mode x y := by
  simp [value, left, right]

theorem DividesByZero.value_eq_none {e : Expr} (h : e.DividesByZero .fault) :
    e.value .fault = none := by
  obtain ⟨a, b, within, zero⟩ := h
  induction within with
  | refl =>
    cases left : a.value .fault with
    | none => exact value_binary_of_none (.inl left)
    | some x => exact (value_binary_of_some left zero).trans (by simp [BinaryOp.value])
  | operand _ ih => simp [value, ih]
  | left _ ih => exact value_binary_of_none (.inl ih)
  | right _ ih => exact value_binary_of_none (.inr ih)

theorem value_eq_none_iff {e : Expr} :
    e.value mode = none ↔ mode = .fault ∧ e.DividesByZero mode := by
  refine ⟨?_, by rintro ⟨rfl, divides⟩; exact divides.value_eq_none⟩
  intro faults
  induction e with
  | const value => cases faults
  | unary op a ih =>
    obtain ⟨rfl, c, d, within, zero⟩ := ih (Option.map_eq_none_iff.mp faults)
    exact ⟨rfl, c, d, within.operand, zero⟩
  | binary op a b left right =>
    cases atLeft : a.value mode with
    | none =>
      obtain ⟨rfl, c, d, within, zero⟩ := left atLeft
      exact ⟨rfl, c, d, within.left, zero⟩
    | some x =>
      cases atRight : b.value mode with
      | none =>
        obtain ⟨rfl, c, d, within, zero⟩ := right atRight
        exact ⟨rfl, c, d, within.right, zero⟩
      | some y =>
        rw [value_binary_of_some atLeft atRight] at faults
        obtain ⟨rfl, rfl, rfl⟩ := BinaryOp.value_eq_none_iff.mp faults
        exact ⟨rfl, a, b, .refl, atRight⟩

end Expr

namespace Instr

def depthAfter (depth : Nat) (code : List Instr) : Nat :=
  code.foldl (fun depth i => depth - i.pops + i.pushes) depth

def peak (depth : Nat) : List Instr → Nat
  | [] => depth
  | i :: rest => max depth (peak (depth - i.pops + i.pushes) rest)

theorem peak_append (depth : Nat) (first second : List Instr) :
    peak depth (first ++ second) =
      max (peak depth first) (peak (depthAfter depth first) second) := by
  induction first generalizing depth with
  | nil => cases second <;> simp [peak, depthAfter]
  | cons i rest ih => simp only [List.cons_append, peak, ih, depthAfter, List.foldl_cons, max_assoc]

theorem depthAfter_append (depth : Nat) (first second : List Instr) :
    depthAfter depth (first ++ second) = depthAfter (depthAfter depth first) second :=
  List.foldl_append

theorem depthAfter_le_peak (depth : Nat) (code : List Instr) :
    depthAfter depth code ≤ peak depth code := by
  induction code generalizing depth with
  | nil => exact Nat.le_refl depth
  | cons i rest ih => exact Nat.le_trans (ih _) (Nat.le_max_right ..)

theorem lt_of_peak_le {depth limit : Nat} {code : List Instr}
    (net : depthAfter depth code = depth + 1) (room : peak depth code ≤ limit) :
    depth < limit := by
  have after := depthAfter_le_peak depth code
  rw [net] at after
  exact Nat.le_trans after room

end Instr

def Module.Holds (module : Module) : Nat → List Instr → Prop
  | _, [] => True
  | ip, i :: rest => module.instr? ip = some i ∧ module.Holds (ip + 1) rest

theorem Module.holds_append {module : Module} {ip : Nat} {first second : List Instr} :
    module.Holds ip (first ++ second) ↔
      module.Holds ip first ∧ module.Holds (ip + first.length) second := by
  induction first generalizing ip with
  | nil => simp [Holds]
  | cons i rest ih => simp only [List.cons_append, Holds, ih, List.length_cons, and_assoc,
      Nat.add_assoc, Nat.add_comm 1]

theorem Module.holds_of_drop {module : Module} {ip : Nat} {code : List Instr} (rest : List Instr)
    (stands : module.definition.code.toList.drop ip = code ++ rest) : module.Holds ip code := by
  induction code generalizing ip with
  | nil => trivial
  | cons i code ih =>
    refine ⟨?_, ih ?_⟩
    · have first := congrArg (·[0]?) stands
      simpa [instr?] using first
    · rw [← List.tail_drop, stands, List.cons_append, List.tail_cons]

def keepCode : List Instr := [.popStatic 0, .returnFromScript]

namespace Machine

variable {σ : Type} [Host σ] {m : Machine σ} {config : Config} {now : Tick}

def leave (m : Machine σ) (count : Nat) (value : Int32) : Machine σ :=
  { m with thread := { m.thread with
      ip := m.thread.ip + count
      stack := m.thread.stack.push value } }

/-- Code leaves a value and has done nothing else, or it comes to an arithmetic fault. -/
def Leaves (config : Config) (now : Tick) (m : Machine σ) (code : List Instr) :
    Option Int → Prop
  | some v => ∃ x : Int32, x.toInt = v ∧
      m.run config now code.length = (.continuing, m.leave code.length x)
  | none => ∃ ip last, m.run config now code.length = (.faulted ⟨ip, .arithmetic⟩, last)

theorem Leaves.append_of_none {code : List Instr} (faults : m.Leaves config now code none)
    (rest : List Instr) : m.Leaves config now (code ++ rest) none := by
  obtain ⟨ip, last, faulted⟩ := faults
  refine ⟨ip, last, ?_⟩
  rw [List.length_append, run_add_of_ended (by rw [faulted]; exact Status.noConfusion), faulted]

theorem run_append_of_leave {code rest : List Instr} {x : Int32}
    (left : m.run config now code.length = (.continuing, m.leave code.length x)) :
    m.run config now (code ++ rest).length =
      (m.leave code.length x).run config now rest.length := by
  rw [List.length_append, run_add_of_continuing left]

theorem run_pushConstant {value : Int32}
    (fetched : m.environment.module.instr? m.thread.ip = some (.pushConstant value))
    (room : m.thread.stack.depth < config.runtime.maxStackSize) :
    m.run config now 1 = (.continuing, m.leave 1 value) := by
  rw [run, step_of_fetched fetched, execute, Thread.push, if_pos room]
  rfl

theorem run_unary {op : UnaryOp} {count : Nat} (x : Int32)
    (fetched : m.environment.module.instr? (m.thread.ip + count) = some (.unary op))
    (room : m.thread.stack.depth < config.runtime.maxStackSize) :
    (m.leave count x).run config now 1 = (.continuing, m.leave (count + 1) (op.eval x)) := by
  rw [run, step_of_fetched (m := m.leave count x) fetched, execute]
  simp only [leave, Thread.pop, Stack.pop?_push, bind, Except.bind, Thread.push, if_pos room]
  rfl

theorem run_binary {op : BinaryOp} {first second : Nat} (below top : Int32) {left right : Int32}
    (arranged : config.semantics.operandOrder.arrange top below = (left, right))
    (fetched : m.environment.module.instr? (m.thread.ip + (first + second)) = some (.binary op))
    (room : m.thread.stack.depth < config.runtime.maxStackSize) :
    ((m.leave first below).leave second top).run config now 1 =
      match op.eval config.semantics.divideByZero left right with
      | .ok value => (.continuing, m.leave (first + second + 1) value)
      | .error kind =>
        (.faulted ⟨m.thread.ip + (first + second), kind⟩,
          ((m.leave first below).leave second top).fail
            ⟨m.thread.ip + (first + second), kind⟩) := by
  rw [← Nat.add_assoc] at fetched
  rw [run, step_of_fetched (m := (m.leave first below).leave second top) fetched, execute]
  simp only [leave, Thread.popTwo, Thread.pop, Stack.pop?_push, bind, Except.bind, pure,
    Except.pure, arranged, Nat.add_assoc]
  cases op.eval config.semantics.divideByZero left right with
  | error kind => rfl
  | ok value =>
    simp only [Thread.push, if_pos room]
    rfl

open Instr in
structure Evaluates (σ : Type) [Host σ] (config : Config) (now : Tick) (code : List Instr)
    (v : Option Int) : Prop where
  net : ∀ depth, depthAfter depth code = depth + 1
  leaves : ∀ m : Machine σ, m.environment.module.Holds m.thread.ip code →
    peak m.thread.stack.depth code ≤ config.runtime.maxStackSize → m.Leaves config now code v

namespace Evaluates

open Instr

theorem const (value : Int32) :
    Evaluates σ config now [.pushConstant value] (some value.toInt) where
  net _ := rfl
  leaves _ stands room := ⟨value, rfl, run_pushConstant stands.1 (lt_of_peak_le rfl room)⟩

theorem unary {op : UnaryOp} {code : List Instr} {v : Option Int}
    (operand : Evaluates σ config now code v) :
    Evaluates σ config now (code ++ [.unary op]) (v.map op.value) := by
  have net (depth : Nat) : depthAfter depth (code ++ [.unary op]) = depth + 1 := by
    rw [depthAfter_append, operand.net]
    rfl
  refine ⟨net, ?_⟩
  intro m stands room
  have free := lt_of_peak_le (net _) room
  obtain ⟨standsOperand, standsOperator, -⟩ := Module.holds_append.mp stands
  rw [peak_append] at room
  have leaves := operand.leaves m standsOperand (Nat.le_trans (Nat.le_max_left ..) room)
  cases v with
  | none => exact leaves.append_of_none [.unary op]
  | some v =>
    obtain ⟨x, rfl, left⟩ := leaves
    refine ⟨op.eval x, op.toInt_eval x, ?_⟩
    rw [run_append_of_leave left, List.length_append]
    exact run_unary x standsOperator free

theorem binary {op : BinaryOp} {first second : List Instr} {v w r : Option Int}
    (below : Evaluates σ config now first v) (top : Evaluates σ config now second w)
    (fails : v = none ∨ w = none → r = none)
    (value : ∀ below top left right : Int32, v = some below.toInt → w = some top.toInt →
      config.semantics.operandOrder.arrange top below = (left, right) →
      r = op.value config.semantics.divideByZero left.toInt right.toInt) :
    Evaluates σ config now (first ++ second ++ [.binary op]) r := by
  have net (depth : Nat) : depthAfter depth (first ++ second ++ [.binary op]) = depth + 1 := by
    rw [depthAfter_append, depthAfter_append, below.net, top.net]
    rfl
  refine ⟨net, ?_⟩
  intro m stands room
  have free := lt_of_peak_le (net _) room
  obtain ⟨standsOperands, standsOperator, -⟩ := Module.holds_append.mp stands
  obtain ⟨standsBelow, standsTop⟩ := Module.holds_append.mp standsOperands
  rw [peak_append, peak_append, below.net, Nat.max_le, Nat.max_le] at room
  rw [List.length_append] at standsOperator
  have leavesBelow := below.leaves m standsBelow room.1.1
  have leavesTop (x : Int32) : (m.leave first.length x).Leaves config now second w :=
    top.leaves _ standsTop (by simpa [leave] using room.1.2)
  cases v with
  | none =>
    rw [fails (.inl rfl), List.append_assoc]
    exact leavesBelow.append_of_none _
  | some v =>
    obtain ⟨x, rfl, leftBelow⟩ := leavesBelow
    cases w with
    | none =>
      obtain ⟨ip, last, faulted⟩ := (leavesTop x).append_of_none [Instr.binary op]
      rw [fails (.inr rfl), List.append_assoc]
      exact ⟨ip, last, by rw [run_append_of_leave leftBelow, faulted]⟩
    | some w =>
      obtain ⟨y, rfl, leftTop⟩ := leavesTop x
      obtain ⟨left, right, arranged⟩ :
          ∃ left right, config.semantics.operandOrder.arrange y x = (left, right) := ⟨_, _, rfl⟩
      have ran : m.run config now (first ++ second ++ [Instr.binary op]).length =
          ((m.leave first.length x).leave second.length y).run config now 1 := by
        rw [List.append_assoc, run_append_of_leave leftBelow, run_append_of_leave leftTop,
          List.length_singleton]
      have evaluated := op.toInt_eval config.semantics.divideByZero left right
      rw [run_binary x y arranged standsOperator free] at ran
      rw [value x y left right rfl rfl arranged]
      cases result : op.value config.semantics.divideByZero left.toInt right.toInt with
      | none =>
        simp only [result] at evaluated
        rw [evaluated] at ran
        exact ⟨_, _, ran⟩
      | some z =>
        simp only [result] at evaluated
        obtain ⟨value, ok, toInt⟩ := evaluated
        rw [ok] at ran
        exact ⟨value, toInt, by simpa [Nat.add_assoc] using ran⟩

end Evaluates

theorem evaluates_compile (σ : Type) [Host σ] (config : Config) (now : Tick) (e : Expr) :
    Evaluates σ config now (e.compile config.semantics.operandOrder)
      (e.value config.semantics.divideByZero) := by
  induction e with
  | const value => exact .const value
  | unary op a ih => exact ih.unary
  | binary op a b left right =>
    cases order : config.semantics.operandOrder with
    | rightOnTop =>
      rw [order] at left right
      refine left.binary right Expr.value_binary_of_none ?_
      intro below top l r atLeft atRight arranged
      rw [order] at arranged
      cases arranged
      exact Expr.value_binary_of_some atLeft atRight
    | leftOnTop =>
      rw [order] at left right
      refine right.binary left (Expr.value_binary_of_none ·.symm) ?_
      intro below top l r atRight atLeft arranged
      rw [order] at arranged
      cases arranged
      exact Expr.value_binary_of_some atLeft atRight

theorem run_popStatic (config : Config) (now : Tick) {slot : UInt16} {x : Int32}
    {below : Stack Int32}
    (fetched : m.environment.module.instr? m.thread.ip = some (.popStatic slot))
    (top : m.thread.stack = below.push x) (inside : slot.toNat < m.environment.statics.size) :
    ∃ next, m.run config now 1 = (.continuing, next) ∧
      next.thread = { m.thread with ip := m.thread.ip + 1, stack := below } ∧
      next.environment = m.environment.carryOut (.setStatic slot.toNat x) := by
  rw [run, step_of_fetched fetched, execute]
  simp only [Thread.pop, top, Stack.pop?_push, bind, Except.bind, Environment.getStatic,
    Array.getElem?_eq_getElem inside]
  exact ⟨_, rfl, rfl, rfl⟩

theorem run_returnFromScript (config : Config) (now : Tick) {frame : Frame} {below : Stack Frame}
    (fetched : m.environment.module.instr? m.thread.ip = some .returnFromScript)
    (top : m.thread.frames = below.push frame) (entered : frame.returnIp = none) :
    ∃ t, m.run config now 1 = (.finished, { m with thread := t }) := by
  rw [run, step_of_fetched fetched, execute]
  simp only [Thread.popFrame, top, Stack.pop?_push, bind, Except.bind, entered]
  exact ⟨_, rfl⟩

theorem run_keepCode (config : Config) (now : Tick) {x : Int32} {below : Stack Int32}
    {frame : Frame} {frames : Stack Frame}
    (stands : m.environment.module.Holds m.thread.ip keepCode)
    (top : m.thread.stack = below.push x) (topFrame : m.thread.frames = frames.push frame)
    (entered : frame.returnIp = none) (statics : 0 < m.environment.statics.size) :
    ∃ last, m.run config now 2 = (.finished, last) ∧ last.environment.getStatic 0 = .ok x := by
  obtain ⟨popped, returned, -⟩ := stands
  obtain ⟨next, kept, thread, environment⟩ :=
    run_popStatic config now popped top statics
  obtain ⟨t, finished⟩ := run_returnFromScript (m := next) config now
    (by rw [environment, thread]; exact returned) (by rw [thread]; exact topFrame) entered
  refine ⟨{ next with thread := t }, (run_add_of_continuing kept 1).trans finished, ?_⟩
  simp [environment, Environment.getStatic, Environment.carryOut, statics]

end Machine

def evalEntry : EntryPoint := { name := "Main", offset := 0, locals := 4 }

def evalDefinition (code : List Instr) : ModuleDefinition where
  pieces := #["base"]
  statics := 1
  scripts := #[evalEntry]
  code := (code ++ keepCode).toArray

theorem evalModule_eq (code : List Instr) :
    evalModule code = Module.ofDefinition (evalDefinition code) := by
  simp [evalModule, ModuleBuilder.piece, ModuleBuilder.staticSlots, ModuleBuilder.beginScript,
    ModuleBuilder.declare, ModuleBuilder.place, ModuleBuilder.position, ModuleBuilder.emitAll,
    ModuleBuilder.build, ModuleBuilder.entryPoints, ScriptId.index, evalDefinition, evalEntry,
    keepCode, bind, Except.bind, pure, Except.pure]

theorem valid_evalDefinition {code : List Instr} (plain : ∀ i ∈ code, i.reference? = none) :
    (evalDefinition code).Valid where
  pieces_distinct := by simp [evalDefinition]
  pieces_few := by simp [evalDefinition]
  scripts_distinct := by simp [evalDefinition]
  scripts_few := by simp [evalDefinition]
  params_le_locals := by simp [evalDefinition, evalEntry]
  offset_lt := by simp [evalDefinition, evalEntry, keepCode]
  resolves := by
    intro i placed r refers
    simp only [evalDefinition, keepCode, List.mem_toArray, List.mem_append, List.mem_cons,
      List.not_mem_nil, or_false] at placed
    rcases placed with placed | rfl | rfl
    · rw [plain i placed] at refers
      cases refers
    · cases refers
      exact Nat.zero_lt_one
    · cases refers

theorem exists_evalModule {code : List Instr} (plain : ∀ i ∈ code, i.reference? = none) :
    ∃ module, evalModule code = .ok module ∧ module.definition = evalDefinition code := by
  obtain ⟨module, built⟩ := Module.exists_ofDefinition_eq_ok_iff.mpr
    (ModuleDefinition.failure?_eq_none_iff_valid.mpr (valid_evalDefinition plain))
  exact ⟨module, (evalModule_eq code).trans built, Module.ofDefinition_eq_ok built⟩

def evalSandbox (module : Module) (config : Config) : Sandbox :=
  { Sandbox.create module config with
    environment := (Environment.create module 1 config.runtime.seed).enroll
      (.start 1 ⟨0⟩ evalEntry [] 0) }

def evalMachine (module : Module) (config : Config) : Machine Recorder where
  thread := .start 1 ⟨0⟩ evalEntry [] 0
  environment := (evalSandbox module config).environment.detach 1
  host := (evalSandbox module config).host

section EvalInstrs

variable {code : List Instr} {module : Module} {config : Config} {status : Status}
  {last : Machine Recorder}

theorem start_evalSandbox (described : module.definition = evalDefinition code)
    (config : Config) :
    (Sandbox.create module config).start "Main" [] = .ok (1, evalSandbox module config) := by
  have declared : module.script? ⟨0⟩ = some evalEntry := by
    rw [Module.script?, described]
    rfl
  rw [Sandbox.start, show "Main" = evalEntry.name from rfl,
    Environment.startScript_of_script? (e := (Sandbox.create module config).environment) declared]
  rfl

theorem run_evalSandbox (ran : (evalMachine module config).spend config 0 = (status, last)) :
    (evalSandbox module config).run 1 = .ok (status,
      { evalSandbox module config with
        host := last.host
        environment :=
          if status.isLive then last.environment.restore last.thread else last.environment }) := by
  have there : (evalSandbox module config).environment.thread? 1 =
      some (.start 1 ⟨0⟩ evalEntry [] 0) :=
    (Environment.thread?_enroll ..).trans (if_pos rfl)
  have ran : Machine.run (evalSandbox module config).config (evalSandbox module config).now
      (evalSandbox module config).config.runtime.maxInstructionsPerRun
      { thread := .start 1 ⟨0⟩ evalEntry [] 0
        environment := (evalSandbox module config).environment.detach 1
        host := (evalSandbox module config).host } = (status, last) := ran
  simp only [Sandbox.run, there, ran]

theorem evalInstrs_of_spend (built : evalModule code = .ok module)
    (described : module.definition = evalDefinition code)
    (ran : (evalMachine module config).spend config 0 = (status, last)) :
    evalInstrs code config =
      match status with
      | .finished => (last.environment.getStatic 0).mapError .fault
      | .faulted fault => .error (.fault fault.kind)
      | status => .error (.incomplete status) := by
  simp only [evalInstrs, built, start_evalSandbox described, run_evalSandbox ran, Except.mapError,
    bind, Except.bind]
  cases status <;> rfl

end EvalInstrs

theorem Expr.reference?_of_mem_compile {order : OperandOrder} {e : Expr} {i : Instr}
    (h : i ∈ e.compile order) : i.reference? = none := by
  induction e with
  | const value =>
    obtain rfl := List.mem_singleton.mp h
    rfl
  | unary op a ih =>
    rcases List.mem_append.mp h with h | h
    · exact ih h
    · obtain rfl := List.mem_singleton.mp h
      rfl
  | binary op a b left right =>
    have parts : i ∈ a.compile order ∨ i ∈ b.compile order ∨ i = .binary op := by
      cases order <;> grind [Expr.compile]
    rcases parts with h | h | rfl
    · exact left h
    · exact right h
    · rfl

section Keep

variable {code : List Instr} {module : Module} {config : Config}
  (described : module.definition = evalDefinition code)
include described

theorem holds_evalDefinition : module.Holds 0 (code ++ keepCode) :=
  Module.holds_of_drop [] (by simp [described, evalDefinition])

theorem spend_of_leave {x : Int32} (budget : code.length + 2 ≤ config.runtime.maxInstructionsPerRun)
    (left : (evalMachine module config).run config 0 code.length =
      (.continuing, (evalMachine module config).leave code.length x)) :
    ∃ last, (evalMachine module config).spend config 0 = (.finished, last) ∧
      last.environment.getStatic 0 = .ok x := by
  obtain ⟨more, enough⟩ := Nat.exists_eq_add_of_le budget
  have statics : 0 < (evalMachine module config).environment.statics.size := by
    simp [evalMachine, evalSandbox, Environment.create, Environment.enroll, Environment.detach,
      Module.staticCount, described, evalDefinition]
  obtain ⟨last, finished, kept⟩ := Machine.run_keepCode config 0
    (m := (evalMachine module config).leave code.length x)
    (Module.holds_append.mp (holds_evalDefinition described)).2 rfl rfl rfl statics
  refine ⟨last, ?_, kept⟩
  have ran : (evalMachine module config).run config 0 (code.length + 2) = (.finished, last) := by
    rw [Machine.run_add_of_continuing left, finished]
  rw [Machine.spend, enough, Machine.run_add_of_ended (by rw [ran]; exact Status.noConfusion), ran]

end Keep

namespace Expr

/-- The code of an expression evaluates to the value of the expression, given enough room on the
operand stack and enough instructions; it faults exactly when the expression divides by zero and
that is a fault. -/
theorem evaluates (e : Expr) (config : Config)
    (room : Instr.peak 0 (e.compile config.semantics.operandOrder) ≤ config.runtime.maxStackSize)
    (budget : (e.compile config.semantics.operandOrder).length + 2 ≤
      config.runtime.maxInstructionsPerRun) :
    (match e.value config.semantics.divideByZero with
      | some v => ∃ x : Int32,
        evalInstrs (e.compile config.semantics.operandOrder) config = .ok x ∧ x.toInt = v
      | none =>
        evalInstrs (e.compile config.semantics.operandOrder) config =
          .error (.fault .arithmetic)) ∧
    (evalInstrs (e.compile config.semantics.operandOrder) config = .error (.fault .arithmetic) ↔
      config.semantics.divideByZero = .fault ∧
        e.DividesByZero config.semantics.divideByZero) := by
  have plain : ∀ i ∈ e.compile config.semantics.operandOrder, i.reference? = none :=
    fun _ => reference?_of_mem_compile
  obtain ⟨module, built, described⟩ := exists_evalModule plain
  have leaves := (Machine.evaluates_compile Recorder config 0 e).leaves (evalMachine module config)
    (Module.holds_append.mp (holds_evalDefinition described)).1 room
  rw [← value_eq_none_iff]
  cases valued : e.value config.semantics.divideByZero with
  | some v =>
    rw [valued] at leaves
    obtain ⟨x, toInt, left⟩ := leaves
    obtain ⟨last, finished, kept⟩ := spend_of_leave described budget left
    have evaluated : evalInstrs (e.compile config.semantics.operandOrder) config = .ok x := by
      rw [evalInstrs_of_spend built described finished, kept]
      rfl
    exact ⟨⟨x, evaluated, toInt⟩, by simp [evaluated]⟩
  | none =>
    rw [valued] at leaves
    obtain ⟨ip, last, faulted⟩ := leaves
    have spent : (evalMachine module config).spend config 0 =
        (.faulted ⟨ip, .arithmetic⟩, last) := by
      obtain ⟨more, enough⟩ := Nat.exists_eq_add_of_le (Nat.le_of_add_right_le budget)
      rw [Machine.spend, enough,
        Machine.run_add_of_ended (by rw [faulted]; exact Status.noConfusion), faulted]
    have evaluated := evalInstrs_of_spend built described spent
    exact ⟨evaluated, iff_of_true evaluated rfl⟩

def quotient (a b c : Int32) : Expr :=
  .binary .div (.binary .sub (.const a) (.const b)) (.unary .bitNot (.const c))

theorem quotient_evaluates :
    evalInstrs ((quotient 7 14 (-3)).compile .leftOnTop)
        { semantics := { operandOrder := .leftOnTop } } = .ok (-3) ∧
      evalInstrs ((quotient 7 14 (-1)).compile .rightOnTop) {} = .error (.fault .arithmetic) := by
  constructor
  · obtain ⟨x, evaluated, toInt⟩ := (evaluates (quotient 7 14 (-3))
      { semantics := { operandOrder := .leftOnTop } } (by decide) (by decide)).1
    obtain rfl : x = -3 := Int32.toInt_inj.mp toInt
    exact evaluated
  · refine (evaluates (quotient 7 14 (-1)) {} (by decide) (by decide)).2.mpr ⟨rfl, ?_⟩
    exact ⟨_, _, .refl, by decide⟩

end Expr

end UnitScript
