import UnitScript.Host

/-!
The interpreter. An instruction is first worked out against what it can see, which may fault, and
only then carried out, which cannot: so a fault leaves everything that threads share as it was.
-/

namespace UnitScript

def truth (b : Bool) : Int32 := if b then 1 else 0

def BinaryOp.eval (mode : DivideByZero) (op : BinaryOp) (a b : Int32) : Except FaultKind Int32 :=
  match op with
  | .add => .ok (a + b)
  | .sub => .ok (a - b)
  | .mul => .ok (a * b)
  | .div =>
    if b = 0 then
      match mode with
      | .fault => .error .arithmetic
      | .zero => .ok 0
    else .ok (a / b)
  | .lt => .ok (truth (a < b))
  | .le => .ok (truth (a ≤ b))
  | .eq => .ok (truth (a = b))
  | .ne => .ok (truth (a ≠ b))
  | .gt => .ok (truth (b < a))
  | .ge => .ok (truth (b ≤ a))
  | .logicalAnd => .ok (truth (a ≠ 0 ∧ b ≠ 0))
  | .logicalOr => .ok (truth (a ≠ 0 ∨ b ≠ 0))
  | .logicalXor => .ok (truth ((a != 0) != (b != 0)))
  | .bitAnd => .ok (a &&& b)
  | .bitOr => .ok (a ||| b)
  | .bitXor => .ok (a ^^^ b)

def UnaryOp.eval : UnaryOp → Int32 → Int32
  | .logicalNot, a => truth (a = 0)
  | .bitNot, a => ~~~a

def OperandOrder.arrange (order : OperandOrder) (top below : Int32) : Int32 × Int32 :=
  match order with
  | .rightOnTop => (below, top)
  | .leftOnTop => (top, below)

/-- What is left of an instruction once it can no longer fault. -/
inductive Deed
  | none
  | claimLocal
  | setLocal (slot : Nat) (value : Int32)
  | setStatic (slot : Nat) (value : Int32)
  | request (piece : PieceId) (request : PieceRequest)
  | act (act : Act)
  | setValue (key value : Int32)
  | start (thread : Thread)
  | signal (bits : UInt32)
  | draw (low high : Int32)
  deriving DecidableEq

structure Step where
  thread : Thread
  deed : Deed := .none
  stop : Option Halt := none
  deriving DecidableEq

/-- A running thread, detached from its environment, and all that it can touch. -/
structure Machine (σ : Type) where
  thread : Thread
  environment : Environment
  host : σ

namespace Machine

variable {σ : Type} [Host σ]

def checkPiece (m : Machine σ) (piece : PieceId) : Except FaultKind Unit :=
  if piece.index < m.environment.module.pieceCount ∧ piece.index < (Host.pieces m.host).size then
    .ok ()
  else .error (.unknownPiece piece)

def pieceOfValue (m : Machine σ) (value : Int32) : Except FaultKind PieceId :=
  if 0 ≤ value.toInt ∧ value.toInt < UInt16.size then do
    let piece : PieceId := ⟨UInt16.ofNat value.toInt.toNat⟩
    m.checkPiece piece
    return piece
  else .error (.unknownPiece ⟨0xffff⟩)

def animation (t : Thread) (axis : Axis) : Animation → Except FaultKind (PieceRequest × Thread)
  | .move => do
    let (target, speed, t) ← t.popTwo
    return (.moveTo axis target speed, t)
  | .moveNow => do
    let (target, t) ← t.pop
    return (.moveNow axis target, t)
  | .turn => do
    let (target, speed, t) ← t.popTwo
    return (.turnTo axis (FixedPoint.toAngle target) (FixedPoint.toAngle speed), t)
  | .turnNow => do
    let (target, t) ← t.pop
    return (.turnNow axis (FixedPoint.toAngle target), t)
  | .spin => do
    let (speed, acceleration, t) ← t.popTwo
    return (.spin axis (FixedPoint.toAngle speed) (FixedPoint.toAngle acceleration), t)
  | .stopSpin => do
    let (deceleration, t) ← t.pop
    return (.stopSpin axis (FixedPoint.toAngle deceleration), t)

def call (m : Machine σ) (config : Config) (t : Thread) (script : ScriptId) (argc : UInt8) :
    Except FaultKind Thread :=
  match m.environment.module.script? script with
  | none => .error (.unknownScript script)
  | some entry => do
    let (args, t) ← t.popN argc.toNat
    if entry.locals.toNat < args.length then
      .error (.outOfRange args.length entry.locals.toNat)
    else
      let frame := Frame.enter script (some t.ip) entry.locals.toNat entry.params.toNat args
      let t ← t.pushFrame frame config.runtime.maxCallDepth
      return { t with ip := entry.offset.toNat }

/-- Work out one instruction. The thread `t` has its `ip` behind the instruction already. -/
def execute (m : Machine σ) (config : Config) (now : Tick) (t : Thread) :
    Instr → Except FaultKind Step
  | .binary op => do
    let (top, below, t) ← t.popTwo
    let (left, right) := config.semantics.operandOrder.arrange top below
    let value ← op.eval config.semantics.divideByZero left right
    return { thread := ← t.push value config.runtime.maxStackSize }
  | .unary op => do
    let (value, t) ← t.pop
    return { thread := ← t.push (op.eval value) config.runtime.maxStackSize }
  | .jump target => return { thread := { t with ip := target.toNat } }
  | .jumpIfZero target => do
    let (value, t) ← t.pop
    return { thread := if value = 0 then { t with ip := target.toNat } else t }
  | .animate verb piece axis => do
    m.checkPiece piece
    let (request, t) ← animation t axis verb
    return { thread := t, deed := .request piece request }
  | .burst burst piece => do
    m.checkPiece piece
    let (kind, t) ← t.pop
    return { thread := t, deed := .act (.burst burst piece kind) }
  | .setFlag flag on piece => do
    m.checkPiece piece
    return { thread := t, deed := .request piece (.setFlag flag on) }
  | .attachUnit => do
    let (value, passenger, t) ← t.popTwo
    let piece ← m.pieceOfValue value
    return { thread := t, deed := .act (.attachUnit piece passenger) }
  | .detachUnit => do
    let (passenger, t) ← t.pop
    return { thread := t, deed := .act (.detachUnit passenger) }
  | .waitFor motion piece axis => do
    m.checkPiece piece
    if (Host.pieces m.host).isInMotion motion piece axis then
      return { thread := t, stop := some (.blocked (.motion motion piece axis)) }
    else
      return { thread := t }
  | .sleep => do
    let (ms, t) ← t.pop
    let deadline := now + config.runtime.sleepTicks ms
    return { thread := t, stop := some (.blocked (.sleep deadline)) }
  | .callScript script argc => return { thread := ← m.call config t script argc }
  | .startScript script argc => do
    let (args, t) ← t.popN argc.toNat
    let started ← m.environment.prepare script args t.mask
    return { thread := t, deed := .start started }
  | .returnFromScript => do
    let (frame, t) ← t.popFrame
    match frame.returnIp with
    | some ip => return { thread := { t with ip } }
    | none => return { thread := t, stop := some .finished }
  | .sendSignal => do
    let (value, t) ← t.pop
    let bits := value.toUInt32
    return {
      thread := t
      deed := .signal bits
      stop := if t.intercepts bits then some (.killed bits) else none
    }
  | .setSignalMask => do
    let (value, t) ← t.pop
    return { thread := { t with mask := value.toUInt32 } }
  | .createLocal => do
    let _ ← (← t.topFrame).freeSlot
    return { thread := t, deed := .claimLocal }
  | .pushConstant value => return { thread := ← t.push value config.runtime.maxStackSize }
  | .pushLocal slot => do
    let value ← (← t.topFrame).getLocal slot.toNat
    return { thread := ← t.push value config.runtime.maxStackSize }
  | .popLocal slot => do
    let (value, t) ← t.pop
    let _ ← (← t.topFrame).getLocal slot.toNat
    return { thread := t, deed := .setLocal slot.toNat value }
  | .pushStatic slot => do
    let value ← m.environment.getStatic slot.toNat
    return { thread := ← t.push value config.runtime.maxStackSize }
  | .popStatic slot => do
    let (value, t) ← t.pop
    let _ ← m.environment.getStatic slot.toNat
    return { thread := t, deed := .setStatic slot.toNat value }
  | .popStack => do
    let (_, t) ← t.pop
    return { thread := t }
  | .getUnitValue => do
    let (key, t) ← t.pop
    return { thread := ← t.push (Host.value key m.host) config.runtime.maxStackSize }
  | .setUnitValue => do
    let (value, key, t) ← t.popTwo
    return { thread := t, deed := .setValue key value }
  | .randomNumber => do
    let (upper, lower, t) ← t.popTwo
    if t.stack.depth < config.runtime.maxStackSize then
      return { thread := t, deed := .draw lower upper }
    else .error (.stackOverflow config.runtime.maxStackSize)

@[inline] def step (m : Machine σ) (config : Config) (now : Tick) : Except FaultKind Step :=
  match m.environment.module.instr? m.thread.ip with
  | none => .error .unknownInstr
  | some i => m.execute config now { m.thread with ip := m.thread.ip + 1 } i

@[inline] def perform (thread : Thread) (environment : Environment) (host : σ) : Deed → Machine σ
  | .none => { thread, environment, host }
  | .claimLocal => { thread := thread.mapFrame .claim, environment, host }
  | .setLocal slot value =>
    { thread := thread.mapFrame fun frame => frame.put slot value, environment, host }
  | .setStatic slot value =>
    { thread, host
      environment :=
        { environment with statics := environment.statics.setIfInBounds slot value } }
  | .request piece request => { thread, environment, host := Host.request piece request host }
  | .act act => { thread, environment, host := Host.act act host }
  | .setValue key value => { thread, environment, host := Host.setValue key value host }
  | .start started => { thread, environment := environment.enroll started, host }
  | .signal bits => { thread, environment := environment.sendSignal bits, host }
  | .draw low high =>
    let (value, environment) := environment.draw low high
    { thread := { thread with stack := thread.stack.push value }, environment, host }

def settle (m : Machine σ) : Halt → Machine σ
  | .blocked reason => { m with thread := m.thread.block reason }
  | .finished | .killed _ => { m with thread := m.thread.finish }

def fail (m : Machine σ) (fault : Fault) : Machine σ :=
  { m with
    thread := m.thread.fail fault
    host := Host.reportFault m.thread.id fault m.host }

def run (config : Config) (now : Tick) : Nat → Machine σ → Status × Machine σ
  | 0, m => (.continuing, m)
  | budget + 1, m =>
    match m.step config now with
    | .error kind =>
      let fault : Fault := ⟨m.thread.ip, kind⟩
      (.faulted fault, m.fail fault)
    | .ok s =>
      let m := perform s.thread m.environment m.host s.deed
      match s.stop with
      | none => run config now budget m
      | some halt => (halt.status, m.settle halt)

end Machine

end UnitScript
