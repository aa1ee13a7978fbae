import UnitScript.Proofs.Interpreter.Execution
import UnitScript.Sandbox

/-!
A second interpreter, which does every part of an instruction at once. What it has done when it
comes to a fault stays done: operands are gone, and a number may have been drawn. It is grounded in
the interpreter that works an instruction out first: as long as the operand stack is within its
limit, the two agree, so that a fault leaves everything that threads share as it was.
-/

namespace UnitScript

namespace Environment

theorem createThread_eq (e : Environment) (script : ScriptId) (args : List Int32) (mask : UInt32) :
    e.createThread script args mask =
      (e.prepare script args mask).map fun t => (t.id, e.carryOut (.start t)) := by
  unfold createThread
  cases e.prepare script args mask <;> rfl

theorem setStatic_eq (e : Environment) (slot : Nat) (value : Int32) :
    e.setStatic slot value =
      (e.getStatic slot).map fun _ => e.carryOut (.setStatic slot value) := by
  unfold setStatic getStatic
  by_cases inside : slot < e.statics.size
  · simp [inside, Except.map, carryOut]
  · simp [inside, Except.map]

end Environment

namespace Frame

theorem createLocal_eq (f : Frame) :
    f.createLocal = f.freeSlot.map fun slot => (slot, Deed.claimLocal.onFrame f) := by
  unfold createLocal
  cases f.freeSlot <;> rfl

theorem setLocal_eq (f : Frame) (slot : Nat) (value : Int32) :
    f.setLocal slot value =
      (f.getLocal slot).map fun _ => (Deed.setLocal slot value).onFrame f := by
  unfold setLocal
  cases f.getLocal slot <;> rfl

end Frame

namespace Machine

abbrev Action (σ α : Type) := ExceptT FaultKind (StateM (Machine σ)) α

def Action.on {σ α : Type} (x : Action σ α) (m : Machine σ) : Except FaultKind α × Machine σ :=
  (ExceptT.run x).run m

section Primitives

variable {σ α : Type}

def attempt (f : Machine σ → Except FaultKind (α × Machine σ)) : Action σ α := do
  match f (← get) with
  | .ok (a, m) =>
    set m
    return a
  | .error kind => throw kind

def ask (f : Machine σ → Except FaultKind α) : Action σ α :=
  attempt fun m => return (← f m, m)

def onThread (f : Thread → Except FaultKind (α × Thread)) : Action σ α :=
  attempt fun m => do
    let (a, thread) ← f m.thread
    return (a, { m with thread })

def onFrame (f : Frame → Except FaultKind (α × Frame)) : Action σ α :=
  onThread fun t => do
    let (a, frame) ← f (← t.topFrame)
    return (a, t.mapFrame fun _ => frame)

def onEnvironment (f : Environment → Except FaultKind (α × Environment)) : Action σ α :=
  attempt fun m => do
    let (a, environment) ← f m.environment
    return (a, { m with environment })

def onHost (f : σ → σ) : Action σ Unit :=
  attempt fun m => return ((), { m with host := f m.host })

def pop : Action σ Int32 := onThread Thread.pop

def push (value : Int32) (limit : Nat) : Action σ Unit :=
  onThread fun t => return ((), ← t.push value limit)

def jumpTo (ip : Nat) : Action σ Unit :=
  onThread fun t => return ((), { t with ip })

end Primitives

variable {σ : Type} [Host σ]

def animationInPlace (axis : Axis) : Animation → Action σ PieceRequest
  | .move => do
    let target ← pop
    let speed ← pop
    return .moveTo axis target speed
  | .moveNow => return .moveNow axis (← pop)
  | .turn => do
    let target ← pop
    let speed ← pop
    return .turnTo axis (FixedPoint.toAngle target) (FixedPoint.toAngle speed)
  | .turnNow => return .turnNow axis (FixedPoint.toAngle (← pop))
  | .spin => do
    let speed ← pop
    let acceleration ← pop
    return .spin axis (FixedPoint.toAngle speed) (FixedPoint.toAngle acceleration)
  | .stopSpin => return .stopSpin axis (FixedPoint.toAngle (← pop))

def callInPlace (config : Config) (script : ScriptId) (argc : UInt8) : Action σ Unit := do
  let entry ← ask fun m =>
    match m.environment.module.script? script with
    | some entry => .ok entry
    | none => .error (.unknownScript script)
  let args ← onThread (·.popN argc.toNat)
  ask fun _ =>
    if entry.locals.toNat < args.length then .error (.outOfRange args.length entry.locals.toNat)
    else .ok ()
  onThread fun t => do
    let frame := Frame.enter script (some t.ip) entry.locals.toNat entry.params.toNat args
    return ((), ← t.pushFrame frame config.runtime.maxCallDepth)
  jumpTo entry.offset.toNat

def executeInPlace (config : Config) (now : Tick) : Instr → Action σ (Option Halt)
  | .binary op => do
    let top ← pop
    let below ← pop
    let (left, right) := config.semantics.operandOrder.arrange top below
    let value ← ask fun _ => op.eval config.semantics.divideByZero left right
    push value config.runtime.maxStackSize
    return none
  | .unary op => do
    let value ← pop
    push (op.eval value) config.runtime.maxStackSize
    return none
  | .jump target => do
    jumpTo target.toNat
    return none
  | .jumpIfZero target => do
    let value ← pop
    if value = 0 then jumpTo target.toNat
    return none
  | .animate verb piece axis => do
    ask (·.checkPiece piece)
    let request ← animationInPlace axis verb
    onHost (Host.request piece request)
    return none
  | .burst burst piece => do
    ask (·.checkPiece piece)
    let kind ← pop
    onHost (Host.act (.burst burst piece kind))
    return none
  | .setFlag flag on piece => do
    ask (·.checkPiece piece)
    onHost (Host.request piece (.setFlag flag on))
    return none
  | .attachUnit => do
    let value ← pop
    let passenger ← pop
    let piece ← ask (·.pieceOfValue value)
    onHost (Host.act (.attachUnit piece passenger))
    return none
  | .detachUnit => do
    let passenger ← pop
    onHost (Host.act (.detachUnit passenger))
    return none
  | .waitFor motion piece axis => do
    ask (·.checkPiece piece)
    if (Host.pieces (← get).host).isInMotion motion piece axis then
      return some (.blocked (.motion motion piece axis))
    else
      return none
  | .sleep => do
    let ms ← pop
    return some (.blocked (.sleep (now + config.runtime.sleepTicks ms)))
  | .callScript script argc => do
    callInPlace config script argc
    return none
  | .startScript script argc => do
    let args ← onThread (·.popN argc.toNat)
    let mask := (← get).thread.mask
    let _ ← onEnvironment (·.createThread script args mask)
    return none
  | .returnFromScript => do
    let frame ← onThread Thread.popFrame
    match frame.returnIp with
    | some ip =>
      jumpTo ip
      return none
    | none => return some .finished
  | .sendSignal => do
    let bits := (← pop).toUInt32
    onEnvironment fun e => return ((), e.sendSignal bits)
    if (← get).thread.intercepts bits then return some (.killed bits) else return none
  | .setSignalMask => do
    let mask := (← pop).toUInt32
    onThread fun t => return ((), { t with mask })
    return none
  | .createLocal => do
    let _ ← onFrame Frame.createLocal
    return none
  | .pushConstant value => do
    push value config.runtime.maxStackSize
    return none
  | .pushLocal slot => do
    let value ← ask fun m => do (← m.thread.topFrame).getLocal slot.toNat
    push value config.runtime.maxStackSize
    return none
  | .popLocal slot => do
    let value ← pop
    onFrame fun f => return ((), ← f.setLocal slot.toNat value)
    return none
  | .pushStatic slot => do
    let value ← ask (·.environment.getStatic slot.toNat)
    push value config.runtime.maxStackSize
    return none
  | .popStatic slot => do
    let value ← pop
    onEnvironment fun e => return ((), ← e.setStatic slot.toNat value)
    return none
  | .popStack => do
    let _ ← pop
    return none
  | .getUnitValue => do
    let key ← pop
    push (Host.value key (← get).host) config.runtime.maxStackSize
    return none
  | .setUnitValue => do
    let value ← pop
    let key ← pop
    onHost (Host.setValue key value)
    return none
  | .randomNumber => do
    let upper ← pop
    let lower ← pop
    let value ← onEnvironment fun e => return e.draw lower upper
    push value config.runtime.maxStackSize
    return none

def stepInPlace (config : Config) (now : Tick) : Action σ (Option Halt) := do
  let m ← get
  match m.environment.module.instr? m.thread.ip with
  | none => throw .unknownInstr
  | some i =>
    jumpTo (m.thread.ip + 1)
    executeInPlace config now i

def runInPlace (config : Config) (now : Tick) : Nat → Machine σ → Status × Machine σ
  | 0, m => (.continuing, m)
  | budget + 1, m =>
    match (stepInPlace config now).on m with
    | (.error kind, torn) =>
      let fault : Fault := ⟨m.thread.ip, kind⟩
      (.faulted fault, torn.fail fault)
    | (.ok none, next) => runInPlace config now budget next
    | (.ok (some halt), next) => (halt.status, next.settle halt)

section Rules

variable {α β : Type} {f : Machine σ → Except FaultKind (α × Machine σ)} {k : α → Action σ β}
  {m : Machine σ} {a : α} {kind : FaultKind}

omit [Host σ] in
theorem on_attempt (f : Machine σ → Except FaultKind (α × Machine σ)) (m : Machine σ) :
    (attempt f).on m =
      match f m with
      | .ok (a, m') => (.ok a, m')
      | .error kind => (.error kind, m) := by
  change Action.on (match f m with
    | .ok (a, m') => (do set m'; return a : Action σ α)
    | .error kind => throw kind) m = _
  cases f m <;> rfl

omit [Host σ] in
theorem on_bind (x : Action σ α) (k : α → Action σ β) (m : Machine σ) :
    (x >>= k).on m =
      match x.on m with
      | (.ok a, m') => (k a).on m'
      | (.error kind, m') => (.error kind, m') := by
  change (match x.on m with
    | (r, m') => (ExceptT.bindCont k r).run m') = _
  obtain ⟨r, m'⟩ := x.on m
  cases r <;> rfl

omit [Host σ] in
theorem on_attempt_bind_ok {n : Machine σ} (h : f m = .ok (a, n)) :
    (attempt f >>= k).on m = (k a).on n := by
  rw [on_bind, on_attempt, h]

omit [Host σ] in
theorem on_attempt_bind_error (h : f m = .error kind) :
    (attempt f >>= k).on m = (.error kind, m) := by
  rw [on_bind, on_attempt, h]

omit [Host σ] in
theorem on_ask_bind_ok {f : Machine σ → Except FaultKind α} (h : f m = .ok a) :
    (ask f >>= k).on m = (k a).on m :=
  on_attempt_bind_ok (by simp [h, bind, Except.bind, pure, Except.pure])

omit [Host σ] in
theorem on_ask_bind_error {f : Machine σ → Except FaultKind α} (h : f m = .error kind) :
    (ask f >>= k).on m = (.error kind, m) :=
  on_attempt_bind_error (by simp [h, bind, Except.bind])

end Rules

/-- An instruction in place does what was worked out; where a fault was worked out, it comes to that
fault and has touched the thread at most. -/
def Mirrors (m : Machine σ) (worked : Except FaultKind Step)
    (done : Except FaultKind (Option Halt) × Machine σ) : Prop :=
  match worked with
  | .ok s => done = (.ok s.stop, perform s.thread m.environment m.host s.deed)
  | .error kind => ∃ t, t.id = m.thread.id ∧ done = (.error kind, { m with thread := t })

namespace Mirrors

variable {α : Type} {m : Machine σ} {t : Thread} {k : α → Action σ (Option Halt)}

theorem thread {f : Thread → Except FaultKind (α × Thread)} {g : α × Thread → Except FaultKind Step}
    (same : t.id = m.thread.id)
    (rest : ∀ a t', f t = .ok (a, t') → Mirrors m (g (a, t')) ((k a).on { m with thread := t' })) :
    Mirrors m (f t >>= g) ((onThread f >>= k).on { m with thread := t }) := by
  cases h : f t with
  | error kind => exact ⟨t, same, on_attempt_bind_error (by simp [h, bind, Except.bind])⟩
  | ok r =>
    rw [onThread, on_attempt_bind_ok (a := r.1) (n := { m with thread := r.2 })
      (by simp [h, bind, Except.bind, pure, Except.pure])]
    exact rest r.1 r.2 h

theorem ask {f : Machine σ → Except FaultKind α} {x : Except FaultKind α}
    {g : α → Except FaultKind Step} (same : t.id = m.thread.id)
    (asked : f { m with thread := t } = x)
    (rest : ∀ a, x = .ok a → Mirrors m (g a) ((k a).on { m with thread := t })) :
    Mirrors m (x >>= g) ((Machine.ask f >>= k).on { m with thread := t }) := by
  cases x with
  | error kind => exact ⟨t, same, on_ask_bind_error asked⟩
  | ok a =>
    rw [on_ask_bind_ok asked]
    exact rest a rfl

theorem pop {g : Int32 × Thread → Except FaultKind Step} {k : Int32 → Action σ (Option Halt)}
    (same : t.id = m.thread.id)
    (rest : ∀ value stack, t.stack = stack.push value →
      Mirrors m (g (value, { t with stack }))
        ((k value).on { m with thread := { t with stack } })) :
    Mirrors m (t.pop >>= g) ((Machine.pop >>= k).on { m with thread := t }) := by
  refine thread same ?_
  intro value t' popped
  obtain ⟨stack, hstack, rfl⟩ := t.pop_outcome.of_ok popped
  exact rest value stack hstack

theorem popTwo {g : Int32 × Int32 × Thread → Except FaultKind Step}
    {k : Int32 → Int32 → Action σ (Option Halt)} (same : t.id = m.thread.id)
    (rest : ∀ upper lower stack, t.stack = (stack.push lower).push upper →
      Mirrors m (g (upper, lower, { t with stack }))
        ((k upper lower).on { m with thread := { t with stack } })) :
    Mirrors m (t.popTwo >>= g)
      ((Machine.pop >>= fun upper => Machine.pop >>= k upper).on { m with thread := t }) := by
  have split : t.popTwo >>= g =
      t.pop >>= fun r => r.2.pop >>= fun r' => g (r.1, r'.1, r'.2) := by
    simp [Thread.popTwo]
  rw [split]
  refine pop same fun upper below hstack => pop same fun lower stack hbelow => ?_
  exact rest upper lower stack (by rw [hstack, ← hbelow])

theorem update {f : Thread → Except FaultKind Thread} {g : Thread → Except FaultKind Step}
    {k : Unit → Action σ (Option Halt)} (same : t.id = m.thread.id)
    (rest : ∀ t', Mirrors m (g t') ((k ()).on { m with thread := t' })) :
    Mirrors m (f t >>= g)
      ((onThread (fun t => return ((), ← f t)) >>= k).on { m with thread := t }) := by
  cases h : f t with
  | error kind => exact ⟨t, same, on_attempt_bind_error (by simp [h, bind, Except.bind])⟩
  | ok t' =>
    rw [onThread, on_attempt_bind_ok (a := ()) (n := { m with thread := t' })
      (by simp [h, bind, Except.bind, pure, Except.pure])]
    exact rest t'

theorem push {limit : Nat} {value : Int32} (same : t.id = m.thread.id) :
    Mirrors m (t.push value limit >>= fun t => pure { thread := t })
      ((Machine.push value limit >>= fun _ => pure none).on { m with thread := t }) :=
  update (f := (·.push value limit)) same fun _ => rfl

theorem animation {axis : Axis} {verb : Animation}
    {g : PieceRequest × Thread → Except FaultKind Step}
    {k : PieceRequest → Action σ (Option Halt)} (same : t.id = m.thread.id)
    (rest : ∀ request stack, Mirrors m (g (request, { t with stack }))
      ((k request).on { m with thread := { t with stack } })) :
    Mirrors m (Machine.animation t axis verb >>= g)
      ((animationInPlace axis verb >>= k).on { m with thread := t }) := by
  cases verb with
  | move | turn | spin =>
    simp only [Machine.animation, animationInPlace, bind_assoc, pure_bind]
    exact popTwo same fun upper lower stack _ => rest _ stack
  | moveNow | turnNow | stopSpin =>
    simp only [Machine.animation, animationInPlace, bind_assoc, pure_bind]
    exact pop same fun value stack _ => rest _ stack

theorem environment {β : Type} {f : Environment → Except FaultKind (α × Environment)}
    {x : Except FaultKind β} {a : β → α} {d : β → Deed} (same : t.id = m.thread.id)
    (splits : f m.environment = x.map fun b => (a b, m.environment.carryOut (d b)))
    (alone : ∀ b, perform t m.environment m.host (d b) =
      { m with thread := t, environment := m.environment.carryOut (d b) }) :
    Mirrors m (x >>= fun b => pure { thread := t, deed := d b })
      ((onEnvironment f >>= fun _ => pure none).on { m with thread := t }) := by
  cases x with
  | error kind =>
    refine ⟨t, same, on_attempt_bind_error ?_⟩
    simp [splits, Except.map, bind, Except.bind]
  | ok b =>
    refine (on_attempt_bind_ok (a := a b)
      (n := { m with thread := t, environment := m.environment.carryOut (d b) }) ?_).trans ?_
    · simp [splits, Except.map, bind, Except.bind, pure, Except.pure]
    · exact congrArg (Prod.mk _) (alone b).symm

theorem frame {β : Type} {f : Frame → Except FaultKind (α × Frame)}
    {check : Frame → Except FaultKind β} {a : β → α} {d : Deed} (same : t.id = m.thread.id)
    (splits : ∀ frame, f frame = (check frame).map fun b => (a b, d.onFrame frame))
    (alone : perform t m.environment m.host d = { m with thread := t.mapFrame d.onFrame }) :
    Mirrors m (t.topFrame >>= fun frame => check frame >>= fun _ => pure { thread := t, deed := d })
      ((onFrame f >>= fun _ => pure none).on { m with thread := t }) := by
  cases top : t.topFrame with
  | error kind => exact ⟨t, same, on_attempt_bind_error (by simp [top, bind, Except.bind])⟩
  | ok frame =>
    change Mirrors m (check frame >>= _) _
    cases checked : check frame with
    | error kind =>
      refine ⟨t, same, on_attempt_bind_error ?_⟩
      simp [top, splits, checked, Except.map, bind, Except.bind]
    | ok b =>
      -- The frame that was looked at is the one on top, so it makes no difference which is changed.
      have changed : t.mapFrame (fun _ => d.onFrame frame) = t.mapFrame d.onFrame := by
        obtain ⟨rest, items⟩ := t.topFrame_outcome.of_ok top
        have frames : t.frames.mapTop (fun _ => d.onFrame frame) = t.frames.mapTop d.onFrame :=
          Stack.ext (by simp [items])
        rw [Thread.mapFrame, Thread.mapFrame, frames]
      refine (on_attempt_bind_ok (a := a b)
        (n := { m with thread := t.mapFrame d.onFrame }) ?_).trans ?_
      · simp [top, splits, checked, changed, Except.map, bind, Except.bind, pure, Except.pure]
      · exact congrArg (Prod.mk _) alone.symm

theorem call {config : Config} {script : ScriptId} {argc : UInt8} (same : t.id = m.thread.id) :
    Mirrors m (m.call config t script argc >>= fun t => pure { thread := t })
      ((callInPlace config script argc >>= fun _ => pure none).on { m with thread := t }) := by
  simp only [callInPlace, bind_assoc]
  cases found : m.environment.module.script? script with
  | none =>
    simp only [Machine.call, found]
    exact ⟨t, same, on_ask_bind_error (by simp [found])⟩
  | some entry =>
    rw [on_ask_bind_ok (a := entry) (by simp [found])]
    simp only [Machine.call, found, bind_assoc]
    refine thread (f := (·.popN argc.toNat)) same fun args t' popped => ?_
    obtain ⟨stack, -, -, rfl⟩ := (t.popN_outcome _).of_ok popped
    by_cases exceeds : entry.locals.toNat < args.length
    · simp only [if_pos exceeds]
      exact ⟨{ t with stack }, same, on_ask_bind_error rfl⟩
    · rw [on_ask_bind_ok (a := ()) (if_neg exceeds)]
      simp only [if_neg exceeds, bind_assoc, pure_bind]
      exact update (f := fun t => t.pushFrame _ _) same fun _ => rfl

theorem start {config : Config} {now : Tick} {script : ScriptId} {argc : UInt8}
    (same : t.id = m.thread.id) :
    Mirrors m (m.execute config now t (.startScript script argc))
      ((executeInPlace config now (.startScript script argc)).on { m with thread := t }) := by
  refine thread (f := (·.popN argc.toNat)) same fun args t' popped => ?_
  obtain ⟨stack, -, -, rfl⟩ := (t.popN_outcome _).of_ok popped
  change Mirrors m (m.environment.prepare script args t.mask >>= _)
    ((onEnvironment (·.createThread script args t.mask) >>= _).on _)
  refine environment (a := Thread.id) (d := .start) same ?_ fun _ => rfl
  exact m.environment.createThread_eq script args t.mask

end Mirrors

theorem execute_mirrors (m : Machine σ) (config : Config) (now : Tick) {t : Thread} (i : Instr)
    (same : t.id = m.thread.id) (room : t.stack.depth ≤ config.runtime.maxStackSize) :
    Mirrors m (m.execute config now t i)
      ((executeInPlace config now i).on { m with thread := t }) := by
  cases i with
  | binary op =>
    refine .popTwo same fun top below stack _ => ?_
    refine .ask same rfl fun value _ => ?_
    exact .push same
  | unary op => exact .pop same fun value stack _ => .push same
  | jump target => rfl
  | jumpIfZero target =>
    refine .pop same fun value stack _ => ?_
    by_cases zero : value = 0
    · simp only [zero, if_true]
      rfl
    · simp only [zero, if_false]
      rfl
  | animate verb piece axis =>
    refine .ask same rfl fun _ _ => ?_
    exact .animation same fun request stack => rfl
  | burst burst piece =>
    refine .ask same rfl fun _ _ => ?_
    exact .pop same fun kind stack _ => rfl
  | setFlag flag on piece => exact .ask same rfl fun _ _ => rfl
  | attachUnit =>
    refine .popTwo same fun value passenger stack _ => ?_
    exact .ask same rfl fun piece _ => rfl
  | detachUnit => exact .pop same fun passenger stack _ => rfl
  | waitFor motion piece axis =>
    refine .ask same rfl fun _ _ => ?_
    change Mirrors m _ ((if (Host.pieces m.host).isInMotion motion piece axis then _ else _ :
      Action σ (Option Halt)).on _)
    split <;> rfl
  | sleep => exact .pop same fun ms stack _ => rfl
  | callScript script argc => exact .call same
  | startScript script argc => exact .start same
  | returnFromScript =>
    refine .thread same fun frame t' popped => ?_
    cases back : frame.returnIp with
    | none => simp only [back]; rfl
    | some ip => simp only [back]; rfl
  | sendSignal =>
    refine .pop same fun value stack _ => ?_
    refine (on_attempt_bind_ok (a := ()) rfl).trans ?_
    change (if Thread.intercepts { t with stack } value.toUInt32 then _ else _ :
      Action σ (Option Halt)).on _ = _
    dsimp only
    split <;> rfl
  | setSignalMask => exact .pop same fun value stack _ => rfl
  | createLocal =>
    refine .frame (a := id) same (fun f => ?_) rfl
    exact f.createLocal_eq
  | pushConstant value => exact .push same
  | pushLocal slot =>
    have split : m.execute config now t (.pushLocal slot) =
        (t.topFrame >>= fun f => f.getLocal slot.toNat) >>= fun value =>
          t.push value config.runtime.maxStackSize >>= fun t => pure { thread := t } :=
      (bind_assoc ..).symm
    rw [split]
    exact .ask same rfl fun value _ => .push same
  | popLocal slot =>
    refine .pop same fun value stack _ => ?_
    refine .frame (a := fun _ => ()) same (fun f => ?_) rfl
    rw [f.setLocal_eq]
    cases f.getLocal slot.toNat <;> rfl
  | pushStatic slot => exact .ask same rfl fun value _ => .push same
  | popStatic slot =>
    refine .pop same fun value stack _ => ?_
    refine .environment (a := fun _ => ()) (d := fun _ => .setStatic slot.toNat value) same ?_
      fun _ => rfl
    rw [m.environment.setStatic_eq]
    cases m.environment.getStatic slot.toNat <;> rfl
  | popStack => exact .pop same fun value stack _ => rfl
  | getUnitValue => exact .pop same fun key stack _ => .push same
  | setUnitValue => exact .popTwo same fun value key stack _ => rfl
  | randomNumber =>
    refine .popTwo same fun upper lower stack hstack => ?_
    have room : stack.depth < config.runtime.maxStackSize := by
      rw [hstack, Stack.depth_push, Stack.depth_push] at room
      omega
    dsimp only
    rw [if_pos room]
    refine (on_attempt_bind_ok (a := (m.environment.draw lower upper).1) rfl).trans ?_
    refine on_attempt_bind_ok (a := ()) ?_
    simp [Thread.push, room, bind, Except.bind, pure, Except.pure]
    rfl

variable {config : Config} {now : Tick} {m last : Machine σ}

theorem step_mirrors_of (now : Tick)
    (instr : ∀ i, m.environment.module.instr? m.thread.ip = some i →
      Mirrors m (m.execute config now { m.thread with ip := m.thread.ip + 1 } i)
        ((executeInPlace config now i).on
          { m with thread := { m.thread with ip := m.thread.ip + 1 } })) :
    Mirrors m (m.step config now) ((stepInPlace config now).on m) := by
  change Mirrors m _ (Action.on (match m.environment.module.instr? m.thread.ip with
    | none => throw .unknownInstr
    | some i => jumpTo (m.thread.ip + 1) >>= fun _ => executeInPlace config now i) m)
  cases fetched : m.environment.module.instr? m.thread.ip with
  | none =>
    simp only [step, fetched]
    exact ⟨m.thread, rfl, rfl⟩
  | some i =>
    simp only [step, fetched]
    exact instr i fetched

theorem step_mirrors (now : Tick) (room : m.thread.stack.depth ≤ config.runtime.maxStackSize) :
    Mirrors m (m.step config now) ((stepInPlace config now).on m) :=
  step_mirrors_of now fun i _ => execute_mirrors m config now i rfl room

inductive ReachesInPlace (config : Config) (now : Tick) : Machine σ → Machine σ → Prop
  | refl (m : Machine σ) : ReachesInPlace config now m m
  | step {m next last : Machine σ} : (stepInPlace config now).on m = (.ok none, next) →
    ReachesInPlace config now next last → ReachesInPlace config now m last

theorem Reaches.inPlace (path : m.Reaches config now last)
    (room : m.thread.stack.depth ≤ config.runtime.maxStackSize) :
    m.ReachesInPlace config now last ∧
      last.thread.stack.depth ≤ config.runtime.maxStackSize := by
  induction path with
  | refl m => exact ⟨.refl m, room⟩
  | step worked stop _ ih =>
    have done := step_mirrors now room
    rw [worked] at done
    obtain ⟨path, roomThere⟩ := ih (depth_stack_le worked room)
    exact ⟨.step (stop ▸ done) path, roomThere⟩

theorem run_of_faulted {budget : Nat} {fault : Fault}
    (faulted : (m.run config now budget).1 = .faulted fault) :
    ∃ last, m.Reaches config now last ∧ last.thread.ip = fault.ip ∧
      last.step config now = .error fault.kind ∧ (m.run config now budget).2 = last.fail fault := by
  obtain ⟨last, path, ending⟩ := run_ends config now budget m
  refine ⟨last, path, ?_⟩
  generalize m.run config now budget = r at faulted ending
  cases ending with
  | exhausted => cases faulted
  | @halted s halt worked stop => cases halt <;> cases faulted
  | faulted error =>
    cases faulted
    exact ⟨rfl, error, rfl⟩

/-- The two interpreters give the same runs; only a thread that has faulted may look different. -/
theorem runInPlace_eq_run (now : Tick) (budget : Nat)
    (room : m.thread.stack.depth ≤ config.runtime.maxStackSize) :
    (m.runInPlace config now budget).1 = (m.run config now budget).1 ∧
      (m.runInPlace config now budget).2.environment = (m.run config now budget).2.environment ∧
      (m.runInPlace config now budget).2.host = (m.run config now budget).2.host ∧
      ((m.run config now budget).1.isLive = true →
        (m.runInPlace config now budget).2.thread = (m.run config now budget).2.thread) := by
  induction budget generalizing m with
  | zero => exact ⟨rfl, rfl, rfl, fun _ => rfl⟩
  | succ budget ih =>
    have done := step_mirrors now room
    rw [runInPlace, run]
    cases worked : m.step config now with
    | error kind =>
      rw [worked] at done
      obtain ⟨t, same, done⟩ := done
      rw [done]
      refine ⟨rfl, rfl, ?_, ?_⟩
      · simp only [fail, same]
      · intro live
        cases live
    | ok s =>
      rw [worked] at done
      rw [done]
      cases stop : s.stop with
      | none =>
        simp only [stop]
        exact ih (depth_stack_le worked room)
      | some halt => simp [stop]

/-- An instruction that faults leaves environment and host as they were, whatever it had begun with.
So a run that faults leaves what the instructions before the faulting one have made of them, with
one report of the fault and nothing else. -/
theorem fault_atomic (config : Config) (now : Tick)
    (room : m.thread.stack.depth ≤ config.runtime.maxStackSize) :
    (∀ kind torn, (stepInPlace config now).on m = (.error kind, torn) →
      m.step config now = .error kind ∧ torn.environment = m.environment ∧ torn.host = m.host) ∧
    ∀ budget fault, (m.run config now budget).1 = .faulted fault →
      (m.runInPlace config now budget).1 = .faulted fault ∧
      ∃ last torn, m.ReachesInPlace config now last ∧ last.thread.ip = fault.ip ∧
        (stepInPlace config now).on last = (.error fault.kind, torn) ∧
        (m.run config now budget).2.environment = last.environment ∧
        (m.run config now budget).2.host = Host.reportFault m.thread.id fault last.host ∧
        (m.runInPlace config now budget).2.environment = last.environment ∧
        (m.runInPlace config now budget).2.host = Host.reportFault m.thread.id fault last.host := by
  constructor
  · intro kind torn faulted
    have done := step_mirrors now room
    rw [faulted] at done
    cases worked : m.step config now with
    | error kind' =>
      rw [worked] at done
      obtain ⟨t, -, same⟩ := done
      cases same
      exact ⟨rfl, rfl, rfl⟩
    | ok s =>
      rw [worked] at done
      cases done
  · intro budget fault faulted
    obtain ⟨status, environment, host, -⟩ := runInPlace_eq_run now budget room
    obtain ⟨last, path, ip, error, ends⟩ := run_of_faulted faulted
    obtain ⟨pathInPlace, roomThere⟩ := path.inPlace room
    have done := step_mirrors now roomThere
    rw [error] at done
    obtain ⟨t, -, torn⟩ := done
    have reported : (last.fail fault).host = Host.reportFault m.thread.id fault last.host := by
      rw [fail, path.id_eq]
    refine ⟨status.trans faulted, last, _, pathInPlace, ip, torn, ?_, ?_, ?_, ?_⟩
    · rw [ends]
      rfl
    · rw [ends, reported]
    · rw [environment, ends]
      rfl
    · rw [host, ends, reported]

def attaching : Module where
  definition :=
    { statics := 1
      scripts := #[{ name := "Main", offset := 0 }]
      code := #[.pushConstant 7, .popStatic 0, .pushConstant 1, .pushConstant 9, .attachUnit] }
  checked := by decide +kernel

def attachingMachine : Machine Recorder where
  thread := .start 1 ⟨0⟩ { name := "Main", offset := 0 } [] 0
  environment := .create attaching 1 0
  host := { pieces := .ofCount 0 }

theorem attaching_fault_atomic :
    (attachingMachine.run {} 0 10).1 = .faulted ⟨4, .unknownPiece ⟨9⟩⟩ ∧
      ∃ last torn, attachingMachine.ReachesInPlace {} 0 last ∧
        (stepInPlace {} 0).on last = (.error (.unknownPiece ⟨9⟩), torn) ∧
        (attachingMachine.run {} 0 10).2.environment = last.environment ∧
        (attachingMachine.run {} 0 10).2.host =
          Host.reportFault 1 ⟨4, .unknownPiece ⟨9⟩⟩ last.host := by
  have faulted : (attachingMachine.run {} 0 10).1 = .faulted ⟨4, .unknownPiece ⟨9⟩⟩ := by
    decide +kernel
  obtain ⟨-, last, torn, path, -, error, environment, host, -⟩ :=
    (fault_atomic (m := attachingMachine) {} 0 (by decide)).2 10 _ faulted
  exact ⟨faulted, last, torn, path, error, environment, host⟩

end Machine

end UnitScript
