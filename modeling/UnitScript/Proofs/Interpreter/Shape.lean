import UnitScript.Interpreter
import UnitScript.Proofs.Environment

/-!
All that an instruction can do to its thread and all the ways in which it can fault. What else there
is to say about single instructions is read off from here.
-/

namespace UnitScript

namespace Instr

def pops : Instr → Nat
  | .binary _ | .attachUnit | .setUnitValue | .randomNumber => 2
  | .animate verb _ _ =>
    match verb with
    | .move | .turn | .spin => 2
    | .moveNow | .turnNow | .stopSpin => 1
  | .unary _ | .jumpIfZero _ | .burst _ _ | .detachUnit | .sleep | .sendSignal | .setSignalMask
  | .popLocal _ | .popStatic _ | .popStack | .getUnitValue => 1
  | .callScript _ argc | .startScript _ argc => argc.toNat
  | .jump _ | .setFlag _ _ _ | .waitFor _ _ _ | .returnFromScript | .createLocal | .pushConstant _
  | .pushLocal _ | .pushStatic _ => 0

def pushes : Instr → Nat
  | .binary _ | .unary _ | .pushConstant _ | .pushLocal _ | .pushStatic _ | .getUnitValue
  | .randomNumber => 1
  | _ => 0

def isPlain : Instr → Bool
  | .callScript _ _ | .startScript _ _ | .returnFromScript | .sendSignal | .setSignalMask
  | .waitFor _ _ _ | .sleep => false
  | _ => true

theorem pushes_of_pops_eq_zero {i : Instr} (pushes : i.pushes = 1) (pops : i.pops = 0) :
    (∃ value, i = .pushConstant value) ∨ ∃ slot, i = .pushLocal slot ∨ i = .pushStatic slot := by
  cases i with
  | pushConstant value => exact .inl ⟨value, rfl⟩
  | pushLocal slot => exact .inr ⟨slot, .inl rfl⟩
  | pushStatic slot => exact .inr ⟨slot, .inr rfl⟩
  | binary | unary | getUnitValue | randomNumber => cases pops
  | _ => cases pushes

end Instr

def PieceRequest.instr (piece : PieceId) : PieceRequest → Instr
  | .moveTo axis _ _ => .animate .move piece axis
  | .moveNow axis _ => .animate .moveNow piece axis
  | .turnTo axis _ _ => .animate .turn piece axis
  | .turnNow axis _ => .animate .turnNow piece axis
  | .spin axis _ _ => .animate .spin piece axis
  | .stopSpin axis _ => .animate .stopSpin piece axis
  | .setFlag flag on => .setFlag flag on piece

def Act.piece? : Act → Option PieceId
  | .burst _ piece _ => some piece
  | .attachUnit piece _ => some piece
  | .detachUnit _ => none

namespace Deed

def pushes : Deed → Nat
  | .draw _ _ => 1
  | _ => 0

/-- What a plain instruction can leave to be done, in a thread with these frames. -/
def Fits (module : Module) (frames : Stack Frame) (i : Instr) : Deed → Prop
  | .claimLocal => ∃ f rest, frames.items = f :: rest ∧ f.claimed < f.width
  | .setLocal _ _ => ∃ f rest, frames.items = f :: rest
  | .request piece wish => i = wish.instr piece
  | .act a => ∀ piece, a.piece? = some piece → piece.index < module.pieceCount
  | .start _ | .signal _ => False
  | .none | .setStatic _ _ | .setValue _ _ | .draw _ _ => True

end Deed

theorem BinaryOp.eval_outcome (mode : DivideByZero) (op : BinaryOp) (a b : Int32) :
    Outcome (fun kind => kind = .arithmetic ∧ op = .div ∧ mode = .fault) (fun _ => True)
      (op.eval mode a b) := by
  cases op with
  | div =>
    by_cases zero : b = 0
    · cases mode with
      | fault => simp [eval, zero, Outcome]
      | zero => simp [eval, zero, Outcome]
    · simp [eval, zero, Outcome]
  | _ => trivial

namespace Machine

variable {σ : Type} [Host σ]

theorem checkPiece_outcome (m : Machine σ) (piece : PieceId) :
    Outcome
      (fun kind => kind = .unknownPiece piece ∧ (piece.index < m.environment.module.pieceCount →
        (Host.pieces m.host).size ≤ piece.index))
      (fun _ => piece.index < m.environment.module.pieceCount) (m.checkPiece piece) := by
  unfold checkPiece
  split
  · next known => exact known.1
  · next h => exact ⟨rfl, fun known => Nat.le_of_not_lt fun inside => h ⟨known, inside⟩⟩

theorem pieceOfValue_outcome (m : Machine σ) (value : Int32) :
    Outcome (fun kind => ∃ piece, kind = .unknownPiece piece)
      (fun piece => piece.index < m.environment.module.pieceCount) (m.pieceOfValue value) := by
  unfold pieceOfValue
  split
  · exact (m.checkPiece_outcome _).bind (fun kind h => ⟨_, h.1⟩) fun _ known => known
  · exact ⟨_, rfl⟩

theorem animation_outcome (t : Thread) (axis : Axis) (verb : Animation) (piece : PieceId) :
    Outcome
      (fun kind => kind = .stackUnderflow ∧ t.stack.depth < (Instr.animate verb piece axis).pops)
      (fun r => Instr.animate verb piece axis = r.1.instr piece ∧ ∃ stack,
        stack.depth + (Instr.animate verb piece axis).pops = t.stack.depth ∧
          r.2 = { t with stack })
      (animation t axis verb) := by
  have two (next : Int32 × Int32 × Thread → PieceRequest × Thread)
      (same : ∀ r, Instr.animate verb piece axis = (next r).1.instr piece ∧ (next r).2 = r.2.2) :
      Outcome (fun kind => kind = .stackUnderflow ∧ t.stack.depth < 2)
        (fun r => Instr.animate verb piece axis = r.1.instr piece ∧ ∃ stack,
          stack.depth + 2 = t.stack.depth ∧ r.2 = { t with stack })
        (t.popTwo >>= fun r => pure (next r)) := by
    refine t.popTwo_outcome.bind (fun kind h => h) ?_
    rintro r ⟨stack, hstack, hr⟩
    exact ⟨(same r).1, stack, by rw [hstack]; rfl, (same r).2.trans hr⟩
  have one (next : Int32 × Thread → PieceRequest × Thread)
      (same : ∀ r, Instr.animate verb piece axis = (next r).1.instr piece ∧ (next r).2 = r.2) :
      Outcome (fun kind => kind = .stackUnderflow ∧ t.stack.depth < 1)
        (fun r => Instr.animate verb piece axis = r.1.instr piece ∧ ∃ stack,
          stack.depth + 1 = t.stack.depth ∧ r.2 = { t with stack })
        (t.pop >>= fun r => pure (next r)) := by
    refine t.pop_outcome.bind (fun kind h => h) ?_
    rintro r ⟨stack, hstack, hr⟩
    exact ⟨(same r).1, stack, by rw [hstack]; rfl, (same r).2.trans hr⟩
  cases verb with
  | move => exact two (fun r => (.moveTo axis r.1 r.2.1, r.2.2)) fun _ => ⟨rfl, rfl⟩
  | turn =>
    exact two (fun r => (.turnTo axis (FixedPoint.toAngle r.1) (FixedPoint.toAngle r.2.1), r.2.2))
      fun _ => ⟨rfl, rfl⟩
  | spin =>
    exact two (fun r => (.spin axis (FixedPoint.toAngle r.1) (FixedPoint.toAngle r.2.1), r.2.2))
      fun _ => ⟨rfl, rfl⟩
  | moveNow => exact one (fun r => (.moveNow axis r.1, r.2)) fun _ => ⟨rfl, rfl⟩
  | turnNow =>
    exact one (fun r => (.turnNow axis (FixedPoint.toAngle r.1), r.2)) fun _ => ⟨rfl, rfl⟩
  | stopSpin =>
    exact one (fun r => (.stopSpin axis (FixedPoint.toAngle r.1), r.2)) fun _ => ⟨rfl, rfl⟩

omit [Host σ] in
theorem call_outcome (m : Machine σ) (config : Config) (t : Thread) (script : ScriptId)
    (argc : UInt8) :
    Outcome
      (fun kind => (∀ entry, m.environment.module.script? script = some entry →
          entry.locals.toNat < argc.toNat) ∨
        kind = .stackUnderflow ∧ t.stack.depth < argc.toNat ∨
        kind = .stackOverflow config.runtime.maxCallDepth ∧
          config.runtime.maxCallDepth ≤ t.frames.depth)
      (fun r => ∃ entry stack args, m.environment.module.script? script = some entry ∧
        t.stack.items = args.reverse ++ stack.items ∧ t.frames.depth < config.runtime.maxCallDepth ∧
        r = { t with
          stack
          frames := t.frames.push
            (.enter script (some t.ip) entry.locals.toNat entry.params.toNat args)
          ip := entry.offset.toNat })
      (m.call config t script argc) := by
  unfold call
  split
  · next unknown =>
    refine .inl fun entry found => ?_
    rw [unknown] at found
    cases found
  · next entry found =>
    refine (t.popN_outcome argc.toNat).bind (fun kind h => .inr (.inl h)) ?_
    rintro ⟨args, _⟩ ⟨stack, items, length, rfl⟩
    dsimp only at items length ⊢
    split
    · next exceeds =>
      refine .inl fun entry' found' => ?_
      rw [found] at found'
      cases found'
      exact length ▸ exceeds
    · refine (Thread.pushFrame_outcome ..).bind (fun kind h => .inr (.inr h)) ?_
      rintro _ ⟨room, rfl⟩
      exact ⟨entry, stack, args, found, items, room, rfl⟩

/-- What an instruction that does not fault makes of the thread `t`, whose `ip` is behind the
instruction already. -/
inductive Shape (config : Config) (now : Tick) (m : Machine σ) (t : Thread) : Instr → Step → Prop
  | plain {i : Instr} {stack : Stack Int32} {ip : Nat} {deed : Deed} :
    i.isPlain = true → deed.Fits m.environment.module t.frames i →
      (ip = t.ip ∨ ∃ target, i.jumpTarget? = some target ∧ ip = target.toNat) →
      stack.depth + deed.pushes + i.pops = t.stack.depth + i.pushes →
      (i.pushes = 0 ∨ stack.depth + deed.pushes ≤ config.runtime.maxStackSize) →
      Shape config now m t i { thread := { t with stack, ip }, deed }
  | calls {script : ScriptId} {argc : UInt8} {entry : EntryPoint} {args : List Int32}
    {stack : Stack Int32} : m.environment.module.script? script = some entry →
      t.stack.items = args.reverse ++ stack.items →
      t.frames.depth < config.runtime.maxCallDepth →
      Shape config now m t (.callScript script argc)
        { thread := { t with
            stack
            frames := t.frames.push
              (.enter script (some t.ip) entry.locals.toNat entry.params.toNat args)
            ip := entry.offset.toNat } }
  | starts {script : ScriptId} {argc : UInt8} {entry : EntryPoint} {args : List Int32}
    {stack : Stack Int32} : m.environment.module.script? script = some entry →
      args.length = argc.toNat → t.stack.items = args.reverse ++ stack.items →
      Shape config now m t (.startScript script argc)
        { thread := { t with stack }
          deed := .start (.start m.environment.nextThread script entry args t.mask) }
  | returns {frame : Frame} {frames : Stack Frame} {ip : Nat} : t.frames = frames.push frame →
    frame.returnIp = some ip →
      Shape config now m t .returnFromScript { thread := { t with frames, ip } }
  | finishes {frame : Frame} {frames : Stack Frame} : t.frames = frames.push frame →
    frame.returnIp = none →
      Shape config now m t .returnFromScript
        { thread := { t with frames }, stop := some .finished }
  | signals {value : Int32} {stack : Stack Int32} : t.stack = stack.push value →
    Shape config now m t .sendSignal
      { thread := { t with stack }
        deed := .signal value.toUInt32
        stop := if t.intercepts value.toUInt32 then some (.killed value.toUInt32) else none }
  | masks {value : Int32} {stack : Stack Int32} : t.stack = stack.push value →
    Shape config now m t .setSignalMask { thread := { t with stack, mask := value.toUInt32 } }
  | sleeps {ms : Int32} {stack : Stack Int32} : t.stack = stack.push ms →
    Shape config now m t .sleep
      { thread := { t with stack }
        stop := some (.blocked (.sleep (now + config.runtime.sleepTicks ms))) }
  | waits {motion : Motion} {piece : PieceId} {axis : Axis} :
    (Host.pieces m.host).isInMotion motion piece axis = true →
      Shape config now m t (.waitFor motion piece axis)
        { thread := t, stop := some (.blocked (.motion motion piece axis)) }
  | passes {motion : Motion} {piece : PieceId} {axis : Axis} :
    (Host.pieces m.host).isInMotion motion piece axis = false →
      Shape config now m t (.waitFor motion piece axis) { thread := t }

inductive Faults (config : Config) (m : Machine σ) (t : Thread) : Instr → FaultKind → Prop
  | underflow {i : Instr} : t.stack.depth < i.pops → Faults config m t i .stackUnderflow
  | overflow {i : Instr} : i.pushes = 1 → config.runtime.maxStackSize + i.pops ≤ t.stack.depth →
    Faults config m t i (.stackOverflow config.runtime.maxStackSize)
  | division : config.semantics.divideByZero = .fault →
    Faults config m t (.binary .div) .arithmetic
  | unknown {i : Instr} {piece : PieceId} : i.piece? = some piece →
    (piece.index < m.environment.module.pieceCount → (Host.pieces m.host).size ≤ piece.index) →
      Faults config m t i (.unknownPiece piece)
  | computed {piece : PieceId} : Faults config m t .attachUnit (.unknownPiece piece)
  | refused {i : Instr} {script : ScriptId} {argc : UInt8} {kind : FaultKind} :
    i.invocation? = some (script, argc) →
      (∀ entry, m.environment.module.script? script = some entry →
        entry.locals.toNat < argc.toNat) → Faults config m t i kind
  | deep {script : ScriptId} {argc : UInt8} : config.runtime.maxCallDepth ≤ t.frames.depth →
    Faults config m t (.callScript script argc) (.stackOverflow config.runtime.maxCallDepth)
  | frameless {i : Instr} {kind : FaultKind} : t.frames.depth = 0 → Faults config m t i kind
  | unclaimed {i : Instr} {place size : Nat} :
    (i = .createLocal ∨ ∃ slot, i = .pushLocal slot ∨ i = .popLocal slot) →
      Faults config m t i (.outOfRange place size)
  | static {i : Instr} {slot : UInt16} {kind : FaultKind} : i.staticSlot? = some slot →
    m.environment.statics.size ≤ slot.toNat → Faults config m t i kind

theorem execute_shape (m : Machine σ) (config : Config) (now : Tick) (t : Thread) (i : Instr) :
    Outcome (m.Faults config t i) (m.Shape config now t i) (m.execute config now t i) := by
  have one {stack : Stack Int32} {value : Int32} (h : t.stack = stack.push value) :
      stack.depth + 1 = t.stack.depth := by
    rw [h]
    rfl
  have two {stack : Stack Int32} {upper lower : Int32}
      (h : t.stack = (stack.push lower).push upper) : stack.depth + 2 = t.stack.depth := by
    rw [h]
    rfl
  have underflow {kind : FaultKind} (h : kind = .stackUnderflow ∧ t.stack.depth < i.pops) :
      m.Faults config t i kind :=
    h.1 ▸ .underflow h.2
  have unknown {kind : FaultKind} {piece : PieceId} (refers : i.piece? = some piece)
      (h : kind = .unknownPiece piece ∧ (piece.index < m.environment.module.pieceCount →
        (Host.pieces m.host).size ≤ piece.index)) : m.Faults config t i kind :=
    h.1 ▸ .unknown refers h.2
  have empty {kind : FaultKind} (h : t.frames.items = []) :
      m.Faults config t i kind :=
    .frameless (by rw [t.frames.depth_eq, h]; rfl)
  have leaves {stack : Stack Int32} {deed : Deed} (plain : i.isPlain = true)
      (fits : deed.Fits m.environment.module t.frames i) (none : i.pushes = 0)
      (quiet : deed.pushes = 0) (depth : stack.depth + i.pops = t.stack.depth) :
      m.Shape config now t i { thread := { t with stack }, deed } :=
    .plain plain fits (.inl rfl) (by omega) (.inl none)
  -- What has been popped makes room, so that only a stack that was too high before overflows.
  have pushed {stack : Stack Int32} (plain : i.isPlain = true) (pushes : i.pushes = 1)
      (depth : stack.depth + i.pops = t.stack.depth) (value : Int32) :
      Outcome (m.Faults config t i) (m.Shape config now t i)
        (Thread.push { t with stack } value config.runtime.maxStackSize >>=
          fun t => pure ({ thread := t } : Step)) := by
    refine (Thread.push_outcome ..).bind ?_ ?_
    · rintro _ ⟨rfl, full⟩
      simp only at full
      exact .overflow pushes (by omega)
    · rintro _ ⟨room, rfl⟩
      refine .plain plain trivial (.inl rfl) ?_ (.inr room)
      simp only [Deed.pushes, Stack.depth_push]
      omega
  cases i with
  | binary op =>
    refine t.popTwo_outcome.bind (fun _ => underflow) ?_
    rintro ⟨top, below, _⟩ ⟨stack, hstack, rfl⟩
    refine (BinaryOp.eval_outcome ..).bind ?_ fun value _ => pushed rfl rfl (two hstack) value
    rintro _ ⟨rfl, rfl, mode⟩
    exact .division mode
  | unary op =>
    refine t.pop_outcome.bind (fun _ => underflow) ?_
    rintro ⟨value, _⟩ ⟨stack, hstack, rfl⟩
    exact pushed rfl rfl (one hstack) _
  | getUnitValue =>
    refine t.pop_outcome.bind (fun _ => underflow) ?_
    rintro ⟨key, _⟩ ⟨stack, hstack, rfl⟩
    exact pushed rfl rfl (one hstack) _
  | jump target => exact .plain rfl trivial (.inr ⟨target, rfl, rfl⟩) rfl (.inl rfl)
  | jumpIfZero target =>
    refine t.pop_outcome.bind (fun _ => underflow) ?_
    rintro ⟨value, _⟩ ⟨stack, hstack, rfl⟩
    change m.Shape config now t _ { thread := if value = 0 then _ else _ }
    split
    · exact .plain rfl trivial (.inr ⟨target, rfl, rfl⟩) (one hstack) (.inl rfl)
    · exact leaves rfl trivial rfl rfl (one hstack)
  | animate verb piece axis =>
    refine (m.checkPiece_outcome piece).bind (fun _ => unknown rfl) fun _ _ => ?_
    refine (animation_outcome t axis verb piece).bind (fun _ => underflow) ?_
    rintro ⟨request, _⟩ ⟨asks, stack, depth, rfl⟩
    exact leaves rfl asks rfl rfl depth
  | burst burst piece =>
    refine (m.checkPiece_outcome piece).bind (fun _ => unknown rfl) fun _ known => ?_
    refine t.pop_outcome.bind (fun _ => underflow) ?_
    rintro ⟨kind, _⟩ ⟨stack, hstack, rfl⟩
    refine leaves rfl ?_ rfl rfl (one hstack)
    rintro _ ⟨⟩
    exact known
  | setFlag flag on piece =>
    refine (m.checkPiece_outcome piece).bind (fun _ => unknown rfl) fun _ _ => ?_
    exact leaves rfl rfl rfl rfl rfl
  | attachUnit =>
    refine t.popTwo_outcome.bind (fun _ => underflow) ?_
    rintro ⟨value, passenger, _⟩ ⟨stack, hstack, rfl⟩
    refine (m.pieceOfValue_outcome value).bind ?_ fun piece known => ?_
    · rintro _ ⟨piece, rfl⟩
      exact .computed
    · refine leaves rfl ?_ rfl rfl (two hstack)
      rintro _ ⟨⟩
      exact known
  | detachUnit =>
    refine t.pop_outcome.bind (fun _ => underflow) ?_
    rintro ⟨value, _⟩ ⟨stack, hstack, rfl⟩
    exact leaves rfl nofun rfl rfl (one hstack)
  | waitFor motion piece axis =>
    refine (m.checkPiece_outcome piece).bind (fun _ => unknown rfl) fun _ _ => ?_
    split
    · next moving => exact .waits moving
    · next still => exact .passes (eq_false_of_ne_true still)
  | sleep =>
    refine t.pop_outcome.bind (fun _ => underflow) ?_
    rintro ⟨ms, _⟩ ⟨stack, hstack, rfl⟩
    exact .sleeps hstack
  | callScript script argc =>
    refine (m.call_outcome config t script argc).bind ?_ ?_
    · rintro kind (refused | h | ⟨rfl, deep⟩)
      · exact .refused rfl refused
      · exact underflow h
      · exact .deep deep
    · rintro _ ⟨entry, stack, args, found, items, room, rfl⟩
      exact .calls found items room
  | startScript script argc =>
    refine (t.popN_outcome _).bind (fun _ => underflow) ?_
    rintro ⟨args, _⟩ ⟨stack, items, length, rfl⟩
    refine (m.environment.prepare_outcome ..).bind ?_ ?_
    · rintro kind refused
      refine .refused rfl fun entry found => ?_
      obtain missing | ⟨entry', found', exceeds⟩ := refused
      · rw [found] at missing
        cases missing
      · rw [found] at found'
        cases found'
        exact length ▸ exceeds
    · rintro _ ⟨entry, found, rfl⟩
      exact .starts found length items
  | returnFromScript =>
    refine t.popFrame_outcome.bind (fun _ => .frameless) ?_
    rintro ⟨frame, _⟩ ⟨frames, top, rfl⟩
    dsimp only
    split
    · next ip back => exact .returns top back
    · next entry => exact .finishes top entry
  | sendSignal =>
    refine t.pop_outcome.bind (fun _ => underflow) ?_
    rintro ⟨value, _⟩ ⟨stack, hstack, rfl⟩
    exact .signals hstack
  | setSignalMask =>
    refine t.pop_outcome.bind (fun _ => underflow) ?_
    rintro ⟨value, _⟩ ⟨stack, hstack, rfl⟩
    exact .masks hstack
  | createLocal =>
    refine t.topFrame_outcome.bind (fun _ => empty) ?_
    rintro f ⟨rest, top⟩
    refine f.freeSlot_outcome.bind ?_ ?_
    · rintro _ rfl
      exact .unclaimed (.inl rfl)
    · rintro slot ⟨-, room⟩
      exact leaves rfl ⟨f, rest, top, room⟩ rfl rfl rfl
  | pushConstant value => exact pushed rfl rfl rfl value
  | pushLocal slot =>
    refine t.topFrame_outcome.bind (fun _ => empty) fun f _ => ?_
    refine (f.getLocal_outcome _).bind ?_ fun value _ => pushed rfl rfl rfl value
    rintro _ rfl
    exact .unclaimed (.inr ⟨slot, .inl rfl⟩)
  | popLocal slot =>
    refine t.pop_outcome.bind (fun _ => underflow) ?_
    rintro ⟨value, _⟩ ⟨stack, hstack, rfl⟩
    refine (Thread.topFrame_outcome _).bind (fun _ => empty) ?_
    rintro f ⟨rest, top⟩
    refine (f.getLocal_outcome _).bind ?_ fun _ _ => ?_
    · rintro _ rfl
      exact .unclaimed (.inr ⟨slot, .inr rfl⟩)
    · exact leaves rfl ⟨f, rest, top⟩ rfl rfl (one hstack)
  | pushStatic slot =>
    exact (m.environment.getStatic_outcome _).bind (fun _ => .static rfl)
      fun value _ => pushed rfl rfl rfl value
  | popStatic slot =>
    refine t.pop_outcome.bind (fun _ => underflow) ?_
    rintro ⟨value, _⟩ ⟨stack, hstack, rfl⟩
    exact (m.environment.getStatic_outcome _).bind (fun _ => .static rfl)
      fun _ _ => leaves rfl trivial rfl rfl (one hstack)
  | popStack =>
    refine t.pop_outcome.bind (fun _ => underflow) ?_
    rintro ⟨value, _⟩ ⟨stack, hstack, rfl⟩
    exact leaves rfl trivial rfl rfl (one hstack)
  | setUnitValue =>
    refine t.popTwo_outcome.bind (fun _ => underflow) ?_
    rintro ⟨value, key, _⟩ ⟨stack, hstack, rfl⟩
    exact leaves rfl trivial rfl rfl (two hstack)
  | randomNumber =>
    refine t.popTwo_outcome.bind (fun _ => underflow) ?_
    rintro ⟨upper, lower, _⟩ ⟨stack, hstack, rfl⟩
    have depth := two hstack
    dsimp only
    split
    · next room => exact .plain rfl trivial (.inl rfl) (congrArg (· + 1) depth) (.inr room)
    · next full =>
      refine .overflow rfl ?_
      rw [← depth]
      exact Nat.add_le_add_right (Nat.le_of_not_lt full) 2

variable {config : Config} {now : Tick} {m : Machine σ} {s : Step}

theorem step_of_fetched {i : Instr} (fetched : m.environment.module.instr? m.thread.ip = some i) :
    m.step config now = m.execute config now { m.thread with ip := m.thread.ip + 1 } i := by
  rw [step, fetched]

theorem step_shape (worked : m.step config now = .ok s) :
    ∃ i, m.environment.module.instr? m.thread.ip = some i ∧
      m.Shape config now { m.thread with ip := m.thread.ip + 1 } i s := by
  unfold step at worked
  split at worked
  · cases worked
  · next i fetched => exact ⟨i, fetched, (m.execute_shape config now _ i).of_ok worked⟩

end Machine

end UnitScript
