import UnitScript.Proofs.Interpreter.Shape

namespace UnitScript

/-- What a fault says about the thread that was about to execute an instruction. -/
def FaultKind.Cause (config : Config) (m : Module) (t : Thread) : FaultKind → Prop
  | .unknownInstr => t.ip = m.codeSize
  | .stackUnderflow => ∃ i, m.instr? t.ip = some i ∧ t.stack.depth < i.pops
  | .outOfRange _ _ =>
    m.instr? t.ip = some .createLocal ∨
      ∃ slot, m.instr? t.ip = some (.pushLocal slot) ∨ m.instr? t.ip = some (.popLocal slot)
  | .arithmetic =>
    m.instr? t.ip = some (.binary .div) ∧ config.semantics.divideByZero = .fault
  | .stackOverflow _ =>
    ((∃ value, m.instr? t.ip = some (.pushConstant value)) ∨
        ∃ slot, m.instr? t.ip = some (.pushLocal slot) ∨ m.instr? t.ip = some (.pushStatic slot)) ∧
      t.stack.depth = config.runtime.maxStackSize ∨
    ∃ script argc, m.instr? t.ip = some (.callScript script argc) ∧
      config.runtime.maxCallDepth ≤ t.frames.depth
  | .unknownPiece _ => m.instr? t.ip = some .attachUnit
  | .unknownScript _ => False

def Deed.Sound (config : Config) (t : Thread) : Deed → Prop
  | .claimLocal => ∃ f rest, t.frames.items = f :: rest ∧ f.claimed < f.width
  | .setLocal _ _ => ∃ f rest, t.frames.items = f :: rest
  | .draw _ _ => t.stack.depth < config.runtime.maxStackSize
  | _ => True

structure Step.Sound (config : Config) (e : Environment) (s : Step) : Prop where
  -- A thread that has finished has no frames left.
  thread : s.stop ≠ some .finished → s.thread.WellFormed e.module config
  waits : ∀ reason, s.stop = some (.blocked reason) →
    s.deed = .none ∧ ∃ ip, s.thread.ip = ip + 1 ∧ e.module.instr? ip = some reason.instr
  deed : s.deed.Sound config s.thread

structure Step.Follows (e : Environment) (t : Thread) (s : Step) : Prop where
  id : s.thread.id = t.id
  state : s.thread.state = t.state
  started : ∀ started, s.deed = .start started →
    ∃ script entry args, e.module.script? script = some entry ∧
      started = .start e.nextThread script entry args s.thread.mask

namespace Machine

variable {σ : Type} [Host σ]

/-- The cause of a fault, given that no piece of the module is unknown to the host. -/
def Cause (config : Config) (m : Machine σ) (kind : FaultKind) : Prop :=
  m.environment.module.pieceCount ≤ (Host.pieces m.host).size →
    kind.Cause config m.environment.module m.thread

variable {config : Config} {now : Tick} {m : Machine σ} {t : Thread} {i : Instr} {s : Step}

theorem Shape.follows (h : m.Shape config now t i s) : s.Follows m.environment t := by
  have keeps {s : Step} (id : s.thread.id = t.id) (state : s.thread.state = t.state)
      (starts : ∀ started, s.deed ≠ .start started) : s.Follows m.environment t :=
    ⟨id, state, fun started h => absurd h (starts started)⟩
  cases h with
  | plain _ fits =>
    refine keeps rfl rfl ?_
    rintro started ⟨⟩
    exact fits
  | starts found => exact ⟨rfl, rfl, fun started h => ⟨_, _, _, found, (Deed.start.inj h).symm⟩⟩
  | _ => exact keeps rfl rfl nofun

theorem Shape.depth_stack_le (h : m.Shape config now t i s)
    (limit : t.stack.depth ≤ config.runtime.maxStackSize) :
    s.thread.stack.depth + s.deed.pushes ≤ config.runtime.maxStackSize := by
  cases h with
  | plain _ _ _ depth room =>
    simp only at depth room ⊢
    omega
  | calls _ items =>
    have depth := Stack.depth_of_items items
    simp only [Deed.pushes]
    omega
  | starts _ _ items =>
    have depth := Stack.depth_of_items items
    simp only [Deed.pushes]
    omega
  | signals hstack | masks hstack | sleeps hstack =>
    rw [hstack] at limit
    exact Nat.le_of_succ_le limit
  | _ => exact limit

section WellFormed

variable (fetched : m.environment.module.instr? m.thread.ip = some i)
  (wellFormed : m.thread.WellFormed m.environment.module config)
include fetched wellFormed

theorem Shape.sound (h : m.Shape config now { m.thread with ip := m.thread.ip + 1 } i s) :
    s.Sound config m.environment := by
  have inside := Module.lt_codeSize_of_instr? fetched
  have limit := wellFormed.stack_le
  have room := h.depth_stack_le limit
  have within {t : Thread} (frames : t.frames = m.thread.frames)
      (ip : t.ip ≤ m.environment.module.codeSize) (stack : t.stack = s.thread.stack) :
      t.WellFormed m.environment.module config :=
    wellFormed.of_frames frames ip (stack ▸ Nat.le_of_add_right_le room)
  cases h with
  | @plain _ stack ip deed _ fits goes =>
    refine ⟨fun _ => within rfl ?_ rfl, nofun, ?_⟩
    · obtain rfl | ⟨target, jumps, rfl⟩ := goes
      · exact inside
      · exact Nat.le_of_lt (Module.jumpTarget_lt fetched jumps)
    · cases deed with
      | claimLocal => exact fits
      | setLocal slot value => exact fits
      | draw low high => exact room
      | _ => trivial
  | @calls script argc entry args stack found items deep =>
    have callee := Frame.fits_enter found (some (m.thread.ip + 1)) args
    have caller : Thread.WellFormed m.environment.module config
        { m.thread with ip := m.thread.ip + 1, stack } := within rfl inside rfl
    have target := Nat.le_of_lt (Module.offset_lt found)
    exact ⟨fun _ => caller.pushFrame deep rfl fetched callee target, nofun, trivial⟩
  | starts => exact ⟨fun _ => within rfl inside rfl, nofun, trivial⟩
  | returns top back => exact ⟨fun _ => wellFormed.popFrame top back, nofun, trivial⟩
  | finishes => exact ⟨fun goesOn => absurd rfl goesOn, nofun, trivial⟩
  | signals =>
    refine ⟨fun _ => within rfl inside rfl, ?_, trivial⟩
    intro reason killed
    dsimp only at killed
    split at killed <;> cases killed
  | masks => exact ⟨fun _ => within rfl inside rfl, nofun, trivial⟩
  | passes => exact ⟨fun _ => within rfl inside rfl, nofun, trivial⟩
  | sleeps | waits =>
    refine ⟨fun _ => within rfl inside rfl, ?_, trivial⟩
    rintro _ ⟨⟩
    exact ⟨rfl, m.thread.ip, rfl, fetched⟩

theorem Faults.cause (statics : m.environment.statics.size = m.environment.module.staticCount)
    {kind : FaultKind}
    (h : m.Faults config { m.thread with ip := m.thread.ip + 1 } i kind) : m.Cause config kind := by
  intro enough
  cases h with
  | underflow few => exact ⟨i, fetched, few⟩
  | overflow pushes full =>
    have limit := wellFormed.stack_le
    simp only at full
    refine .inl ⟨?_, by omega⟩
    simpa [fetched] using Instr.pushes_of_pops_eq_zero pushes (by omega)
  | division mode => exact ⟨fetched, mode⟩
  | unknown refers missing =>
    have known := Module.piece_lt fetched refers
    have missing := missing known
    omega
  | computed => exact fetched
  | refused invokes refused =>
    obtain ⟨entry, found, room⟩ := Module.script_of_invocation fetched invokes
    have exceeds := refused entry found
    omega
  | deep deep => exact .inr ⟨_, _, fetched, deep⟩
  | frameless empty =>
    have depth := wellFormed.one_le_depth
    simp only at empty
    omega
  | unclaimed touches => simpa [FaultKind.Cause, fetched] using touches
  | static refers missing =>
    have known := Module.staticSlot_lt fetched refers
    omega

end WellFormed

end Machine

end UnitScript
