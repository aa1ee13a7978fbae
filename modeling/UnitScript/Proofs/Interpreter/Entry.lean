import UnitScript.Proofs.Frame
import UnitScript.Proofs.Interpreter.InPlace
import UnitScript.Proofs.Module.Lookup

universe u

namespace UnitScript

namespace Stack

variable {α : Type u}

def pushAll (s : Stack α) (values : List α) : Stack α := values.foldl push s

@[simp] theorem items_pushAll (s : Stack α) (values : List α) :
    (s.pushAll values).items = values.reverse ++ s.items := by
  induction values generalizing s with
  | nil => rfl
  | cons a rest ih =>
    rw [pushAll, List.foldl_cons]
    exact (ih (s.push a)).trans (by simp)

@[simp] theorem depth_pushAll (s : Stack α) (values : List α) :
    (s.pushAll values).depth = values.length + s.depth :=
  depth_of_items (items_pushAll s values)

theorem popN?_pushAll (s : Stack α) (values : List α) :
    (s.pushAll values).popN? values.length = some (values, s) := by
  rw [popN?, if_pos (by simp)]
  congr 1
  refine Prod.ext ?_ (Stack.ext ?_)
  · simp [List.take_left']
  · simp [List.drop_left']

theorem exists_pushAll {s : Stack α} {n : Nat} (enough : n ≤ s.depth) :
    ∃ (values : List α) (below : Stack α), values.length = n ∧ s = below.pushAll values := by
  cases popped : s.popN? n with
  | none => exact absurd (depth_lt_of_popN? popped) (Nat.not_lt.mpr enough)
  | some r =>
    obtain ⟨items, length⟩ := items_of_popN? popped
    exact ⟨r.1, r.2, length, Stack.ext (by rw [items, items_pushAll])⟩

end Stack

namespace Frame

def opening (script : ScriptId) (entry : EntryPoint) (args : List Int32) : Frame :=
  enter script none entry.locals.toNat entry.params.toNat args

/-- A frame of a script that holds arguments in its first locals, with a zero for each parameter
that has none. -/
structure Opens (script : ScriptId) (entry : EntryPoint) (args : List Int32) (f : Frame) :
    Prop where
  script_eq : f.script = script
  width_eq : f.width = entry.locals.toNat
  claimed_eq : f.claimed = max entry.params.toNat args.length
  argument : ∀ i value, args[i]? = some value → f.getLocal i = .ok value
  omitted : ∀ i, args.length ≤ i → i < max entry.params.toNat args.length → f.getLocal i = .ok 0

theorem opens_opening {script : ScriptId} {entry : EntryPoint} {args : List Int32}
    (params : entry.params.toNat ≤ entry.locals.toNat)
    (fits : args.length ≤ entry.locals.toNat) :
    (opening script entry args).Opens script entry args := by
  have claimed : (opening script entry args).claimed = max entry.params.toNat args.length :=
    Nat.min_eq_right (Nat.max_le.mpr ⟨params, fits⟩)
  have slot (i : Nat) : (opening script entry args).slots[i]? =
      (args ++ List.replicate (entry.locals.toNat - args.length) 0)[i]? := by
    rw [← toList_slots_enter fits script none entry.params.toNat, Array.getElem?_toList]
    rfl
  refine ⟨rfl, width_enter .., claimed, ?_, ?_⟩
  · intro i value given
    have inside := (List.getElem?_eq_some_iff.mp given).1
    rw [getLocal, if_pos (by omega), Array.getD_eq_getD_getElem?, slot,
      List.getElem?_append_left inside, given, Option.getD_some]
  · intro i behind inside
    rw [getLocal, if_pos (by omega), Array.getD_eq_getD_getElem?, slot,
      List.getElem?_append_right behind, List.getElem?_replicate_of_lt (by omega),
      Option.getD_some]

end Frame

structure Thread.Begins (entry : EntryPoint) (frame : Frame) (t : Thread) : Prop where
  ip_eq : t.ip = entry.offset.toNat
  frames_eq : t.frames.items = [frame]
  stack_eq : t.stack = ∅
  state_eq : t.state = .ready

theorem Thread.begins_start (id : ThreadId) (script : ScriptId) (entry : EntryPoint)
    (args : List Int32) (mask : UInt32) :
    (start id script entry args mask).Begins entry (.opening script entry args) :=
  ⟨rfl, rfl, rfl, rfl⟩

theorem Thread.popN_of_pushAll {t : Thread} {below : Stack Int32} {args : List Int32} {count : Nat}
    (length : args.length = count) (top : t.stack = below.pushAll args) :
    t.popN count = .ok (args, { t with stack := below }) := by
  rw [popN, top, ← length, Stack.popN?_pushAll]

theorem Thread.popN_of_short {t : Thread} {count : Nat} (short : t.stack.depth < count) :
    t.popN count = .error .stackUnderflow := by
  rw [popN, Stack.popN?, if_neg (Nat.not_le.mpr short)]

namespace Environment

variable {e : Environment} {script : ScriptId} {entry : EntryPoint}

structure Admits (e : Environment) (script : ScriptId) (entry : EntryPoint) : Prop where
  created : ∀ args mask, args.length ≤ entry.locals.toNat →
    ∃ t, t.Begins entry (.opening script entry args) ∧ t.id = e.nextThread ∧ t.mask = mask ∧
      e.createThread script args mask = .ok (t.id, e.enroll t)
  started : ∀ args, args.length ≤ entry.locals.toNat →
    ∃ t, t.Begins entry (.opening script entry args) ∧ t.id = e.nextThread ∧ t.mask = 0 ∧
      e.startScript entry.name args = .ok (t.id, e.enroll t)
  notCreated : ∀ args mask kind, e.createThread script args mask = .error kind ↔
    entry.locals.toNat < args.length ∧ kind = .outOfRange args.length entry.locals.toNat
  notStarted : ∀ args error, e.startScript entry.name args = .error error ↔
    entry.locals.toNat < args.length ∧
      error = .thread (.outOfRange args.length entry.locals.toNat)

theorem createThread_of_script? (declared : e.module.script? script = some entry)
    (args : List Int32) (mask : UInt32) :
    e.createThread script args mask =
      if entry.locals.toNat < args.length then
        .error (.outOfRange args.length entry.locals.toNat)
      else .ok (e.nextThread, e.enroll (.start e.nextThread script entry args mask)) := by
  simp only [createThread, prepare, declared]
  split <;> rfl

theorem startScript_of_script? (declared : e.module.script? script = some entry)
    (args : List Int32) :
    e.startScript entry.name args =
      if entry.locals.toNat < args.length then
        .error (.thread (.outOfRange args.length entry.locals.toNat))
      else .ok (e.nextThread, e.enroll (.start e.nextThread script entry args 0)) := by
  simp only [startScript, Module.entryPoint_of_script? declared,
    createThread_of_script? declared]
  split
  · next failed =>
    split at failed
    · cases failed
      rw [if_pos ‹_›]
    · cases failed
  · next made =>
    split at made
    · cases made
    · cases made
      rw [if_neg ‹_›]

theorem admits (declared : e.module.script? script = some entry) : e.Admits script entry where
  created args mask fits := by
    refine ⟨_, Thread.begins_start e.nextThread script entry args mask, rfl, rfl, ?_⟩
    rw [createThread_of_script? declared, if_neg (Nat.not_lt.mpr fits)]
    rfl
  started args fits := by
    refine ⟨_, Thread.begins_start e.nextThread script entry args 0, rfl, rfl, ?_⟩
    rw [startScript_of_script? declared, if_neg (Nat.not_lt.mpr fits)]
    rfl
  notCreated args mask kind := by
    rw [createThread_of_script? declared]
    split <;> simp_all [eq_comm]
  notStarted args error := by
    rw [startScript_of_script? declared]
    split <;> simp_all [eq_comm]

end Environment

namespace Machine

variable {σ : Type} [Host σ] {m : Machine σ} {config : Config} {now : Tick} {script : ScriptId}
  {entry : EntryPoint} {argc : UInt8}

/-- An instruction that faults has done nothing to what threads share, though it had taken operands
off the stack of its own thread. -/
def Contained (config : Config) (now : Tick) (m : Machine σ) : Prop :=
  ∀ kind, m.step config now = .error kind →
    ∃ torn, (stepInPlace config now).on m = (.error kind, { m with thread := torn })

structure Calls (config : Config) (now : Tick) (m : Machine σ) (script : ScriptId)
    (entry : EntryPoint) (argc : UInt8) : Prop where
  fits : argc.toNat ≤ entry.locals.toNat
  enters : ∀ args below, args.length = argc.toNat → m.thread.stack = below.pushAll args →
    m.thread.frames.depth < config.runtime.maxCallDepth →
    m.run config now 1 = (.continuing,
      { m with
        thread := { m.thread with
          ip := entry.offset.toNat
          stack := below
          frames := m.thread.frames.push
            { Frame.opening script entry args with returnIp := some (m.thread.ip + 1) } } })
  fails : ∀ kind, m.step config now = .error kind ↔
    m.thread.stack.depth < argc.toNat ∧ kind = .stackUnderflow ∨
      argc.toNat ≤ m.thread.stack.depth ∧
        config.runtime.maxCallDepth ≤ m.thread.frames.depth ∧
        kind = .stackOverflow config.runtime.maxCallDepth
  contained : m.Contained config now

structure Starts (config : Config) (now : Tick) (m : Machine σ) (script : ScriptId)
    (entry : EntryPoint) (argc : UInt8) : Prop where
  fits : argc.toNat ≤ entry.locals.toNat
  enters : ∀ args below, args.length = argc.toNat → m.thread.stack = below.pushAll args →
    ∃ t, t.Begins entry (.opening script entry args) ∧ t.id = m.environment.nextThread ∧
      t.mask = m.thread.mask ∧
      m.run config now 1 = (.continuing,
        { m with
          thread := { m.thread with ip := m.thread.ip + 1, stack := below }
          environment := m.environment.enroll t })
  fails : ∀ kind, m.step config now = .error kind ↔
    m.thread.stack.depth < argc.toNat ∧ kind = .stackUnderflow
  contained : m.Contained config now

theorem contained_of_fetched {i : Instr}
    (fetched : m.environment.module.instr? m.thread.ip = some i)
    (mirrors : Mirrors m (m.execute config now { m.thread with ip := m.thread.ip + 1 } i)
      ((executeInPlace config now i).on
        { m with thread := { m.thread with ip := m.thread.ip + 1 } })) :
    m.Contained config now := by
  intro kind error
  have done : Mirrors m (m.step config now) ((stepInPlace config now).on m) := by
    refine step_mirrors_of now fun i' fetched' => ?_
    obtain rfl := Option.some.inj (fetched.symm.trans fetched')
    exact mirrors
  rw [error] at done
  obtain ⟨t, -, torn⟩ := done
  exact ⟨t, torn⟩

section Call

variable (fetched : m.environment.module.instr? m.thread.ip = some (.callScript script argc))
  (declared : m.environment.module.script? script = some entry)
include fetched declared

theorem step_call_of_short (short : m.thread.stack.depth < argc.toNat) :
    m.step config now = .error .stackUnderflow := by
  rw [step_of_fetched fetched]
  simp only [execute, call, declared]
  rw [Thread.popN_of_short (t := { m.thread with ip := m.thread.ip + 1 }) short]
  rfl

theorem step_call_of_pushAll (fits : argc.toNat ≤ entry.locals.toNat) {args : List Int32}
    {below : Stack Int32} (length : args.length = argc.toNat)
    (top : m.thread.stack = below.pushAll args) :
    m.step config now =
      if m.thread.frames.depth < config.runtime.maxCallDepth then
        .ok { thread := { m.thread with
          ip := entry.offset.toNat
          stack := below
          frames := m.thread.frames.push
            { Frame.opening script entry args with returnIp := some (m.thread.ip + 1) } } }
      else .error (.stackOverflow config.runtime.maxCallDepth) := by
  rw [step_of_fetched fetched]
  simp only [execute, call, declared]
  rw [Thread.popN_of_pushAll (t := { m.thread with ip := m.thread.ip + 1 }) length top]
  simp only [bind, Except.bind, length, if_neg (Nat.not_lt.mpr fits), Thread.pushFrame]
  by_cases room : m.thread.frames.depth < config.runtime.maxCallDepth
  · simp only [if_pos room]
    rfl
  · simp only [if_neg room]

theorem calls (config : Config) (now : Tick) : m.Calls config now script entry argc := by
  obtain ⟨entry', found, fits⟩ := Module.script_of_invocation fetched rfl
  obtain rfl : entry' = entry := Option.some.inj (found.symm.trans declared)
  refine ⟨fits, ?_, ?_, ?_⟩
  · intro args below length top room
    rw [run, step_call_of_pushAll fetched declared fits length top, if_pos room]
    rfl
  · intro kind
    by_cases short : m.thread.stack.depth < argc.toNat
    · rw [step_call_of_short fetched declared short]
      simp [short, Nat.not_le.mpr short, eq_comm]
    · obtain ⟨args, below, length, top⟩ := Stack.exists_pushAll (Nat.not_lt.mp short)
      rw [step_call_of_pushAll fetched declared fits length top]
      split <;> simp_all [eq_comm]
  · exact contained_of_fetched fetched (.call rfl)

end Call

section Start

variable (fetched : m.environment.module.instr? m.thread.ip = some (.startScript script argc))
include fetched

theorem step_start_of_short (short : m.thread.stack.depth < argc.toNat) :
    m.step config now = .error .stackUnderflow := by
  rw [step_of_fetched fetched, execute,
    Thread.popN_of_short (t := { m.thread with ip := m.thread.ip + 1 }) short]
  rfl

theorem step_start_of_pushAll (declared : m.environment.module.script? script = some entry)
    (fits : argc.toNat ≤ entry.locals.toNat) {args : List Int32} {below : Stack Int32}
    (length : args.length = argc.toNat) (top : m.thread.stack = below.pushAll args) :
    m.step config now =
      .ok
        { thread := { m.thread with ip := m.thread.ip + 1, stack := below }
          deed := .start
            (.start m.environment.nextThread script entry args m.thread.mask) } := by
  rw [step_of_fetched fetched, execute,
    Thread.popN_of_pushAll (t := { m.thread with ip := m.thread.ip + 1 }) length top]
  simp only [bind, Except.bind, Environment.prepare, declared, length,
    if_neg (Nat.not_lt.mpr fits)]
  rfl

theorem starts (declared : m.environment.module.script? script = some entry) (config : Config)
    (now : Tick) : m.Starts config now script entry argc := by
  obtain ⟨entry', found, fits⟩ := Module.script_of_invocation fetched rfl
  obtain rfl : entry' = entry := Option.some.inj (found.symm.trans declared)
  refine ⟨fits, ?_, ?_, ?_⟩
  · intro args below length top
    refine ⟨_, Thread.begins_start m.environment.nextThread script entry' args m.thread.mask, rfl,
      rfl, ?_⟩
    rw [run, step_start_of_pushAll fetched declared fits length top]
    rfl
  · intro kind
    by_cases short : m.thread.stack.depth < argc.toNat
    · rw [step_start_of_short fetched short]
      simp [short, eq_comm]
    · obtain ⟨args, below, length, top⟩ := Stack.exists_pushAll (Nat.not_lt.mp short)
      rw [step_start_of_pushAll fetched declared fits length top]
      simp [short]
  · exact contained_of_fetched fetched (.start rfl)

end Start

/-- Whatever leads into a script, it begins in the same frame: what was pushed last is in the first
locals, in the order in which it was pushed. -/
theorem entries_agree {module : Module} (declared : module.script? script = some entry) :
    (∀ args : List Int32, args.length ≤ entry.locals.toNat →
      (Frame.opening script entry args).Opens script entry args ∧
        (Frame.opening script entry args).returnIp = none) ∧
    (∀ e : Environment, e.module = module → e.Admits script entry) ∧
    ∀ (m : Machine σ) (config : Config) (now : Tick) (argc : UInt8),
      m.environment.module = module →
      (module.instr? m.thread.ip = some (.callScript script argc) →
        m.Calls config now script entry argc) ∧
      (module.instr? m.thread.ip = some (.startScript script argc) →
        m.Starts config now script entry argc) := by
  refine ⟨?_, ?_, ?_⟩
  · intro args fits
    have params := UInt16.le_iff_toNat_le.mp (UInt16.not_lt.mp (Module.scriptChecked declared).1)
    exact ⟨Frame.opens_opening params fits, rfl⟩
  · rintro e rfl
    exact Environment.admits declared
  · rintro m config now argc rfl
    exact ⟨fun fetched => calls fetched declared config now,
      fun fetched => starts fetched declared config now⟩

def aim : EntryPoint := { name := "Aim", offset := 3, params := 3, locals := 4 }

def aiming : Module where
  definition :=
    { scripts := #[{ name := "Main", offset := 0 }, aim]
      code := #[.callScript ⟨1⟩ 2, .startScript ⟨1⟩ 2, .returnFromScript, .returnFromScript] }
  checked := by decide +kernel

def aimingMachine (ip : Nat) (operands : List Int32) : Machine Recorder where
  thread :=
    { Thread.start 1 ⟨0⟩ { name := "Main", offset := 0 } [] 0 with
      ip, stack := Stack.pushAll ∅ operands }
  environment := .create aiming 1 0
  host := { pieces := .ofCount 0 }

theorem aiming_entries_agree :
    ((Frame.opening ⟨1⟩ aim [7, 8]).getLocal 1 = .ok 8 ∧
      (Frame.opening ⟨1⟩ aim [7, 8]).getLocal 2 = .ok 0) ∧
    (aimingMachine 0 [9, 7, 8]).run {} 0 1 = (.continuing,
      { aimingMachine 0 [9, 7, 8] with
        thread := { (aimingMachine 0 [9, 7, 8]).thread with
          ip := 3
          stack := Stack.push ∅ 9
          frames := (aimingMachine 0 [9, 7, 8]).thread.frames.push
            { Frame.opening ⟨1⟩ aim [7, 8] with returnIp := some 1 } } }) ∧
    (aimingMachine 1 [9]).step {} 0 = .error .stackUnderflow ∧
    (Environment.create aiming 1 0).startScript "Aim" [1, 2, 3, 4, 5] =
      .error (.thread (.outOfRange 5 4)) := by
  have declared : aiming.script? ⟨1⟩ = some aim := rfl
  obtain ⟨opens, admits, opcodes⟩ := entries_agree (σ := Recorder) declared
  have opened := (opens [7, 8] (by decide)).1
  refine ⟨⟨opened.argument 1 8 rfl, opened.omitted 2 (by decide) (by decide)⟩, ?_, ?_, ?_⟩
  · have called := (opcodes (aimingMachine 0 [9, 7, 8]) {} 0 2 rfl).1 rfl
    exact called.enters [7, 8] (Stack.push ∅ 9) rfl rfl (by decide)
  · have started := (opcodes (aimingMachine 1 [9]) {} 0 2 rfl).2 rfl
    exact (started.fails .stackUnderflow).mpr ⟨by decide, rfl⟩
  · exact ((admits (.create aiming 1 0) rfl).notStarted [1, 2, 3, 4, 5] _).mpr ⟨by decide, rfl⟩

end Machine

end UnitScript
