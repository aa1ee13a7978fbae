import UnitScript.Proofs.Interpreter.Calls
import UnitScript.Proofs.World.Ledger
import UnitScript.Proofs.World.Safety
import UnitScript.Proofs.World.Units

namespace UnitScript

namespace TickState

open Environment

variable {σ : Type} [Host σ] {config : Config} {now : Tick} {e : Environment} {s s' : TickState σ}
  {count : Nat} {ds : List Deed} {id turned : ThreadId}

theorem id_of_dispatch? {m : Machine σ} (h : s.environment.Filed count)
    (dispatched : s.dispatch? now turned = some m) : m.thread.id = turned := by
  obtain ⟨t, found, -, rfl⟩ := dispatch?_eq_some_iff.mp dispatched
  have same : t.id = turned := h.id_eq found
  exact same

def executions (config : Config) (now : Tick) (id : ThreadId) (ids : List ThreadId)
    (s : TickState σ) : List (Execution σ) :=
  ((machines config now ids s).filter (·.thread.id = id)).flatMap
    (Machine.trace config now config.runtime.maxInstructionsPerRun)

theorem executions_append (config : Config) (now : Tick) (id : ThreadId) (ids ids' : List ThreadId)
    (s : TickState σ) :
    executions config now id (ids ++ ids') s =
      executions config now id ids s ++
        executions config now id ids' (ids.foldl (turn config now) s) := by
  simp [executions, machines_append]

theorem executions_of_ne (h : s.environment.Filed count) (other : turned ≠ id) :
    executions config now id [turned] s = [] := by
  cases dispatched : s.dispatch? now turned with
  | none => simp [executions, machines, dispatched]
  | some m =>
    have own := id_of_dispatch? h dispatched
    simp [executions, machines, dispatched, own, other]

theorem executions_of_due {t : Thread} (found : s.environment.thread? t.id = some t)
    (due : isDue s.host now t = true) :
    executions config now t.id [t.id] s =
      Machine.trace config now config.runtime.maxInstructionsPerRun
        { thread := t.wake, environment := s.environment.detach t.id, host := s.host } := by
  simp [executions, machines, dispatch?_eq_some_iff.mpr ⟨t, found, due, rfl⟩, Thread.wake]

theorem thread?_runThread_eq {t : Thread} {host : σ} {m : Machine σ}
    (h : Grown count e ds s.environment) (member : t.id ∈ e.threadIds)
    (same : m = { thread := t, environment := s.environment.detach t.id, host })
    (room : Deed.Numbered count (ds ++
      m.deeds config now config.runtime.maxInstructionsPerRun))
    (report : TickReport) :
    (runThread config now (s.environment.detach t.id) host report t).environment.thread? t.id =
      if (m.run config now config.runtime.maxInstructionsPerRun).1.isLive then
        some (m.run config now config.runtime.maxInstructionsPerRun).2.thread
      else none := by
  refine Option.ext fun after => ?_
  rw [thread?_runThread_self_iff h member same room report]
  split
  · next live => simp [live]
  · next dead => simp [dead]

theorem Turn.life (turn : Turn config now s turned s') (h : Grown count e ds s.environment)
    (member : turned ∈ e.threadIds) (old : id ∈ e.threadIds)
    (room : Deed.Numbered count (ds ++ deeds config now [turned] s)) :
    Life e.module config (s.environment.thread? id) (executions config now id [turned] s)
      (s'.environment.thread? id) := by
  by_cases other : turned = id
  · subst other
    cases turn with
    | gone missing =>
      simp only [executions, machines, dispatch?_of_missing missing]
      exact .rest _
    | held found blocked waits =>
      simp only [executions, machines, dispatch?_of_idle found (isDue_of_held blocked waits)]
      exact .rest _
    | @runs t found due =>
      have same := h.filed.id_eq found
      subst same
      rw [deeds_of_due found due] at room
      rw [found, executions_of_due found due, ← h.module_eq]
      refine .turn .ready ?_
      change Life _ config (some t.wake) (_ : List (Execution σ)) ((runThread config now
        (s.environment.detach t.wake.id) s.host s.report t.wake).environment.thread? t.wake.id)
      rw [thread?_runThread_eq (t := t.wake) h member rfl room s.report]
      exact Machine.life_trace config now _
        { thread := t.wake, environment := s.environment.detach t.id, host := s.host }
    | dropped found stuck =>
      rw [h.filed.runnable found] at stuck
      cases stuck
  · rw [executions_of_ne h.filed other]
    exact .of_keeps fun t found => turn.keeps h room member old other found

theorem foldl_turn_life {ids : List ThreadId} (h : Grown count e ds s.environment)
    (members : ∀ turned ∈ ids, turned ∈ e.threadIds) (old : id ∈ e.threadIds)
    (room : Deed.Numbered count (ds ++ deeds config now ids s)) :
    Life e.module config (s.environment.thread? id) (executions config now id ids s)
      ((ids.foldl (turn config now) s).environment.thread? id) := by
  induction ids generalizing s ds with
  | nil => exact .rest _
  | cons turned rest ih =>
    rw [← List.singleton_append, deeds_append, ← List.append_assoc] at room
    rw [← List.singleton_append, executions_append]
    have member := members turned List.mem_cons_self
    have turn := turn_cases config now s turned
    refine (turn.life h member old room.of_append).append ?_
    refine ih (turn.grown h member room.of_append) ?_ room
    intro later hl
    exact members later (List.mem_cons_of_mem _ hl)

theorem executions_of_not_mem {host : σ} (h : e.Filed count)
    (room : Deed.Numbered count (tickDeeds config now e host)) {before ids after : List ThreadId}
    (split : e.threadIds = before ++ ids ++ after) (absent : id ∉ ids) :
    executions config now id ids (before.foldl (turn config now) { environment := e, host }) =
      [] := by
  have none : (machines config now ids (before.foldl (turn config now)
      { environment := e, host })).filter (·.thread.id = id) = [] := by
    rw [List.filter_eq_nil_iff]
    intro m member same
    obtain ⟨earlier, turned, later, here, dispatched⟩ := mem_machines_iff.mp member
    have place : e.threadIds = (before ++ earlier) ++ turned :: (later ++ after) := by
      simp [split, here]
    rw [← List.foldl_append] at dispatched
    have own := id_of_dispatch? (h.foldl_turn place room).filed dispatched
    have turned_eq : turned = id := own.symm.trans (of_decide_eq_true same)
    refine absent ?_
    rw [here, ← turned_eq]
    exact List.mem_append_right _ List.mem_cons_self
  rw [executions, none, List.flatMap_nil]

theorem executions_of_absent {host : σ} (h : e.Filed count)
    (room : Deed.Numbered count (tickDeeds config now e host)) (absent : id ∉ e.threadIds) :
    executions config now id e.threadIds { environment := e, host } = [] := by
  have split : e.threadIds = [] ++ e.threadIds ++ [] := by simp
  exact executions_of_not_mem h room split absent

theorem life_runTick {host : σ} (h : e.Filed count)
    (room : Deed.Numbered count (tickDeeds config now e host)) (known : id.toNat ≤ count) :
    Life e.module config (e.thread? id)
      (executions config now id e.threadIds { environment := e, host })
      ((runTick config now e host).environment.thread? id) := by
  by_cases old : id ∈ e.threadIds
  · exact foldl_turn_life (s := { environment := e, host }) (.refl h) (fun _ member => member) old
      room
  · rw [executions_of_absent h room old]
    refine .of_keeps fun t found => ?_
    have grown := h.runTick room
    have new := (grown.origin found).resolve_left old
    -- What the tick has started has ids that were not given out yet.
    have above := List.mem_map_of_mem (f := fun t : Thread => t.id.toNat)
      (Deed.mem_born_of_mem_alive new)
    rw [grown.ids, List.mem_range'_1, grown.filed.id_eq found] at above
    omega

end TickState

theorem Environment.Filed.thread?_startScript {e e' : Environment} {count : Nat} {id : ThreadId}
    (h : e.Filed count) (known : id.toNat ≤ count) {name : String} {args : List Int32}
    {thread : ThreadId} (started : e.startScript name args = .ok (thread, e')) :
    e'.thread? id = e.thread? id := by
  obtain ⟨script, entry, -, -, rfl⟩ := startScript_eq_ok started
  rw [thread?_enroll, if_neg]
  rintro rfl
  simp only [Thread.start, h.nextThread] at known
  omega

namespace World

open Environment

variable {w : World} {u : UnitId} {unit : UnitState} {id : ThreadId} {l : Ledger} {op : Operation}
  {module : Module} {count : Nat}

def threadOf (w : World) (u : UnitId) (id : ThreadId) : Option Thread :=
  w.units[u]?.bind fun unit => unit.environment.thread? id

def executionsIn (w : World) (u : UnitId) (id : ThreadId) : Operation → List (Execution UnitHost)
  | .tick => (w.turns.filter (·.1 = u)).flatMap fun (u, unit, g) =>
    TickState.executions w.config w.now id unit.environment.threadIds
      { environment := unit.environment, host := hostOf w.config w.now u unit g }
  | _ => []

def executions (u : UnitId) (id : ThreadId) : World → List Operation → List (Execution UnitHost)
  | _, [] => []
  | w, op :: rest => w.executionsIn u id op ++ executions u id (w.apply op).2 rest

theorem executionsIn_of_ne (other : op ≠ .tick) : w.executionsIn u id op = [] := by
  cases op with
  | tick => exact absurd rfl other
  | _ => rfl

theorem ledger_append (u : UnitId) (w : World) (ops ops' : List Operation) (l : Ledger) :
    ledger u w (ops ++ ops') l = ledger u (w.after ops) ops' (ledger u w ops l) := by
  induction ops generalizing w l with
  | nil => rfl
  | cons op rest ih => exact ih (w.apply op).2 (w.post u l op)

theorem length_started_post (old : u ≠ w.nextUnit) (op : Operation) (l : Ledger) :
    l.started.length ≤ (w.post u l op).started.length := by
  unfold post
  split
  · next spawned =>
    cases spawned
    simp [old.symm]
  · split <;> simp
  · split <;> simp
  · simp [Ledger.tick]
  · exact Nat.le_refl _

theorem length_started_ledger (h : w.Numbered count) (old : u.toNat ≤ count) (ops : List Operation)
    (room : count + spawns ops < UInt32.size - 1) (l : Ledger) :
    l.started.length ≤ (ledger u w ops l).started.length := by
  induction ops generalizing w count l with
  | nil => exact Nat.le_refl _
  | cons op rest ih =>
    rw [spawns_cons, ← Nat.add_assoc] at room
    have numbered := h.apply op (Nat.lt_of_le_of_lt (Nat.le_add_right ..) room)
    exact Nat.le_trans (length_started_post (h.ne_nextUnit old) op l)
      (ih numbered (Nat.le_trans old (Nat.le_add_right ..)) room _)

/-- A unit that is among the first `count`, and an id that has been given out in it. -/
structure Tracks (w : World) (u : UnitId) (id : ThreadId) (count : Nat) (l : Ledger) : Prop where
  numbered : w.Numbered count
  balances : w.Balances u l
  old : u.toNat ≤ count
  known : id.toNat ≤ l.started.length

theorem Tracks.ne_nextUnit (h : w.Tracks u id count l) : u ≠ w.nextUnit :=
  h.numbered.ne_nextUnit h.old

theorem Tracks.apply (h : w.Tracks u id count l) (op : Operation)
    (room : count + spawns [op] < UInt32.size - 1) :
    (w.apply op).2.Tracks u id (count + spawns [op]) (w.post u l op) where
  numbered := h.numbered.apply op room
  balances := h.balances.post op
  old := Nat.le_trans h.old (Nat.le_add_right ..)
  known := Nat.le_trans h.known (length_started_post h.ne_nextUnit op l)

theorem Tracks.life_tick (h : w.Tracks u id count l) (live : w.units[u]? = some unit)
    (room : (w.post u l .tick).started.length < UInt64.size - 1) :
    Life unit.environment.module w.config (w.threadOf u id) (w.executionsIn u id .tick)
      (w.tick.2.threadOf u id) := by
  obtain ⟨g, turn⟩ := exists_turn live
  have room := numbered_of_turn turn room
  have after : w.tick.2.units[u]? = some (tickUnit w.config w.now u unit g).1 :=
    units_tick_iff.mpr ⟨unit, g, turn, rfl⟩
  have life := TickState.life_runTick (h.balances unit live room.lt).filed room h.known
  simpa [executionsIn, filter_turns turn, threadOf, live, after, tickUnit_eq] using life

theorem Tracks.life (h : w.Tracks u id count l) (op : Operation)
    (module_eq : ∀ unit, w.units[u]? = some unit → unit.environment.module = module)
    (room : (w.post u l op).started.length < UInt64.size - 1) :
    Life module w.config (w.threadOf u id) (w.executionsIn u id op)
      ((w.apply op).2.threadOf u id) := by
  by_cases about : op.concerns u = true
  · have applied := w.applied op
    generalize (w.apply op).2 = w' at applied
    cases applied with
    | spawned module => cases about
    | destroyed other =>
      cases of_decide_eq_true about
      refine .of_keeps fun t found => ?_
      simp [threadOf] at found
    | @started other name args unit thread environment live started =>
      cases of_decide_eq_true about
      have filed := (h.balances unit live (Nat.lt_of_le_of_lt
        (length_started_post h.ne_nextUnit _ l) room)).filed
      simp only [threadOf, Std.ExtTreeMap.getElem?_insert_self, live, Option.bind_some,
        filed.thread?_startScript h.known started]
      exact .rest _
    | @signalled other unit signal live =>
      cases of_decide_eq_true about
      refine .of_keeps fun t found => ?_
      simp only [threadOf, Std.ExtTreeMap.getElem?_insert_self, Option.bind_some] at found
      simpa [threadOf, live] using thread?_of_sendSignal found
    | ticked =>
      cases live : w.units[u]? with
      | none =>
        rw [executionsIn, filter_turns_of_missing live, threadOf, threadOf, live,
          units_tick_of_missing live]
        exact .rest _
      | some unit => exact module_eq unit live ▸ h.life_tick live room
    | drained => cases about
    | refused _ other =>
      rw [executionsIn_of_ne other]
      exact .rest _
  · have other : op ≠ .tick := by
      rintro rfl
      exact about rfl
    have same := units_apply_of_not_concerns h.ne_nextUnit (Bool.eq_false_iff.mpr about)
    rw [executionsIn_of_ne other, threadOf, threadOf, same]
    exact .rest _

theorem Tracks.life_after (h : w.Tracks u id count l) (ops : List Operation)
    (module_eq : ∀ unit, w.units[u]? = some unit → unit.environment.module = module)
    (units : count + spawns ops < UInt32.size - 1)
    (threads : (ledger u w ops l).started.length < UInt64.size - 1) :
    Life module w.config (w.threadOf u id) (executions u id w ops)
      ((w.after ops).threadOf u id) := by
  induction ops generalizing w count l with
  | nil => exact .rest _
  | cons op rest ih =>
    rw [spawns_cons, ← Nat.add_assoc] at units
    have tracks := h.apply op (Nat.lt_of_le_of_lt (Nat.le_add_right ..) units)
    have room := Nat.lt_of_le_of_lt
      (length_started_ledger tracks.numbered tracks.old rest units _) threads
    refine (h.life op module_eq room).append ?_
    rw [← config_apply w op]
    refine ih tracks ?_ units threads
    intro unit live
    obtain ⟨before, there, same⟩ := module_apply h.ne_nextUnit live
    rw [same, module_eq before there]

/-- Whatever else goes on in a world, the instructions that one of its threads executes are one
stretch of its life. Throughout it, frames below the one that the thread is in stay as they are, and
a return goes back to behind the call that it belongs to. -/
theorem calls_return (config : Config) (history ops : List Operation) {t : Thread}
    (live : ((create config).after history).units[u]? = some unit)
    (found : unit.environment.thread? id = some t)
    (units : spawns (history ++ ops) < UInt32.size - 1)
    (threads : (ledger u (create config) (history ++ ops) {}).started.length < UInt64.size - 1) :
    Life unit.environment.module config (some t)
      (executions u id ((create config).after history) ops)
      (((create config).after (history ++ ops)).threadOf u id) ∧
    CallDiscipline (executions u id ((create config).after history) ops) := by
  rw [spawns_append] at units
  rw [ledger_append] at threads
  have numbered := numbered_after config (Nat.lt_of_le_of_lt (Nat.le_add_right ..) units)
  have old := numbered.toNat_le live
  have balances := (balances_create config u).ledger history
  have room := Nat.lt_of_le_of_lt (length_started_ledger numbered old ops units _) threads
  have known := (balances unit live room).filed.toNat_le (mem_threadIds.mpr ⟨t, found⟩)
  have tracks : Tracks _ u id _ _ := ⟨numbered, balances, old, known⟩
  have same : ∀ unit', ((create config).after history).units[u]? = some unit' →
      unit'.environment.module = unit.environment.module := by
    simp [live]
  have life := tracks.life_after ops same units threads
  rw [config_after, threadOf, live, Option.bind_some, found, ← after_append] at life
  exact ⟨life, life.callDiscipline⟩

def disturbance : List Operation :=
  [.tick, .runScript 1 "Main" [], .spawn napping, .tick, .tick, .destroy 2, .tick, .tick]

theorem napping_returns :
    ∃ before call during back after,
      executions 1 1 ((create {}).after [.spawn napping, .runScript 1 "Main" []]) disturbance =
        before ++ call :: (during ++ back :: after) ∧
      call.instr = .callScript ⟨1⟩ 1 ∧ call.machine.thread.ip = 1 ∧ back.after.ip = 2 ∧
      back.after.frames = call.machine.thread.frames ∧
      back.after.stack = back.machine.thread.stack := by
  have there : (((create {}).after
      [.spawn napping, .runScript 1 "Main" []]).units[(1 : UnitId)]?.bind
        fun unit => unit.environment.thread? 1).isSome = true := by
    decide +kernel
  obtain ⟨t, there⟩ := Option.isSome_iff_exists.mp there
  obtain ⟨unit, live, found⟩ := Option.bind_eq_some_iff.mp there
  have discipline := (calls_return {} _ disturbance live found (by decide) (by decide +kernel)).2
  have trace : (executions 1 1 ((create {}).after [.spawn napping, .runScript 1 "Main" []])
      disturbance).map (fun x => (x.instr, x.machine.thread.ip, x.machine.thread.frames.depth,
        x.after.frames.depth)) =
      [(.pushConstant 100, 0, 1, 1), (.callScript ⟨1⟩ 1, 1, 1, 2), (.pushLocal 0, 3, 2, 2),
        (.sleep, 4, 2, 2), (.returnFromScript, 5, 2, 1), (.returnFromScript, 2, 1, 0)] := by
    decide +kernel
  simp only [List.map_eq_cons_iff, List.map_eq_nil_iff] at trace
  obtain ⟨first, _, split, -, call, _, rfl, atCall, load, _, rfl, atLoad, sleep, _, rfl, atSleep,
    back, _, rfl, atBack, last, _, rfl, -, rfl⟩ := trace
  simp only [Prod.mk.injEq] at atCall atLoad atSleep atBack
  obtain ⟨instr, ip, depth, -⟩ := atCall
  have split : _ = [first] ++ call :: ([load, sleep] ++ back :: [last]) := split
  obtain ⟨-, returned, frames, stack⟩ := discipline.returns split instr (by simp [depth])
    (by simp [depth, atLoad, atSleep]) (by simp [depth, atBack])
  exact ⟨[first], call, [load, sleep], back, [last], split, instr, ip, by rw [returned, ip], frames,
    stack⟩

end World

end UnitScript
