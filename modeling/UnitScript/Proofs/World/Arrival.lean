import UnitScript.Proofs.Tick.Pieces
import UnitScript.Proofs.World.Sleep

namespace UnitScript

theorem PieceSet.isInMotion_of_slide? {s : PieceSet} {piece : PieceId} {axis : Axis}
    {slide : Slide} (found : s.slide? piece axis = some slide) :
    s.isInMotion .move piece axis = slide.move.isSome := by
  obtain ⟨p, there, rfl⟩ := Option.map_eq_some_iff.mp found
  simp only [isInMotion, there]
  rfl

theorem Machine.machine_of_head?_trace {σ : Type} [Host σ] {config : Config} {now : Tick}
    {budget : Nat} {m : Machine σ} {x : Execution σ}
    (first : (m.trace config now budget).head? = some x) : x.machine = m := by
  cases budget with
  | zero => cases first
  | succ budget =>
    rw [trace] at first
    split at first
    · cases first
      rfl
    · cases first

namespace TickState

open Environment

variable {σ : Type} [Host σ] {config : Config} {now : Tick} {e : Environment} {count : Nat}
  {host : σ} {id : ThreadId} {piece : PieceId} {axis : Axis} {x : Execution σ}

def Still (config : Config) (now : Tick) (e : Environment) (host : σ) (piece : PieceId)
    (axis : Axis) (ids : List ThreadId) : Prop :=
  ∀ id ∈ ids, ∀ x ∈ executions config now id e.threadIds { environment := e, host },
    x.instr.moves piece axis = false

theorem Still.ops {ids : List ThreadId} (still : Still config now e host piece axis ids)
    (h : e.Filed count) (room : Deed.Numbered count (tickDeeds config now e host))
    (before after : List ThreadId) (split : e.threadIds = before ++ ids ++ after) :
    ∀ op ∈ Deed.pieceOps (deeds config now ids
        (before.foldl (turn config now) { environment := e, host })),
      op.moves piece axis = false := by
  intro op member
  obtain ⟨d, done, does⟩ := List.mem_filterMap.mp member
  obtain ⟨m, running, done⟩ := List.mem_flatMap.mp done
  rw [← Machine.map_deed_trace] at done
  obtain ⟨x, traced, rfl⟩ := List.mem_map.mp done
  rw [(Machine.genuine_of_mem_trace traced).moves_eq does]
  have scheduled : m ∈ machines config now e.threadIds { environment := e, host } := by
    rw [split, machines_append, machines_append]
    exact List.mem_append_left _ (List.mem_append_right _ running)
  obtain ⟨earlier, id, later, here, dispatched⟩ := mem_machines_iff.mp running
  have place : e.threadIds = (before ++ earlier) ++ id :: (later ++ after) := by
    simp [split, here]
  rw [← List.foldl_append] at dispatched
  have own := id_of_dispatch? (h.foldl_turn place room).filed dispatched
  refine still id (by simp [here]) x ?_
  exact List.mem_flatMap.mpr ⟨m, List.mem_filter.mpr ⟨scheduled, decide_eq_true own⟩, traced⟩

section Slide

variable [LawfulHost σ] (h : e.Filed count)
  (room : Deed.Numbered count (tickDeeds config now e host))

include h room

theorem slide?_runTick (still : Still config now e host piece axis e.threadIds) :
    (Host.pieces (runTick config now e host).host).slide? piece axis =
      (Host.pieces host).slide? piece axis := by
  have quiet := still.ops h room [] [] (by simp)
  rw [runTick, host_close, pieces_foldl_turn]
  exact Deed.slide?_after_pieceOps quiet

theorem slide?_atTurn (member : id ∈ e.threadIds)
    (still : Still config now e host piece axis (e.earlier id)) :
    (Host.pieces (atTurn config now e host id).host).slide? piece axis =
      (Host.pieces host).slide? piece axis := by
  have quiet := still.ops h room [] _ (threadIds_split member)
  rw [atTurn, pieces_foldl_turn]
  exact Deed.slide?_after_pieceOps quiet

theorem slide?_runTick_of_turn (member : id ∈ e.threadIds)
    (still : Still config now e host piece axis (e.later id)) :
    (Host.pieces (runTick config now e host).host).slide? piece axis =
      (Host.pieces ((atTurn config now e host id).turn config now id).host).slide? piece axis := by
  have split : e.threadIds = e.earlier id ++ [id] ++ e.later id ++ [] := by
    rw [List.append_nil, List.append_assoc]
    exact threadIds_split member
  have quiet := still.ops h room _ _ split
  rw [List.foldl_append] at quiet
  rw [runTick, host_close, split, List.append_nil, List.foldl_append, List.foldl_append,
    pieces_foldl_turn]
  exact Deed.slide?_after_pieceOps quiet

end Slide

theorem executions_eq (h : e.Filed count)
    (room : Deed.Numbered count (tickDeeds config now e host)) (member : id ∈ e.threadIds) :
    executions config now id e.threadIds { environment := e, host } =
      ((atTurn config now e host id).dispatch? now id).toList.flatMap
        (Machine.trace config now config.runtime.maxInstructionsPerRun) := by
  have split : e.threadIds = [] ++ e.earlier id ++ ([id] ++ e.later id) := threadIds_split member
  have split' : e.threadIds = (e.earlier id ++ [id]) ++ e.later id ++ [] := by simpa using split
  have before := executions_of_not_mem h room split not_mem_earlier
  have behind := executions_of_not_mem h room split' not_mem_later
  rw [List.foldl_nil] at before
  rw [split', List.append_nil, executions_append, executions_append, before, behind,
    List.nil_append, List.append_nil]
  change executions config now id [id] (atTurn config now e host id) = _
  cases dispatched : (atTurn config now e host id).dispatch? now id with
  | none => simp [executions, machines, dispatched]
  | some m =>
    have own := id_of_dispatch? (grown_atTurn h room member).filed dispatched
    simp [executions, machines, dispatched, own]

theorem thread_of_head?_executions {t : Thread} (h : e.Filed count)
    (room : Deed.Numbered count (tickDeeds config now e host))
    (found : (atTurn config now e host id).environment.thread? id = some t)
    (first : (executions config now id e.threadIds { environment := e, host }).head? = some x) :
    x.machine.thread = t.wake := by
  by_cases member : id ∈ e.threadIds
  · rw [executions_eq h room member] at first
    cases dispatched : (atTurn config now e host id).dispatch? now id with
    | none =>
      rw [dispatched] at first
      cases first
    | some m =>
      rw [dispatched, Option.toList_some, List.flatMap_singleton] at first
      rw [Machine.machine_of_head?_trace first]
      obtain ⟨t', there, -, rfl⟩ := dispatch?_eq_some_iff.mp dispatched
      cases found.symm.trans there
      rfl
  · rw [executions_of_absent h room member] at first
    cases first

theorem host_turn_of_stop {halt : Halt} (h : e.Filed count)
    (room : Deed.Numbered count (tickDeeds config now e host))
    (member : x ∈ executions config now id e.threadIds { environment := e, host })
    (stop : x.step.stop = some halt) (idle : x.step.deed = .none) :
    ((atTurn config now e host id).turn config now id).host = x.machine.host := by
  obtain ⟨-, m, -, dispatched, traced⟩ := of_mem_executions h room member
  rw [(turn_cases config now _ id).host_eq dispatched, Machine.run_eq_of_stop traced stop,
    Machine.host_settle, idle]
  rfl

theorem isDue_of_motion {t : Thread} {slide : Slide}
    (state : t.state = .blocked (.motion .move piece axis))
    (found : (Host.pieces host).slide? piece axis = some slide) :
    isDue host now t = slide.move.isNone := by
  rw [isDue, state, ← Option.not_isSome, ← PieceSet.isInMotion_of_slide? found]
  rfl

end TickState

namespace World

open Environment

variable {config : Config} {w : World} {u : UnitId} {unit : UnitState} {g : Gathered}
  {id : ThreadId} {t : Thread} {op : Operation} {ops : List Operation} {l : Ledger} {count : Nat}
  {piece : PieceId} {axis : Axis}

def slideOf (w : World) (u : UnitId) (piece : PieceId) (axis : Axis) : Option Slide :=
  w.units[u]?.bind fun unit => unit.pieces.slide? piece axis

def Steady (w : World) : Prop :=
  ∀ (u : UnitId) (unit : UnitState), w.units[u]? = some unit → unit.pieces.Steady

theorem pieces_tickUnit (config : Config) (now : Tick) (u : UnitId) (unit : UnitState)
    (g : Gathered) :
    (tickUnit config now u unit g).1.pieces =
      (Host.pieces (runTick config now unit.environment
        (hostOf config now u unit g)).host).advance :=
  rfl

theorem Steady.apply (h : w.Steady) (op : Operation) : (w.apply op).2.Steady := by
  have inserted {w' : World} {id' : UnitId} {unit' : UnitState}
      (units : w'.units = w.units.insert id' unit') (good : unit'.pieces.Steady) :
      w'.Steady := by
    intro id unit live
    rw [units, Std.ExtTreeMap.getElem?_insert] at live
    split at live
    · cases live
      exact good
    · exact h id unit live
  have applied := w.applied op
  generalize (w.apply op).2 = w' at applied
  cases applied with
  | spawned module => exact inserted rfl (PieceSet.steady_ofCount _)
  | destroyed id' =>
    intro id unit live
    simp only [Std.ExtTreeMap.getElem?_erase] at live
    split at live
    · cases live
    · exact h id unit live
  | @started _ _ _ before _ _ found => exact inserted rfl (h _ before found)
  | @signalled _ before _ found => exact inserted rfl (h _ before found)
  | ticked =>
    intro id unit live
    obtain ⟨before, g, turn, rfl⟩ := units_tick_iff.mp live
    have steady : (Host.pieces (hostOf w.config w.now id before g)).Steady :=
      h id before (Table.getElem?_of_mem_visits turn)
    rw [pieces_tickUnit, runTick, host_close, TickState.pieces_foldl_turn]
    exact (steady.after _).apply .advance
  | drained => exact h
  | refused => exact h

theorem steady_after (config : Config) (ops : List Operation) :
    ((create config).after ops).Steady := by
  refine after_induction ops ?_ fun w op h => h.apply op
  intro id unit live
  simp [create] at live

theorem executions_append (u : UnitId) (id : ThreadId) (w : World) (ops ops' : List Operation) :
    executions u id w (ops ++ ops') =
      executions u id w ops ++ executions u id (w.after ops) ops' := by
  induction ops generalizing w with
  | nil => rfl
  | cons op rest ih =>
    rw [List.cons_append, executions, executions, ih, List.append_assoc]
    rfl

theorem executionsIn_eq (turn : (u, unit, g) ∈ w.turns) :
    w.executionsIn u id .tick = TickState.executions w.config w.now id unit.environment.threadIds
      { environment := unit.environment, host := hostOf w.config w.now u unit g } := by
  rw [executionsIn, filter_turns turn, List.flatMap_singleton]

theorem still_of_quiet (turn : (u, unit, g) ∈ w.turns) {ids : List ThreadId}
    (quiet : ∀ other ∈ ids, ∀ x ∈ w.executionsIn u other .tick, x.instr.moves piece axis = false) :
    TickState.Still w.config w.now unit.environment (hostOf w.config w.now u unit g) piece axis
      ids := by
  intro other member x executed
  rw [← executionsIn_eq turn] at executed
  exact quiet other member x executed

theorem slideOf_of_turn (turn : (u, unit, g) ∈ w.turns) :
    w.slideOf u piece axis =
      (Host.pieces (hostOf w.config w.now u unit g)).slide? piece axis := by
  rw [slideOf, Table.getElem?_of_mem_visits turn, Option.bind_some]
  rfl

theorem slideOf_tick (turn : (u, unit, g) ∈ w.turns) :
    w.tick.2.slideOf u piece axis =
      ((Host.pieces (runTick w.config w.now unit.environment
        (hostOf w.config w.now u unit g)).host).slide? piece axis).map Slide.advance := by
  rw [slideOf, units_tick_iff.mpr ⟨unit, g, turn, rfl⟩, Option.bind_some, pieces_tickUnit,
    PieceSet.slide?_advance]

theorem Tracks.slideOf_apply (h : w.Tracks u id count l)
    (room : (w.post u l op).started.length < UInt64.size - 1)
    (live : (w.apply op).2.units[u]? = some unit)
    (quiet : ∀ other, ∀ x ∈ w.executionsIn u other op, x.instr.moves piece axis = false) :
    (w.apply op).2.slideOf u piece axis =
      (w.slideOf u piece axis).map Slide.advance^[ticks [op]] := by
  obtain ⟨before, there, -, same⟩ := origin_apply h.ne_nextUnit live
  by_cases tick : op = .tick
  · subst tick
    obtain ⟨g, turn, filed, room⟩ := h.turn there room
    have still := still_of_quiet turn
      fun other (_ : other ∈ before.environment.threadIds) => quiet other
    change w.tick.2.slideOf u piece axis = _
    rw [slideOf_tick turn, TickState.slide?_runTick filed room still, slideOf_of_turn turn]
    rfl
  · rw [ticks_of_ne tick, Function.iterate_zero, Option.map_id_fun, id_eq, slideOf, slideOf, live,
      there, Option.bind_some, Option.bind_some, same tick]

theorem Tracks.slideOf_after (h : w.Tracks u id count l)
    (units : count + spawns ops < UInt32.size - 1)
    (threads : (ledger u w ops l).started.length < UInt64.size - 1)
    (live : (w.after ops).units[u]? = some unit)
    (quiet : ∀ other, ∀ x ∈ executions u other w ops, x.instr.moves piece axis = false) :
    (w.after ops).slideOf u piece axis =
      (w.slideOf u piece axis).map Slide.advance^[ticks ops] := by
  induction ops generalizing w count l with
  | nil => exact (congrFun Option.map_id_fun _).symm
  | cons op rest ih =>
    obtain ⟨few, room⟩ := h.numbered.room_of_append h.old [op] rest units threads
    have tracks := h.apply op few
    rw [spawns_cons, ← Nat.add_assoc] at units
    cases next : (w.apply op).2.units[u]? with
    | none =>
      have gone := tracks.numbered.units_after_of_missing tracks.old next units
      cases gone.symm.trans live
    | some unit' =>
      have now := h.slideOf_apply room next fun other x executed =>
        quiet other x (List.mem_append_left _ executed)
      have later := ih tracks units threads live fun other x executed =>
        quiet other x (List.mem_append_right _ executed)
      rw [ticks_cons, Nat.add_comm, Function.iterate_add, ← Option.map_map, ← now, ← later]
      rfl

section Stop

variable {x : Execution UnitHost} {halt : Halt} (turn : (u, unit, g) ∈ w.turns)
  (filed : unit.environment.Filed count)
  (room : Deed.Numbered count
    (tickDeeds w.config w.now unit.environment (hostOf w.config w.now u unit g)))
  (executed : x ∈ TickState.executions w.config w.now id unit.environment.threadIds
    { environment := unit.environment, host := hostOf w.config w.now u unit g })
  (stop : x.step.stop = some halt) (idle : x.step.deed = .none)

include turn filed room executed stop idle

theorem slideOf_tick_of_stop
    (quiet : ∀ other, ∀ y ∈ w.executionsIn u other .tick, id < other →
      y.instr.moves piece axis = false) :
    w.tick.2.slideOf u piece axis =
      ((Host.pieces x.machine.host).slide? piece axis).map Slide.advance := by
  have member := (TickState.of_mem_executions filed room executed).1
  have still := still_of_quiet turn
    fun other (behind : other ∈ unit.environment.later id) y executed =>
      quiet other y executed (of_decide_eq_true (List.mem_filter.mp behind).2)
  rw [slideOf_tick turn, TickState.slide?_runTick_of_turn filed room member still,
    TickState.host_turn_of_stop filed room executed stop idle]

theorem Steady.of_stop (h : w.Steady) : (Host.pieces x.machine.host).Steady := by
  have steady : (Host.pieces (hostOf w.config w.now u unit g)).Steady :=
    h u unit (Table.getElem?_of_mem_visits turn)
  rw [← TickState.host_turn_of_stop filed room executed stop idle,
    (TickState.turn_cases ..).pieces_eq, TickState.atTurn, TickState.pieces_foldl_turn]
  exact (steady.after _).after _

end Stop

/-- Nobody moves a piece from the turn in which a thread begins to wait, through what is asked of
the world since, up to the turn of the thread in the next tick. -/
structure Undisturbed (w : World) (u : UnitId) (id : ThreadId) (piece : PieceId) (axis : Axis)
    (since : List Operation) : Prop where
  behind : ∀ other, ∀ x ∈ w.executionsIn u other .tick, id < other →
    x.instr.moves piece axis = false
  between : ∀ other, ∀ x ∈ executions u other w.tick.2 since, x.instr.moves piece axis = false
  before : ∀ other, ∀ x ∈ (w.tick.2.after since).executionsIn u other .tick, other < id →
    x.instr.moves piece axis = false

theorem Undisturbed.of_append {since later : List Operation}
    (h : w.Undisturbed u id piece axis (since ++ .tick :: later)) :
    w.Undisturbed u id piece axis since where
  behind := h.behind
  between other x executed := by
    refine h.between other x ?_
    rw [executions_append]
    exact List.mem_append_left _ executed
  before other x executed _ := by
    refine h.between other x ?_
    rw [executions_append]
    exact List.mem_append_right _ (List.mem_append_left _ executed)

section Motion

variable {rest since later : List Operation} {slide : Slide} {m : Move}
  (h : w.Tracks u t.id count l)
  (units : count + spawns (.tick :: rest) < UInt32.size - 1)
  (threads : (ledger u w (.tick :: rest) l).started.length < UInt64.size - 1)
  (begins : w.tick.2.slideOf u piece axis = some slide.advance)

include h units threads begins

theorem Tracks.slide?_since (split : rest = since ++ .tick :: later)
    (undisturbed : w.Undisturbed u t.id piece axis since)
    (found : (w.tick.2.after since).threadOf u t.id = some t) {host : UnitHost}
    (reached : (w.tick.2.after since).hostAtTurn u t.id = some host) :
    (Host.pieces host).slide? piece axis = some (Slide.advance^[ticks since + 1] slide) := by
  obtain ⟨count', l', tracks, room⟩ := h.tracks_since units threads split
  obtain ⟨unit, live, found⟩ := Option.bind_eq_some_iff.mp found
  obtain ⟨g, turn, filed, room⟩ := tracks.turn live room
  have still := still_of_quiet turn
    fun other (earlier : other ∈ unit.environment.earlier t.id) x executed =>
      undisturbed.before other x executed (of_decide_eq_true (List.mem_filter.mp earlier).2)
  cases (hostAtTurn_eq turn).symm.trans reached
  subst split
  obtain ⟨units, threads⟩ :=
    h.numbered.room_of_append h.old (.tick :: since) (.tick :: later) units threads
  have next := h.apply .tick (Nat.lt_of_le_of_lt (Nat.le_add_right ..) units)
  have slid : (w.tick.2.after since).slideOf u piece axis =
      (w.tick.2.slideOf u piece axis).map Slide.advance^[ticks since] :=
    next.slideOf_after units threads live undisturbed.between
  rw [TickState.slide?_atTurn filed room (mem_threadIds.mpr ⟨t, found⟩) still,
    ← slideOf_of_turn turn, slid, begins, Option.map_some, Function.iterate_succ_apply]

variable (pending : slide.move = some m) (steady : m.Steady)
  (state : t.state = .blocked (.motion .move piece axis))

include pending steady state

theorem Tracks.held_of_motion (split : rest = since ++ .tick :: later)
    (undisturbed : w.Undisturbed u t.id piece axis since)
    (early : ticks since + 1 < m.duration slide.position) :
    (w.tick.2.after since).Held u t := by
  intro found host reached
  have slid := h.slide?_since units threads begins split undisturbed found reached
  rw [TickState.isDue_of_motion state slid, (Slide.advance_iterate pending steady _).2,
    if_pos early, Option.isNone_some]

theorem Tracks.heldThrough_of_motion (split : rest = since ++ later)
    (undisturbed : w.Undisturbed u t.id piece axis since)
    (early : ticks since < m.duration slide.position) : w.tick.2.HeldThrough u t since := by
  intro before between split'
  subst split'
  refine h.held_of_motion units threads begins pending steady state
    (split.trans (List.append_assoc ..)) undisturbed.of_append ?_
  rw [ticks_append, ticks_cons] at early
  exact Nat.lt_of_le_of_lt (Nat.add_le_add_left (Nat.le_add_right 1 _) _) early

theorem Tracks.due_of_motion (split : rest = since ++ .tick :: later)
    (undisturbed : w.Undisturbed u t.id piece axis since)
    (late : ticks since + 1 = m.duration slide.position) : (w.tick.2.after since).Due u t := by
  intro found host reached
  have slid := h.slide?_since units threads begins split undisturbed found reached
  rw [TickState.isDue_of_motion state slid, (Slide.advance_iterate pending steady _).2,
    if_neg (Nat.not_lt.mpr (Nat.le_of_eq late.symm)), Option.isNone_none]

end Motion

theorem Tracks.thread_of_head?_executionsIn {x : Execution UnitHost} (h : w.Tracks u id count l)
    (room : (w.post u l .tick).started.length < UInt64.size - 1)
    (turned : w.threadAtTurn u id = some t)
    (first : (w.executionsIn u id .tick).head? = some x) : x.machine.thread = t.wake := by
  obtain ⟨unit, g, turn, -⟩ := turn_of_mem_executionsIn (List.mem_of_head? first)
  obtain ⟨g', turn', filed, room⟩ := h.turn (Table.getElem?_of_mem_visits turn) room
  rw [threadAtTurn_eq turn'] at turned
  rw [executionsIn_eq turn'] at first
  exact TickState.thread_of_head?_executions filed room turned first

/-- A thread begins to wait in a tick of the world for a piece that arrives in `k` ticks. -/
structure Awaits (w : World) (u : UnitId) (t : Thread) (piece : PieceId) (axis : Axis) (k : Nat)
    (rest : List Operation) : Prop where
  stops : w.Lists u TickReport.blocked t.id ↔ ¬w.Ended u t []
  waits : ∀ since later, rest = since ++ .tick :: later → ticks since + 1 < k →
    w.Undisturbed u t.id piece axis since →
    ¬(w.tick.2.after since).Lists u TickReport.ran t.id ∧
      ((w.tick.2.after since).Lists u TickReport.blocked t.id ↔ ¬w.Ended u t (since ++ [.tick]))
  resumes : ∀ since later, rest = since ++ .tick :: later → ticks since + 1 = k →
    w.Undisturbed u t.id piece axis since →
    ((w.tick.2.after since).Lists u TickReport.ran t.id ↔
      ¬w.Ended u t since ∧ ¬Deed.Strike ((w.tick.2.after since).deedsBefore u t.id) t) ∧
    ((w.tick.2.after since).Lists u TickReport.ran t.id →
      (w.tick.2.after since).threadAtTurn u t.id = some t ∧
        ∀ x, ((w.tick.2.after since).executionsIn u t.id .tick).head? = some x →
          x.machine.thread = t.wake)

theorem Tracks.awaits {rest : List Operation} {slide : Slide} {m : Move}
    (h : w.Tracks u t.id count l) (units : count + spawns (.tick :: rest) < UInt32.size - 1)
    (threads : (ledger u w (.tick :: rest) l).started.length < UInt64.size - 1)
    (blocked : w.tick.2.threadOf u t.id = some t ∧ ¬Deed.Strike (w.deedsBehind u t.id) t ∨
      w.tick.2.threadOf u t.id = none ∧ Deed.Strike (w.deedsBehind u t.id) t)
    (state : t.state = .blocked (.motion .move piece axis)) (pending : slide.move = some m)
    (steady : m.Steady)
    (begins : ∀ since, w.Undisturbed u t.id piece axis since →
      w.tick.2.slideOf u piece axis = some slide.advance) :
    Awaits w u t piece axis (m.duration slide.position) rest where
  stops := h.lies_down units threads blocked state
  waits since later split early undisturbed := by
    have begins := begins since undisturbed
    have held := h.heldThrough_of_motion units threads begins pending steady state split undisturbed
      (Nat.lt_of_succ_lt early)
    have last := h.held_of_motion units threads begins pending steady state split undisturbed early
    exact h.held_since units threads blocked state split held last
  resumes since later split late undisturbed := by
    have begins := begins since undisturbed
    have held := h.heldThrough_of_motion units threads begins pending steady state split undisturbed
      (Nat.lt_of_succ_le (Nat.le_of_eq late))
    have due := h.due_of_motion units threads begins pending steady state split undisturbed late
    obtain ⟨ran, turned⟩ := h.wakes_since units threads blocked split held due
    obtain ⟨count', l', tracks, room⟩ := h.tracks_since units threads split
    refine ⟨ran, fun runs => ⟨turned runs, fun x => ?_⟩⟩
    exact tracks.thread_of_head?_executionsIn room (turned runs)

/-- A thread that waits for a move goes on in the first tick after the arrival, at the instruction
behind the wait, if nobody moves the piece meanwhile. -/
theorem moves_awaited (config : Config) (history rest : List Operation) {u : UnitId}
    {id : ThreadId} {x : Execution UnitHost} {slide : Slide} {m : Move}
    (units : spawns (history ++ .tick :: rest) < UInt32.size - 1)
    (threads :
      (ledger u (create config) (history ++ .tick :: rest) {}).started.length < UInt64.size - 1)
    (member : x ∈ ((create config).after history).executionsIn u id .tick)
    (waits : x.instr = .waitFor .move piece axis)
    (found : (Host.pieces x.machine.host).slide? piece axis = some slide)
    (pending : slide.move = some m) :
    x.after =
        { x.machine.thread with
          ip := x.machine.thread.ip + 1
          state := .blocked (.motion .move piece axis) } ∧
      x.after.id = id ∧
      Awaits ((create config).after history) u x.after piece axis (m.duration slide.position)
        rest := by
  obtain ⟨unit, g, count, l, tracks, units, threads, turn, filed, room, executed⟩ :=
    tracks_of_mem_executionsIn units threads member
  obtain ⟨-, machine, -, -, traced⟩ := TickState.of_mem_executions filed room executed
  have moving : (Host.pieces x.machine.host).isInMotion .move piece axis = true := by
    rw [PieceSet.isInMotion_of_slide? found, pending, Option.isSome_some]
  have step := (Machine.genuine_of_mem_trace traced).waitFor waits moving
  have stop : x.step.stop = some (.blocked (.motion .move piece axis)) := by rw [step]
  have idle : x.step.deed = .none := by rw [step]
  have after : x.after = { x.machine.thread with
      ip := x.machine.thread.ip + 1
      state := .blocked (.motion .move piece axis) } := by
    rw [Execution.after, step]
    rfl
  have state : x.after.state = .blocked (.motion .move piece axis) := by rw [after]
  have steady := (steady_after config history).of_stop turn filed room executed stop idle
    piece axis slide found m pending
  obtain ⟨same, blocked⟩ := comes_to_rest turn filed room executed stop
  refine ⟨after, same, ?_⟩
  subst same
  refine tracks.awaits units threads blocked state pending steady fun since undisturbed => ?_
  rw [slideOf_tick_of_stop turn filed room executed stop idle undisturbed.behind, found,
    Option.map_some]

theorem quiet_of_machines (p : ThreadId → Prop) {other : ThreadId} {x : Execution UnitHost}
    (quiet : ∀ m ∈ w.machines, p m.thread.id →
      ∀ x ∈ m.trace w.config w.now w.config.runtime.maxInstructionsPerRun,
        x.instr.moves piece axis = false)
    (executed : x ∈ w.executionsIn u other .tick) (among : p other) :
    x.instr.moves piece axis = false := by
  obtain ⟨unit, g, turn, executed⟩ := turn_of_mem_executionsIn executed
  obtain ⟨m, running, traced⟩ := List.mem_flatMap.mp executed
  obtain ⟨running, named⟩ := List.mem_filter.mp running
  refine quiet m (List.mem_flatMap.mpr ⟨_, turn, running⟩) ?_ x traced
  rwa [of_decide_eq_true named]

def gliding : Module where
  definition :=
    { pieces := #["base"]
      scripts := #[{ name := "Main", offset := 0 }, { name := "Sway", offset := 5 }]
      code := #[.pushConstant 3, .pushConstant 5, .animate .move ⟨0⟩ .x, .waitFor .move ⟨0⟩ .x,
        .returnFromScript, .pushConstant 7, .animate .moveNow ⟨0⟩ .y, .returnFromScript] }
  checked := by decide +kernel

def glide : List Operation := [.spawn gliding, .runScript 1 "Main" []]

def sway : List Operation := [.runScript 1 "Sway" []]

theorem gliding_undisturbed :
    ((create {}).after glide).Undisturbed 1 1 ⟨0⟩ .x (sway ++ [.tick]) where
  behind other x executed later :=
    quiet_of_machines (1 < ·) (by decide +kernel) executed later
  between other x executed := by
    change x ∈ ((create {}).after (glide ++ .tick :: sway)).executionsIn 1 other .tick ++ []
      at executed
    rw [List.append_nil] at executed
    exact quiet_of_machines (fun _ => True) (by decide +kernel) executed trivial
  before other x executed earlier :=
    quiet_of_machines (· < 1) (by decide +kernel) executed earlier

theorem gliding_awaited :
    ((create {}).after glide).Lists 1 TickReport.blocked 1 ∧
      (¬((create {}).after (glide ++ .tick :: sway)).Lists 1 TickReport.ran 1 ∧
        ((create {}).after (glide ++ .tick :: sway)).Lists 1 TickReport.blocked 1) ∧
      ((create {}).after (glide ++ .tick :: sway ++ [.tick])).Lists 1 TickReport.ran 1 ∧
      ∃ t, ((create {}).after (glide ++ .tick :: sway ++ [.tick])).threadAtTurn 1 1 = some t ∧
        t.ip = 4 := by
  have last : (((create {}).after glide).executionsIn 1 1 .tick).getLast?.map (fun x =>
      (x.instr, (Host.pieces x.machine.host).slide? ⟨0⟩ .x, x.machine.thread.ip,
        decide (((create {}).after glide).Ended 1 x.after []),
        decide (((create {}).after glide).Ended 1 x.after (sway ++ [.tick])),
        decide (Deed.Strike
          (((create {}).after (glide ++ .tick :: sway ++ [.tick])).deedsBefore 1 1) x.after))) =
      some (.waitFor .move ⟨0⟩ .x, some ⟨0, some ⟨5, 3⟩⟩, 3, false, false, false) := by
    decide +kernel
  obtain ⟨x, last, facts⟩ := Option.map_eq_some_iff.mp last
  simp only [Prod.mk.injEq, decide_eq_false_iff_not] at facts
  obtain ⟨waits, found, ip, unhurt, spared, unharmed⟩ := facts
  obtain ⟨after, same, awaits⟩ := moves_awaited {} glide (sway ++ [.tick, .tick]) (by decide)
    (by decide +kernel) (List.mem_of_getLast? last) waits found rfl
  have blocked := awaits.stops
  have held := awaits.waits sway [.tick] rfl (by decide +kernel)
  have goes := awaits.resumes (sway ++ [.tick]) [] rfl (by decide +kernel)
  rw [same] at blocked held goes
  obtain ⟨idle, still⟩ := held gliding_undisturbed.of_append
  obtain ⟨ran, turned⟩ := goes gliding_undisturbed
  have runs := ran.mpr ⟨spared, unharmed⟩
  refine ⟨blocked.mpr unhurt, ⟨idle, still.mpr spared⟩, runs, x.after, (turned runs).1, ?_⟩
  rw [after, ip]

end World

end UnitScript
