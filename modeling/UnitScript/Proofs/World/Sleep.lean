import UnitScript.Proofs.Tick.Sleep
import UnitScript.Proofs.World.Identifiers

namespace UnitScript

namespace TickState

open Environment

variable {σ : Type} [Host σ] {config : Config} {now : Tick} {e : Environment} {count : Nat}
  {host : σ} {id : ThreadId} {x : Execution σ}

theorem of_mem_executions (h : e.Filed count)
    (room : Deed.Numbered count (tickDeeds config now e host))
    (member : x ∈ executions config now id e.threadIds { environment := e, host }) :
    id ∈ e.threadIds ∧ ∃ m, m.thread.id = id ∧
      (atTurn config now e host id).dispatch? now id = some m ∧
      x ∈ m.trace config now config.runtime.maxInstructionsPerRun := by
  obtain ⟨m, running, traced⟩ := List.mem_flatMap.mp member
  obtain ⟨running, named⟩ := List.mem_filter.mp running
  obtain ⟨before, turned, after, split, dispatched⟩ := mem_machines_iff.mp running
  have named : m.thread.id = id := of_decide_eq_true named
  have same := (id_of_dispatch? (h.foldl_turn split room).filed dispatched).symm.trans named
  subst same
  rw [atTurn, earlier_eq split]
  exact ⟨by simp [split], m, named, dispatched, traced⟩

theorem thread?_turn_of_blocked {reason : BlockReason} (h : e.Filed count)
    (room : Deed.Numbered count (tickDeeds config now e host))
    (member : x ∈ executions config now id e.threadIds { environment := e, host })
    (stop : x.step.stop = some (.blocked reason)) :
    x.after.id = id ∧
      ((atTurn config now e host id).turn config now id).environment.thread? id =
        some x.after := by
  obtain ⟨old, m, named, dispatched, traced⟩ := of_mem_executions h room member
  obtain ⟨status, thread⟩ := Machine.run_of_stop traced stop
  have restored := (orderly_foldl_turn h room (threadIds_split old)).restored m dispatched
  rw [status, thread, List.foldl_append] at restored
  refine ⟨?_, restored⟩
  rw [← thread, Machine.id_run, named]

end TickState

namespace World

open Environment

variable {config : Config} {w : World} {u : UnitId} {unit : UnitState} {g : Gathered}
  {id : ThreadId} {t : Thread} {part : TickReport → Array ThreadId} {op : Operation}
  {ops : List Operation} {l : Ledger} {count k : Nat} {deadline : Tick}

def threadAtTurn (w : World) (u : UnitId) (id : ThreadId) : Option Thread :=
  (w.turns.filter (·.1 = u)).head?.bind fun (u, unit, g) =>
    (TickState.atTurn w.config w.now unit.environment
      (hostOf w.config w.now u unit g) id).environment.thread? id

def hostAtTurn (w : World) (u : UnitId) (id : ThreadId) : Option UnitHost :=
  (w.turns.filter (·.1 = u)).head?.map fun (u, unit, g) =>
    (TickState.atTurn w.config w.now unit.environment (hostOf w.config w.now u unit g) id).host

def Held (w : World) (u : UnitId) (t : Thread) : Prop :=
  w.threadOf u t.id = some t → ∀ host, w.hostAtTurn u t.id = some host →
    TickState.isDue host w.now t = false

def Due (w : World) (u : UnitId) (t : Thread) : Prop :=
  w.threadOf u t.id = some t → ∀ host, w.hostAtTurn u t.id = some host →
    TickState.isDue host w.now t = true

def HeldThrough (w : World) (u : UnitId) (t : Thread) (ops : List Operation) : Prop :=
  ∀ before later, ops = before ++ .tick :: later → (w.after before).Held u t

theorem HeldThrough.concat (h : w.HeldThrough u t ops) (last : (w.after ops).Held u t) :
    w.HeldThrough u t (ops ++ [.tick]) := by
  intro before later split
  obtain rfl | ⟨later, op, rfl⟩ := later.eq_nil_or_concat
  · obtain ⟨rfl, -⟩ := List.append_inj' split rfl
    exact last
  · rw [List.concat_eq_append, ← List.cons_append, ← List.append_assoc] at split
    exact h before later (List.append_inj' split rfl).1

def deedsBefore (w : World) (u : UnitId) (id : ThreadId) : List Deed :=
  (w.turns.filter (·.1 = u)).flatMap fun (u, unit, g) =>
    TickState.deedsBefore w.config w.now unit.environment (hostOf w.config w.now u unit g) id

def deedsBehind (w : World) (u : UnitId) (id : ThreadId) : List Deed :=
  (w.turns.filter (·.1 = u)).flatMap fun (u, unit, g) =>
    TickState.deedsBehind w.config w.now unit.environment (hostOf w.config w.now u unit g) id

def Lists (w : World) (u : UnitId) (part : TickReport → Array ThreadId) (id : ThreadId) : Prop :=
  ∃ report, (u, report) ∈ w.tick.1 ∧ id ∈ part report

section Turn

variable (turn : (u, unit, g) ∈ w.turns)

include turn

theorem threadOf_of_turn : w.threadOf u id = unit.environment.thread? id := by
  rw [threadOf, Table.getElem?_of_mem_visits turn, Option.bind_some]

theorem threadOf_tick :
    w.tick.2.threadOf u id = (runTick w.config w.now unit.environment
      (hostOf w.config w.now u unit g)).environment.thread? id := by
  rw [threadOf, units_tick_iff.mpr ⟨unit, g, turn, rfl⟩, tickUnit_eq, Option.bind_some]

theorem threadAtTurn_eq :
    w.threadAtTurn u id = (TickState.atTurn w.config w.now unit.environment
      (hostOf w.config w.now u unit g) id).environment.thread? id := by
  rw [threadAtTurn, filter_turns turn, List.head?_cons, Option.bind_some]

theorem hostAtTurn_eq :
    w.hostAtTurn u id = some (TickState.atTurn w.config w.now unit.environment
      (hostOf w.config w.now u unit g) id).host := by
  rw [hostAtTurn, filter_turns turn, List.head?_cons, Option.map_some]

theorem deedsBefore_eq :
    w.deedsBefore u id = TickState.deedsBefore w.config w.now unit.environment
      (hostOf w.config w.now u unit g) id := by
  rw [deedsBefore, filter_turns turn, List.flatMap_singleton]

theorem deedsBehind_eq :
    w.deedsBehind u id = TickState.deedsBehind w.config w.now unit.environment
      (hostOf w.config w.now u unit g) id := by
  rw [deedsBehind, filter_turns turn, List.flatMap_singleton]

theorem lists_iff :
    w.Lists u part id ↔ id ∈ part (runTick w.config w.now unit.environment
      (hostOf w.config w.now u unit g)).report := by
  have only := filter_reports_tick turn
  constructor
  · rintro ⟨report, reported, listed⟩
    have member : (u, report) ∈ w.tick.1.filter (·.1 = u) :=
      List.mem_filter.mpr ⟨reported, decide_eq_true rfl⟩
    rw [only, List.mem_singleton] at member
    cases member
    exact listed
  · intro listed
    have member := List.mem_singleton.mpr (rfl : (u, _) = (u, (runTick w.config w.now
      unit.environment (hostOf w.config w.now u unit g)).report))
    rw [← only] at member
    exact ⟨_, List.mem_of_mem_filter member, listed⟩

end Turn

theorem Tracks.turn (h : w.Tracks u id count l) (live : w.units[u]? = some unit)
    (room : (w.post u l .tick).started.length < UInt64.size - 1) :
    ∃ g, (u, unit, g) ∈ w.turns ∧ unit.environment.Filed l.started.length ∧
      Deed.Numbered l.started.length
        (tickDeeds w.config w.now unit.environment (hostOf w.config w.now u unit g)) := by
  obtain ⟨g, turn⟩ := exists_turn live
  have room := numbered_of_turn turn room
  exact ⟨g, turn, (h.balances unit live room.lt).filed, room⟩

theorem not_lists_of_missing (missing : w.units[u]? = none) : ¬w.Lists u part id := by
  rintro ⟨report, reported, -⟩
  rw [reports_tick] at reported
  obtain ⟨⟨u, unit, g⟩, turn, same⟩ := List.mem_map.mp reported
  cases same
  rw [Table.getElem?_of_mem_visits turn] at missing
  cases missing

theorem Tracks.not_lists_ran (h : w.Tracks u id count l)
    (room : (w.post u l .tick).started.length < UInt64.size - 1)
    (gone : w.threadOf u id = none) : ¬w.Lists u TickReport.ran id := by
  cases live : w.units[u]? with
  | none => exact not_lists_of_missing live
  | some unit =>
    obtain ⟨g, turn, filed, room⟩ := h.turn live room
    rw [lists_iff turn, TickState.mem_ran_runTick filed room]
    rintro ⟨-, -, -, member⟩
    obtain ⟨t, found⟩ := mem_threadIds.mp member
    rw [threadOf_of_turn turn, found] at gone
    cases gone

theorem Tracks.lists_blocked_iff (h : w.Tracks u id count l)
    (room : (w.post u l .tick).started.length < UInt64.size - 1) :
    w.Lists u TickReport.blocked id ↔
      ∃ t reason, w.tick.2.threadOf u id = some t ∧ t.state = .blocked reason := by
  cases live : w.units[u]? with
  | none =>
    refine iff_of_false (not_lists_of_missing live) ?_
    simp [threadOf, units_tick_of_missing live]
  | some unit =>
    have life := h.life_tick live room
    obtain ⟨g, turn, filed, room⟩ := h.turn live room
    rw [lists_iff turn, TickState.mem_blocked_runTick filed room, ← threadOf_tick turn]
    refine and_iff_right_of_imp ?_
    rintro ⟨t, reason, found, -⟩
    rw [mem_threadIds, ← Option.ne_none_iff_exists', ← threadOf_of_turn turn]
    intro gone
    rw [gone] at life
    rw [life.eq_none] at found
    cases found

theorem Tracks.lists_blocked_iff_not (h : w.Tracks u t.id count l)
    (room : (w.post u l .tick).started.length < UInt64.size - 1)
    {reason : BlockReason} (state : t.state = .blocked reason) {ended : Prop}
    (still : w.tick.2.threadOf u t.id = some t ∧ ¬ended ∨
      w.tick.2.threadOf u t.id = none ∧ ended) :
    w.Lists u TickReport.blocked t.id ↔ ¬ended := by
  rw [h.lists_blocked_iff room]
  obtain ⟨found, spared⟩ | ⟨gone, ended⟩ := still
  · exact iff_of_true ⟨t, _, found, state⟩ spared
  · simp [gone, ended]

/-- An operation is the end of a thread that waits: its unit is destroyed, or it hears a signal. -/
def Strikes (w : World) (u : UnitId) (t : Thread) : Operation → Prop
  | .destroy unit => unit = u
  | .sendSignal unit signal => unit = u ∧ t.mask &&& signal ≠ 0
  | .tick => Deed.Strike (w.deedsBefore u t.id ++ w.deedsBehind u t.id) t
  | .spawn _ | .runScript _ _ _ | .drainEffects => False

def Struck (u : UnitId) (t : Thread) : World → List Operation → Prop
  | _, [] => False
  | w, op :: rest => w.Strikes u t op ∨ Struck u t (w.apply op).2 rest

instance decidableStrikes (w : World) (u : UnitId) (t : Thread) :
    ∀ op, Decidable (w.Strikes u t op)
  | .destroy unit => inferInstanceAs (Decidable (unit = u))
  | .sendSignal unit signal => inferInstanceAs (Decidable (unit = u ∧ t.mask &&& signal ≠ 0))
  | .tick =>
    inferInstanceAs (Decidable (Deed.Strike (w.deedsBefore u t.id ++ w.deedsBehind u t.id) t))
  | .spawn _ | .runScript _ _ _ | .drainEffects => .isFalse not_false

instance decidableStruck (u : UnitId) (t : Thread) : ∀ w ops, Decidable (Struck u t w ops)
  | _, [] => .isFalse not_false
  | w, op :: rest =>
    have := decidableStruck u t (w.apply op).2 rest
    inferInstanceAs (Decidable (_ ∨ _))

def ticks (ops : List Operation) : Nat := ops.count .tick

theorem not_strikes_of_not_concerns (other : op.concerns u = false) : ¬w.Strikes u t op := by
  cases op with
  | destroy unit => simpa [Strikes, Operation.concerns] using other
  | sendSignal unit signal =>
    have elsewhere : unit ≠ u := by simpa [Operation.concerns] using other
    exact fun strikes => elsewhere strikes.1
  | tick => cases other
  | _ => exact id

theorem unit_of_live (live : w.units[u]? = some unit) : w.unit u = .ok unit := by
  rw [World.unit, live]

theorem apply_destroy_of_live (live : w.units[u]? = some unit) :
    (w.apply (.destroy u)).2 = { w with units := w.units.erase u } := by
  rw [apply, destroy, unit_of_live live]
  rfl

theorem apply_sendSignal_of_live (live : w.units[u]? = some unit) (signal : UInt32) :
    (w.apply (.sendSignal u signal)).2 =
      { w with
        units := w.units.insert u
          { unit with environment := unit.environment.sendSignal signal } } := by
  rw [apply, sendSignal, unit_of_live live]
  rfl

theorem Tracks.tick_of_held (h : w.Tracks u t.id count l)
    (room : (w.post u l .tick).started.length < UInt64.size - 1)
    (found : w.threadOf u t.id = some t) (held : w.Held u t) :
    ¬w.Lists u TickReport.ran t.id ∧
      (w.tick.2.threadOf u t.id = some t ∧ ¬w.Strikes u t .tick ∨
        w.tick.2.threadOf u t.id = none ∧ w.Strikes u t .tick) := by
  have held := held found
  obtain ⟨unit, live, found⟩ := Option.bind_eq_some_iff.mp found
  obtain ⟨g, turn, filed, room⟩ := h.turn live room
  have held := held _ (hostAtTurn_eq turn)
  rw [lists_iff turn, Strikes, threadOf_tick turn, deedsBefore_eq turn, deedsBehind_eq turn]
  exact ⟨TickState.not_mem_ran_of_held filed room found held,
    TickState.thread?_runTick_of_held filed room found held⟩

theorem Tracks.tick_of_due (h : w.Tracks u t.id count l)
    (room : (w.post u l .tick).started.length < UInt64.size - 1)
    (found : w.threadOf u t.id = some t) (due : w.Due u t) :
    w.threadAtTurn u t.id = some t ∧ w.Lists u TickReport.ran t.id ∧
        ¬Deed.Strike (w.deedsBefore u t.id) t ∨
      w.threadAtTurn u t.id = none ∧ ¬w.Lists u TickReport.ran t.id ∧
        Deed.Strike (w.deedsBefore u t.id) t := by
  have due := due found
  obtain ⟨unit, live, found⟩ := Option.bind_eq_some_iff.mp found
  obtain ⟨g, turn, filed, room⟩ := h.turn live room
  rw [lists_iff turn, threadAtTurn_eq turn, deedsBefore_eq turn]
  exact TickState.wakes_of_due filed room found (due _ (hostAtTurn_eq turn))

theorem Tracks.apply_of_held (h : w.Tracks u t.id count l)
    (room : (w.post u l op).started.length < UInt64.size - 1)
    (found : w.threadOf u t.id = some t) (held : op = .tick → w.Held u t) :
    (w.apply op).2.threadOf u t.id = some t ∧ ¬w.Strikes u t op ∨
      (w.apply op).2.threadOf u t.id = none ∧ w.Strikes u t op := by
  by_cases about : op.concerns u = true
  · obtain ⟨unit, live, there⟩ := Option.bind_eq_some_iff.mp found
    cases op with
    | spawn module => cases about
    | destroy other =>
      cases of_decide_eq_true about
      refine .inr ⟨?_, rfl⟩
      rw [apply_destroy_of_live live]
      simp [threadOf]
    | runScript other name args =>
      refine .inl ⟨?_, id⟩
      cases of_decide_eq_true about
      have filed := (h.balances unit live (Nat.lt_of_le_of_lt
        (length_started_post h.ne_nextUnit _ l) room)).filed
      simp only [World.apply]
      split
      · next ran =>
        obtain ⟨unit', environment, live', started, rfl⟩ := runScript_eq_ok ran
        cases live.symm.trans live'
        simp only [threadOf, Std.ExtTreeMap.getElem?_insert_self, Option.bind_some,
          filed.thread?_startScript h.known started, there]
      · exact found
    | sendSignal other signal =>
      cases of_decide_eq_true about
      simp only [apply_sendSignal_of_live live, threadOf, Std.ExtTreeMap.getElem?_insert_self,
        Option.bind_some, thread?_sendSignal, there, Option.filter_some]
      by_cases heard : t.mask &&& signal = 0
      · simp [Strikes, Thread.intercepts, heard]
      · simp [Strikes, Thread.intercepts, heard]
    | tick => exact (h.tick_of_held room found (held rfl)).2
    | drainEffects => cases about
  · have other := Bool.eq_false_iff.mpr about
    refine .inl ⟨?_, not_strikes_of_not_concerns other⟩
    rw [threadOf, units_apply_of_not_concerns h.ne_nextUnit other]
    exact found

theorem Tracks.after (h : w.Tracks u id count l) (ops : List Operation)
    (units : count + spawns ops < UInt32.size - 1) :
    (w.after ops).Tracks u id (count + spawns ops) (ledger u w ops l) := by
  induction ops generalizing w count l with
  | nil => exact h
  | cons op rest ih =>
    rw [spawns_cons, ← Nat.add_assoc] at units ⊢
    exact ih (h.apply op (Nat.lt_of_le_of_lt (Nat.le_add_right ..) units)) units

theorem Numbered.room_of_append (h : w.Numbered count) (old : u.toNat ≤ count)
    (ops later : List Operation) (units : count + spawns (ops ++ later) < UInt32.size - 1)
    (threads : (ledger u w (ops ++ later) l).started.length < UInt64.size - 1) :
    count + spawns ops < UInt32.size - 1 ∧
      (ledger u w ops l).started.length < UInt64.size - 1 := by
  rw [spawns_append, ← Nat.add_assoc] at units
  have few := Nat.lt_of_le_of_lt (Nat.le_add_right ..) units
  have grows := length_started_ledger (h.after ops few) (Nat.le_trans old (Nat.le_add_right ..))
    later units (ledger u w ops l)
  rw [ledger_append] at threads
  exact ⟨few, Nat.lt_of_le_of_lt grows threads⟩

theorem Tracks.gone_after (h : w.Tracks u id count l)
    (units : count + spawns ops < UInt32.size - 1)
    (threads : (ledger u w ops l).started.length < UInt64.size - 1)
    (gone : w.threadOf u id = none) : (w.after ops).threadOf u id = none := by
  cases live : w.units[u]? with
  | none =>
    rw [threadOf, h.numbered.units_after_of_missing h.old live units, Option.bind_none]
  | some unit =>
    have same : ∀ unit', w.units[u]? = some unit' →
        unit'.environment.module = unit.environment.module := by
      simp [live]
    have life := h.life_after ops same units threads
    rw [gone] at life
    exact life.eq_none

theorem ticks_append (ops ops' : List Operation) : ticks (ops ++ ops') = ticks ops + ticks ops' :=
  List.count_append

theorem ticks_cons (op : Operation) (ops : List Operation) :
    ticks (op :: ops) = ticks [op] + ticks ops :=
  ticks_append [op] ops

theorem ticks_of_ne (other : op ≠ .tick) : ticks [op] = 0 := by
  rw [ticks, List.count_singleton, if_neg (by simpa using other)]

theorem toNat_now_apply (w : World) (op : Operation)
    (room : w.now.toNat + ticks [op] < UInt64.size) :
    (w.apply op).2.now.toNat = w.now.toNat + ticks [op] := by
  by_cases tick : op = .tick
  · subst tick
    change (w.now + 1).toNat = _
    rw [UInt64.toNat_add]
    exact Nat.mod_eq_of_lt room
  · rw [now_apply tick, ticks_of_ne tick, Nat.add_zero]

theorem toNat_now_after (w : World) (ops : List Operation)
    (room : w.now.toNat + ticks ops < UInt64.size) :
    (w.after ops).now.toNat = w.now.toNat + ticks ops := by
  induction ops generalizing w with
  | nil => rfl
  | cons op rest ih =>
    rw [ticks_cons, ← Nat.add_assoc] at room ⊢
    have next := toNat_now_apply w op (Nat.lt_of_le_of_lt (Nat.le_add_right ..) room)
    rw [← next] at room ⊢
    exact ih _ room

theorem toNat_now_since (w : World) (ops : List Operation)
    (room : w.now.toNat + 1 + ticks ops < UInt64.size) :
    (w.tick.2.after ops).now.toNat = w.now.toNat + 1 + ticks ops := by
  have later := toNat_now_after w (.tick :: ops)
  rw [ticks_cons, ← Nat.add_assoc] at later
  exact later room

theorem Tracks.still_after (h : w.Tracks u t.id count l)
    (units : count + spawns ops < UInt32.size - 1)
    (threads : (ledger u w ops l).started.length < UInt64.size - 1)
    (found : w.threadOf u t.id = some t) (held : w.HeldThrough u t ops) :
    (w.after ops).threadOf u t.id = some t ∧ ¬Struck u t w ops ∨
      (w.after ops).threadOf u t.id = none ∧ Struck u t w ops := by
  induction ops generalizing w count l with
  | nil => exact .inl ⟨found, id⟩
  | cons op rest ih =>
    obtain ⟨few, room⟩ := h.numbered.room_of_append h.old [op] rest units threads
    have tracks := h.apply op few
    rw [spawns_cons, ← Nat.add_assoc] at units
    have now : op = .tick → w.Held u t := by
      rintro rfl
      exact held [] rest rfl
    obtain ⟨still, spared⟩ | ⟨gone, strikes⟩ := h.apply_of_held room found now
    · have later : (w.apply op).2.HeldThrough u t rest :=
        fun before later split => held (op :: before) later (congrArg (op :: ·) split)
      rw [Struck, or_iff_right spared]
      exact ih tracks units threads still later
    -- What comes after the end of the thread does not matter: its id is not given out again.
    · exact .inr ⟨tracks.gone_after units threads gone, .inl strikes⟩

/-- Something has ended a thread that began to wait in a tick: a signal that was still sent in that
tick, or one of the operations since. -/
def Ended (w : World) (u : UnitId) (t : Thread) (since : List Operation) : Prop :=
  Deed.Strike (w.deedsBehind u t.id) t ∨ Struck u t w.tick.2 since

instance (w : World) (u : UnitId) (t : Thread) (since : List Operation) :
    Decidable (w.Ended u t since) :=
  inferInstanceAs (Decidable (_ ∨ _))

/-- A thread that falls asleep in a tick of the world sleeps for `k` ticks, whatever is asked of the
world from then on. -/
structure Sleeps (w : World) (u : UnitId) (t : Thread) (k : Nat) (rest : List Operation) :
    Prop where
  still : ∀ since later, rest = since ++ later → ticks since < k →
    (w.tick.2.after since).threadOf u t.id = some t ∧ ¬w.Ended u t since ∨
      (w.tick.2.after since).threadOf u t.id = none ∧ w.Ended u t since
  liesDown : w.Lists u TickReport.blocked t.id ↔ ¬w.Ended u t []
  sleeps : ∀ since later, rest = since ++ .tick :: later → ticks since + 1 < k →
    ¬(w.tick.2.after since).Lists u TickReport.ran t.id ∧
      ((w.tick.2.after since).Lists u TickReport.blocked t.id ↔ ¬w.Ended u t (since ++ [.tick]))
  wakes : ∀ since later, rest = since ++ .tick :: later → ticks since + 1 = k →
    ((w.tick.2.after since).Lists u TickReport.ran t.id ↔
      ¬w.Ended u t since ∧ ¬Deed.Strike ((w.tick.2.after since).deedsBefore u t.id) t) ∧
    ((w.tick.2.after since).Lists u TickReport.ran t.id →
      (w.tick.2.after since).threadAtTurn u t.id = some t)

section Waiting

variable {rest since later : List Operation} (h : w.Tracks u t.id count l)
  (units : count + spawns (.tick :: rest) < UInt32.size - 1)
  (threads : (ledger u w (.tick :: rest) l).started.length < UInt64.size - 1)

include h units threads

theorem Tracks.tracks_since (split : rest = since ++ .tick :: later) :
    ∃ count' l', (w.tick.2.after since).Tracks u t.id count' l' ∧
      ((w.tick.2.after since).post u l' .tick).started.length < UInt64.size - 1 := by
  rw [split, List.append_cons] at units threads
  obtain ⟨units, threads⟩ :=
    h.numbered.room_of_append h.old (.tick :: (since ++ [Operation.tick])) later units threads
  obtain ⟨few, -⟩ := h.numbered.room_of_append h.old (.tick :: since) [.tick] units threads
  rw [← List.cons_append, ledger_append] at threads
  exact ⟨_, _, h.after (.tick :: since) few, threads⟩

variable
  (waits : w.tick.2.threadOf u t.id = some t ∧ ¬Deed.Strike (w.deedsBehind u t.id) t ∨
    w.tick.2.threadOf u t.id = none ∧ Deed.Strike (w.deedsBehind u t.id) t)

include waits

theorem Tracks.still_since (split : rest = since ++ later)
    (held : w.tick.2.HeldThrough u t since) :
    (w.tick.2.after since).threadOf u t.id = some t ∧ ¬w.Ended u t since ∨
      (w.tick.2.after since).threadOf u t.id = none ∧ w.Ended u t since := by
  subst split
  obtain ⟨units, threads⟩ :=
    h.numbered.room_of_append h.old (.tick :: since) later units threads
  have tracks := h.apply .tick (Nat.lt_of_le_of_lt (Nat.le_add_right ..) units)
  obtain ⟨found, spared⟩ | ⟨gone, strike⟩ := waits
  · rw [Ended, or_iff_right spared]
    exact tracks.still_after units threads found held
  · exact .inr ⟨tracks.gone_after units threads gone, .inl strike⟩

theorem Tracks.held_since {reason : BlockReason} (state : t.state = .blocked reason)
    (split : rest = since ++ .tick :: later) (held : w.tick.2.HeldThrough u t since)
    (last : (w.tick.2.after since).Held u t) :
    ¬(w.tick.2.after since).Lists u TickReport.ran t.id ∧
      ((w.tick.2.after since).Lists u TickReport.blocked t.id ↔
        ¬w.Ended u t (since ++ [.tick])) := by
  obtain ⟨count', l', tracks, room⟩ := h.tracks_since units threads split
  constructor
  · obtain ⟨found, -⟩ | ⟨gone, -⟩ := h.still_since units threads waits split held
    · exact (tracks.tick_of_held room found last).1
    · exact tracks.not_lists_ran room gone
  · rw [List.append_cons] at split
    have still := h.still_since units threads waits split (held.concat last)
    rw [after_append] at still
    exact tracks.lists_blocked_iff_not room state still

theorem Tracks.wakes_since (split : rest = since ++ .tick :: later)
    (held : w.tick.2.HeldThrough u t since) (due : (w.tick.2.after since).Due u t) :
    ((w.tick.2.after since).Lists u TickReport.ran t.id ↔
      ¬w.Ended u t since ∧ ¬Deed.Strike ((w.tick.2.after since).deedsBefore u t.id) t) ∧
    ((w.tick.2.after since).Lists u TickReport.ran t.id →
      (w.tick.2.after since).threadAtTurn u t.id = some t) := by
  obtain ⟨count', l', tracks, room⟩ := h.tracks_since units threads split
  obtain ⟨found, spared⟩ | ⟨gone, ended⟩ := h.still_since units threads waits split held
  · obtain ⟨turn, ran, unharmed⟩ | ⟨-, never, strike⟩ := tracks.tick_of_due room found due
    · exact ⟨iff_of_true ran ⟨spared, unharmed⟩, fun _ => turn⟩
    · simp [never, strike]
  · have never := tracks.not_lists_ran room gone
    simp [never, ended]

theorem Tracks.lies_down {reason : BlockReason} (state : t.state = .blocked reason) :
    w.Lists u TickReport.blocked t.id ↔ ¬w.Ended u t [] := by
  have room := (h.numbered.room_of_append h.old [.tick] rest units threads).2
  have split : rest = [] ++ rest := rfl
  exact h.lists_blocked_iff_not room state
    (h.still_since units threads waits split fun before _ nothing => by simp at nothing)

end Waiting

section Asleep

variable {since : List Operation} (state : t.state = .blocked (.sleep deadline))
  (time : deadline.toNat = w.now.toNat + k)

include state time

theorem held_of_asleep (early : ticks since + 1 < k) : (w.tick.2.after since).Held u t := by
  intro _ host _
  have below := deadline.toNat_lt_size
  have now := toNat_now_since w since (by omega)
  rw [TickState.isDue_of_asleep state, decide_eq_false_iff_not, UInt64.le_iff_toNat_le]
  omega

theorem heldThrough_of_asleep (early : ticks since < k) : w.tick.2.HeldThrough u t since := by
  intro before later split
  refine held_of_asleep state time ?_
  have one : ticks [.tick] = 1 := rfl
  rw [split, ticks_append, ticks_cons] at early
  omega

theorem due_of_asleep (late : ticks since + 1 = k) : (w.tick.2.after since).Due u t := by
  intro _ host _
  have below := deadline.toNat_lt_size
  have now := toNat_now_since w since (by omega)
  rw [TickState.isDue_of_asleep state, decide_eq_true_eq, UInt64.le_iff_toNat_le]
  omega

end Asleep

theorem Tracks.sleeps {rest : List Operation} (h : w.Tracks u t.id count l)
    (units : count + spawns (.tick :: rest) < UInt32.size - 1)
    (threads : (ledger u w (.tick :: rest) l).started.length < UInt64.size - 1)
    (asleep : w.tick.2.threadOf u t.id = some t ∧ ¬Deed.Strike (w.deedsBehind u t.id) t ∨
      w.tick.2.threadOf u t.id = none ∧ Deed.Strike (w.deedsBehind u t.id) t)
    (state : t.state = .blocked (.sleep deadline)) (time : deadline.toNat = w.now.toNat + k) :
    Sleeps w u t k rest where
  still _ _ split early :=
    h.still_since units threads asleep split (heldThrough_of_asleep state time early)
  liesDown := h.lies_down units threads asleep state
  sleeps _ _ split early :=
    h.held_since units threads asleep state split
      (heldThrough_of_asleep state time (Nat.lt_of_succ_lt early))
      (held_of_asleep state time early)
  wakes _ _ split late := by
    refine h.wakes_since units threads asleep split (heldThrough_of_asleep state time ?_)
      (due_of_asleep state time late)
    exact Nat.lt_of_succ_le (Nat.le_of_eq late)

theorem turn_of_mem_executionsIn {x : Execution UnitHost} (member : x ∈ w.executionsIn u id .tick) :
    ∃ unit g, (u, unit, g) ∈ w.turns ∧
      x ∈ TickState.executions w.config w.now id unit.environment.threadIds
        { environment := unit.environment, host := hostOf w.config w.now u unit g } := by
  obtain ⟨⟨u', unit, g⟩, own, executed⟩ := List.mem_flatMap.mp member
  obtain ⟨turn, same⟩ := List.mem_filter.mp own
  cases of_decide_eq_true same
  exact ⟨unit, g, turn, executed⟩

theorem lt_deadline_of_asleep (early : w.now.toNat < 2 ^ 63)
    (found : w.tick.2.threadOf u id = some t) (state : t.state = .blocked (.sleep deadline)) :
    w.now < deadline := by
  obtain ⟨unit, live, there⟩ := Option.bind_eq_some_iff.mp found
  obtain ⟨before, g, turn, -⟩ := units_tick_iff.mp live
  rw [threadOf_tick turn] at found
  rw [← UInt64.not_le]
  intro past
  exact TickState.not_overdue_runTick early found ⟨deadline, state, past⟩

theorem comes_to_rest {x : Execution UnitHost} {reason : BlockReason}
    (turn : (u, unit, g) ∈ w.turns) (filed : unit.environment.Filed count)
    (room : Deed.Numbered count
      (tickDeeds w.config w.now unit.environment (hostOf w.config w.now u unit g)))
    (executed : x ∈ TickState.executions w.config w.now id unit.environment.threadIds
      { environment := unit.environment, host := hostOf w.config w.now u unit g })
    (stop : x.step.stop = some (.blocked reason)) :
    x.after.id = id ∧
      (w.tick.2.threadOf u id = some x.after ∧ ¬Deed.Strike (w.deedsBehind u id) x.after ∨
        w.tick.2.threadOf u id = none ∧ Deed.Strike (w.deedsBehind u id) x.after) := by
  have member := (TickState.of_mem_executions filed room executed).1
  obtain ⟨same, turned⟩ := TickState.thread?_turn_of_blocked filed room executed stop
  refine ⟨same, ?_⟩
  rw [threadOf_tick turn, TickState.thread?_runTick filed room member, turned, deedsBehind_eq turn]
  exact Deed.filter_survives_cases ..

theorem falls_asleep {x : Execution UnitHost} {ms : Int32} (turn : (u, unit, g) ∈ w.turns)
    (filed : unit.environment.Filed count)
    (room : Deed.Numbered count
      (tickDeeds w.config w.now unit.environment (hostOf w.config w.now u unit g)))
    (executed : x ∈ TickState.executions w.config w.now id unit.environment.threadIds
      { environment := unit.environment, host := hostOf w.config w.now u unit g })
    (sleeps : x.instr = .sleep) (popped : x.machine.thread.stack.top? = some ms) :
    x.after.id = id ∧ x.after.state = .blocked (.sleep (w.now + w.config.runtime.sleepTicks ms)) ∧
      (w.tick.2.threadOf u id = some x.after ∧ ¬Deed.Strike (w.deedsBehind u id) x.after ∨
        w.tick.2.threadOf u id = none ∧ Deed.Strike (w.deedsBehind u id) x.after) := by
  obtain ⟨-, m, -, -, traced⟩ := TickState.of_mem_executions filed room executed
  obtain ⟨stop, state⟩ := (Machine.genuine_of_mem_trace traced).sleep sleeps popped
  obtain ⟨same, asleep⟩ := comes_to_rest turn filed room executed stop
  exact ⟨same, state, asleep⟩

theorem tracks_of_mem_executionsIn {history rest : List Operation} {x : Execution UnitHost}
    (units : spawns (history ++ .tick :: rest) < UInt32.size - 1)
    (threads :
      (ledger u (create config) (history ++ .tick :: rest) {}).started.length < UInt64.size - 1)
    (member : x ∈ ((create config).after history).executionsIn u id .tick) :
    ∃ unit g count l, ((create config).after history).Tracks u id count l ∧
      count + spawns (.tick :: rest) < UInt32.size - 1 ∧
      (ledger u ((create config).after history) (.tick :: rest) l).started.length <
        UInt64.size - 1 ∧
      (u, unit, g) ∈ ((create config).after history).turns ∧
      unit.environment.Filed l.started.length ∧
      Deed.Numbered l.started.length
        (tickDeeds ((create config).after history).config ((create config).after history).now
          unit.environment (hostOf ((create config).after history).config
            ((create config).after history).now u unit g)) ∧
      x ∈ TickState.executions ((create config).after history).config
        ((create config).after history).now id unit.environment.threadIds
        { environment := unit.environment
          host := hostOf ((create config).after history).config
            ((create config).after history).now u unit g } := by
  rw [spawns_append] at units
  rw [ledger_append] at threads
  have numbered := numbered_after config (Nat.lt_of_le_of_lt (Nat.le_add_right ..) units)
  have balances := (balances_create config u).ledger history
  obtain ⟨unit, g, turn, executed⟩ := turn_of_mem_executionsIn member
  have live := Table.getElem?_of_mem_visits turn
  have old := numbered.toNat_le live
  have room := numbered_of_turn turn
    (numbered.room_of_append old [.tick] rest units threads).2
  have filed := (balances unit live room.lt).filed
  have there := (TickState.of_mem_executions filed room executed).1
  exact ⟨unit, g, _, _, ⟨numbered, balances, old, filed.toNat_le there⟩, units, threads, turn,
    filed, room, executed⟩

/-- A thread that goes to sleep wakes in the right tick: sleep lasts for the least number of ticks
that cover it, and so after a tick nobody is asleep whose time is up. -/
theorem sleepers_wake (config : Config) (history : List Operation)
    (early : ((create config).after history).now.toNat < 2 ^ 63) :
    (∀ u id t deadline, ((create config).after history).tick.2.threadOf u id = some t →
      t.state = .blocked (.sleep deadline) → ((create config).after history).now < deadline) ∧
    ∀ rest u id x ms k,
      spawns (history ++ .tick :: rest) < UInt32.size - 1 →
      (ledger u (create config) (history ++ .tick :: rest) {}).started.length < UInt64.size - 1 →
      x ∈ ((create config).after history).executionsIn u id .tick → x.instr = .sleep →
      x.machine.thread.stack.top? = some ms → IsLeast { k | config.runtime.Covers ms k } k →
        x.after.id = id ∧ Sleeps ((create config).after history) u x.after k rest := by
  refine ⟨fun u id t deadline => lt_deadline_of_asleep early, ?_⟩
  intro rest u id x ms k units threads member sleeps popped least
  obtain ⟨unit, g, count, l, tracks, units, threads, turn, filed, room, executed⟩ :=
    tracks_of_mem_executionsIn units threads member
  obtain ⟨same, state, asleep⟩ := falls_asleep turn filed room executed sleeps popped
  refine ⟨same, ?_⟩
  subst same
  have long := config.runtime.isLeast_sleepTicks ms
  rw [config_after] at state
  cases least.unique long
  have time := config.runtime.toNat_add_sleepTicks ms early
  exact tracks.sleeps units threads asleep state time

def unrest : List Operation :=
  [.tick, .runScript 1 "Main" [], .tick, .sendSignal 1 1, .tick, .spawn napping]

theorem napping_wakes :
    ∃ t, ((create {}).after (nap ++ unrest)).threadOf 1 1 = some t ∧
      ((create {}).after (nap ++ unrest)).threadAtTurn 1 1 = some t ∧
      ((create {}).after (nap ++ unrest)).Lists 1 TickReport.ran 1 ∧
      ¬((create {}).after nap).Lists 1 TickReport.ran 1 := by
  have wakes := (sleepers_wake {} [.spawn napping, .runScript 1 "Main" []] (by decide +kernel)).2
  have last : (((create {}).after [.spawn napping, .runScript 1 "Main" []]).executionsIn 1 1
      .tick).getLast?.map (fun x => (x.instr, x.machine.thread.stack.top?,
        decide (((create {}).after [.spawn napping, .runScript 1 "Main" []]).Ended 1 x.after
          unrest),
        decide (Deed.Strike (((create {}).after (nap ++ unrest)).deedsBefore 1 1) x.after))) =
      some (.sleep, some 100, false, false) := by
    decide +kernel
  obtain ⟨x, last, facts⟩ := Option.map_eq_some_iff.mp last
  simp only [Prod.mk.injEq, decide_eq_false_iff_not] at facts
  obtain ⟨sleeps, popped, spared, unharmed⟩ := facts
  have least : IsLeast { k | RuntimeConfig.Covers {} 100 k } 4 :=
    RuntimeConfig.isLeast_sleepTicks {} 100
  obtain ⟨same, asleep⟩ := wakes (unrest ++ [.tick]) 1 1 x 100 4 (by decide) (by decide +kernel)
    (List.mem_of_getLast? last) sleeps popped least
  have awake := asleep.wakes unrest [] rfl rfl
  have still := asleep.still unrest [.tick] rfl (by decide)
  have first := (asleep.sleeps [] _ rfl (by decide)).1
  rw [same] at awake still first
  have ran := awake.1.mpr ⟨spared, unharmed⟩
  exact ⟨x.after, (still.resolve_right fun ended => spared ended.2).1, awake.2 ran, ran, first⟩

end World

end UnitScript
