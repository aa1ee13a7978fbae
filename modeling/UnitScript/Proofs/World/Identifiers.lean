import UnitScript.Proofs.World.Calls
import UnitScript.Proofs.World.History

namespace UnitScript

theorem Environment.Evolves.thread?_of_known {e e' : Environment} {ds : List Deed} {id : ThreadId}
    {t : Thread} (h : e.Evolves ds e') (known : id < e.nextThread)
    (found : e'.thread? id = some t) : e.thread? id = some t := by
  obtain ⟨found, -⟩ | ⟨alive, rfl⟩ := (h.thread?_iff id t).mp found
  · exact found
  · have above := (h.id_bounds (Deed.mem_born_of_mem_alive alive)).1
    exact absurd (UInt64.lt_iff_toNat_lt.mp known) (Nat.not_lt.mpr above)

namespace TickState

open Environment

variable {σ : Type} [Host σ] {config : Config} {now : Tick} {e : Environment} {s s' : TickState σ}
  {count : Nat} {ds : List Deed} {id : ThreadId}

/-- A turn takes its thread out of the table and puts it back without harm to the order there. -/
structure Orderly (config : Config) (now : Tick) (s : TickState σ) (id : ThreadId)
    (s' : TickState σ) : Prop where
  numbers : s.environment.nextThread ≤ s'.environment.nextThread
  gone : s.environment.thread? id = none → s'.environment.thread? id = none
  vacant : ∀ m, s.dispatch? now id = some m →
    (m.run config now config.runtime.maxInstructionsPerRun).2.environment.thread? id = none
  restored : ∀ m, s.dispatch? now id = some m → s'.environment.thread? id =
    if (m.run config now config.runtime.maxInstructionsPerRun).1.isLive then
      some (m.run config now config.runtime.maxInstructionsPerRun).2.thread
    else none
  others : ∀ {other t}, other ≠ id → other < s.environment.nextThread →
    s'.environment.thread? other = some t → s.environment.thread? other = some t

theorem orderly_of_idle (idle : s.dispatch? now id = none)
    (same : s'.environment = s.environment) : Orderly config now s id s' where
  numbers := by
    rw [same]
    exact UInt64.le_refl _
  gone missing := by rw [same, missing]
  vacant m running := by simp [idle] at running
  restored m running := by simp [idle] at running
  others _ _ found := by rwa [same] at found

theorem Turn.orderly (turn : Turn config now s id s') (h : Grown count e ds s.environment)
    (member : id ∈ e.threadIds)
    (room : Deed.Numbered count (ds ++ deeds config now [id] s)) :
    Orderly config now s id s' := by
  have grown := turn.grown h member room
  have numbers : s.environment.nextThread ≤ s'.environment.nextThread := by
    rw [UInt64.le_iff_toNat_le, h.filed.nextThread, grown.filed.nextThread, Deed.born_append,
      List.length_append]
    omega
  cases turn with
  | gone missing => exact orderly_of_idle (dispatch?_of_missing missing) rfl
  | held found blocked waits =>
    exact orderly_of_idle (dispatch?_of_idle found (isDue_of_held blocked waits)) rfl
  | @runs t found due =>
    have same := h.filed.id_eq found
    subst same
    rw [deeds_of_due found due] at room
    have evolves := (h.detach member).run_evolves room
    have only {m : Machine σ} (running : s.dispatch? now t.id = some m) :
        m = { thread := t.wake, environment := s.environment.detach t.id, host := s.host } := by
      rw [dispatch?_eq_some_iff.mpr ⟨t, found, due, rfl⟩] at running
      exact (Option.some.inj running).symm
    refine ⟨numbers, ?_, ?_, ?_, ?_⟩
    · simp [found]
    · intro m running
      rw [only running, Option.eq_none_iff_forall_ne_some]
      intro t' there
      have before := evolves.thread?_of_known (h.known member) there
      simp at before
    · intro m running
      exact thread?_runThread_eq (t := t.wake) h member (only running) (only running ▸ room) _
    · intro other t' distinct known there
      rw [thread?_runThread_of_ne (t := t.wake) rfl _ distinct.symm] at there
      exact thread?_of_detach (evolves.thread?_of_known known there)
  | dropped found stuck =>
    rw [h.filed.runnable found] at stuck
    cases stuck

theorem orderly_foldl_turn {host : σ} {before after : List ThreadId} (h : e.Filed count)
    (room : Deed.Numbered count (tickDeeds config now e host))
    (split : e.threadIds = before ++ id :: after) :
    Orderly config now (before.foldl (turn config now) { environment := e, host }) id
      ((before ++ [id]).foldl (turn config now) { environment := e, host }) := by
  rw [List.foldl_append]
  refine (turn_cases ..).orderly (h.foldl_turn split room) ?_ ?_
  · rw [split]
    exact List.mem_append_right _ List.mem_cons_self
  · rw [tickDeeds, split, List.append_cons, deeds_append, deeds_append] at room
    exact room.of_append

end TickState

structure Environment.Numbers (e : Environment) (started : List ThreadId) : Prop where
  numbers : started.map UInt64.toNat = List.range' 1 started.length
  next : e.nextThread.toNat = started.length + 1
  known : ∀ id ∈ e.threadIds, id ∈ started ∧ id < e.nextThread

theorem Environment.Numbers.increasing {e : Environment} {started : List ThreadId}
    (h : e.Numbers started) : started.Pairwise (· < ·) := by
  have increasing : (started.map UInt64.toNat).Pairwise (· < ·) := by
    rw [h.numbers]
    exact List.pairwise_lt_range'
  exact (List.pairwise_map.mp increasing).imp UInt64.lt_iff_toNat_lt.mpr

theorem Ledger.Balanced.numbers {l : Ledger} {e : Environment} (h : l.Balanced e) :
    e.Numbers l.started := by
  refine ⟨h.ids, h.filed.nextThread, ?_⟩
  intro id there
  have started : id ∈ l.started :=
    h.perm.subset (List.mem_append_left _ (List.mem_append_left _ there))
  exact ⟨started, (h.mem_started_iff.mp started).2⟩

namespace World

open Environment

def Response.spawned? : Response → Option UnitId
  | .spawned unit => some unit
  | _ => none

def created (w : World) (ops : List Operation) : List UnitId :=
  (w.responses ops).filterMap Response.spawned?

variable {config : Config} {w : World} {u : UnitId} {unit : UnitState} {id : ThreadId}
  {op : Operation} {ops : List Operation} {l : Ledger} {count : Nat}

theorem spawned?_apply (w : World) (op : Operation) :
    (w.apply op).1.spawned? = if op.isSpawn then some w.nextUnit else none := by
  cases op with
  | spawn module => rfl
  | destroy u =>
    simp only [apply]
    split <;> rfl
  | runScript u name args =>
    simp only [apply]
    split <;> rfl
  | sendSignal u signal =>
    simp only [apply]
    split <;> rfl
  | tick => rfl
  | drainEffects => rfl

theorem created_cons (w : World) (op : Operation) (ops : List Operation) :
    w.created (op :: ops) =
      (if op.isSpawn then [w.nextUnit] else []) ++ (w.apply op).2.created ops := by
  rw [created, responses, List.filterMap_cons, spawned?_apply]
  split <;> simp_all [created]

theorem Numbered.created (h : w.Numbered count) (room : count + spawns ops < UInt32.size - 1) :
    (w.created ops).map UInt32.toNat = List.range' (count + 1) (spawns ops) := by
  induction ops generalizing w count with
  | nil => rfl
  | cons op rest ih =>
    rw [spawns_cons, ← Nat.add_assoc] at room
    have later := ih (h.apply op (Nat.lt_of_le_of_lt (Nat.le_add_right ..) room)) room
    rw [created_cons, List.map_append, later, spawns_cons]
    cases kind : op.isSpawn with
    | true => simp [spawns, kind, h.nextUnit, Nat.add_comm 1, List.range'_succ]
    | false => simp [spawns, kind]

theorem toNat_created (config : Config) (room : spawns ops < UInt32.size - 1) :
    ((create config).created ops).map UInt32.toNat = List.range' 1 (spawns ops) :=
  (numbered_create config).created (by rwa [Nat.zero_add])

theorem toNat_le_of_mem_created (room : spawns ops < UInt32.size - 1)
    (given : u ∈ (create config).created ops) : u.toNat ≤ spawns ops := by
  have member := List.mem_map_of_mem (f := UInt32.toNat) given
  rw [toNat_created config room, List.mem_range'_1] at member
  omega

theorem created_increasing (config : Config) (room : spawns ops < UInt32.size - 1) :
    ((create config).created ops).Pairwise (· < ·) := by
  have increasing : (((create config).created ops).map UInt32.toNat).Pairwise (· < ·) := by
    rw [toNat_created config room]
    exact List.pairwise_lt_range'
  exact (List.pairwise_map.mp increasing).imp UInt32.lt_iff_toNat_lt.mpr

theorem spawn_of_appears (missing : w.units[u]? = none)
    (live : (w.apply op).2.units[u]? = some unit) : op.isSpawn = true ∧ u = w.nextUnit := by
  have elsewhere {other : UnitId} {unit' : UnitState} (other_live : w.units[other]? = some unit')
      (after : UnitState) : (w.units.insert other after)[u]? = none := by
    rw [Std.ExtTreeMap.getElem?_insert, if_neg, missing]
    intro same
    rw [Std.LawfulEqCmp.eq_of_compare same, missing] at other_live
    cases other_live
  have applied := w.applied op
  generalize (w.apply op).2 = w' at applied live
  cases applied with
  | spawned module =>
    simp only [spawn, Std.ExtTreeMap.getElem?_insert, missing] at live
    split at live
    · next same => exact ⟨rfl, (Std.LawfulEqCmp.eq_of_compare same).symm⟩
    · cases live
  | destroyed other => simp [Std.ExtTreeMap.getElem?_erase, missing] at live
  | started found _ => simp [elsewhere found] at live
  | signalled signal found => simp [elsewhere found] at live
  | ticked => simp [units_tick_of_missing missing] at live
  | drained => simp [drainEffects, missing] at live
  | refused => simp [missing] at live

theorem Numbered.units_after_of_missing (h : w.Numbered count) (old : u.toNat ≤ count)
    (missing : w.units[u]? = none) (room : count + spawns ops < UInt32.size - 1) :
    (w.after ops).units[u]? = none := by
  induction ops generalizing w count with
  | nil => exact missing
  | cons op rest ih =>
    rw [spawns_cons, ← Nat.add_assoc] at room
    have numbered := h.apply op (Nat.lt_of_le_of_lt (Nat.le_add_right ..) room)
    refine ih numbered (Nat.le_trans old (Nat.le_add_right ..)) ?_ room
    rw [Option.eq_none_iff_forall_ne_some]
    intro unit live
    exact h.ne_nextUnit old (spawn_of_appears missing live).2

theorem mem_created_of_live (live : (w.after ops).units[u]? = some unit) :
    (∃ before, w.units[u]? = some before) ∨ u ∈ w.created ops := by
  induction ops generalizing w with
  | nil => exact .inl ⟨unit, live⟩
  | cons op rest ih =>
    rw [created_cons, List.mem_append]
    obtain ⟨unit', there⟩ | later := ih (w := (w.apply op).2) live
    · cases before : w.units[u]? with
      | some unit => exact .inl ⟨unit, rfl⟩
      | none =>
        obtain ⟨spawn, rfl⟩ := spawn_of_appears before there
        simp [spawn]
    · exact .inr (.inr later)

theorem mem_unitIds : u ∈ w.unitIds ↔ ∃ unit, w.units[u]? = some unit := by
  rw [unitIds, Std.ExtTreeMap.mem_keys, Std.ExtTreeMap.mem_iff_isSome_getElem?,
    Option.isSome_iff_exists]

theorem mem_unitIds_of_mem_created (given : u ∈ w.created ops) (kept : .destroy u ∉ ops) :
    u ∈ (w.after ops).unitIds := by
  induction ops generalizing w with
  | nil => cases given
  | cons op rest ih =>
    rw [created_cons, List.mem_append] at given
    have later := List.not_mem_of_not_mem_cons kept
    obtain now | given := given
    · cases op with
      | spawn module =>
        obtain rfl := List.mem_singleton.mp now
        have live : (w.apply (.spawn module)).2.units[w.nextUnit]?.isSome = true := by
          simp [apply, spawn]
        obtain ⟨unit, live⟩ := Option.isSome_iff_exists.mp live
        exact mem_unitIds.mpr (exists_after live later)
      | _ => cases now
    · exact ih given later

theorem mem_created_of_mem_unitIds (there : u ∈ ((create config).after ops).unitIds) :
    u ∈ (create config).created ops := by
  obtain ⟨unit, live⟩ := mem_unitIds.mp there
  obtain ⟨before, old⟩ | created := mem_created_of_live live
  · simp [create] at old
  · exact created

theorem unitIds_eq_filter_created (room : spawns ops < UInt32.size - 1) :
    ((create config).after ops).unitIds =
      ((create config).created ops).filter (· ∈ ((create config).after ops).unitIds) := by
  have increasing := created_increasing config room
  have order := ((create config).after ops).unitIds_increasing
  have distinct {us : List UnitId} (h : us.Pairwise (· < ·)) : us.Nodup :=
    h.imp UInt32.ne_of_lt
  have perm : ((create config).after ops).unitIds.Perm
      (((create config).created ops).filter (· ∈ ((create config).after ops).unitIds)) := by
    refine (List.perm_ext_iff_of_nodup (distinct order) ((distinct increasing).filter _)).mpr ?_
    intro u
    rw [List.mem_filter, decide_eq_true_eq]
    exact ⟨fun there => ⟨mem_created_of_mem_unitIds there, there⟩, And.right⟩
  -- Both lists are increasing, so it is enough that they have the same members.
  refine perm.eq_of_pairwise (fun a b _ _ below above => ?_) order (increasing.filter _)
  exact absurd above (UInt32.not_lt.mpr (UInt32.le_of_lt below))

theorem map_fst_tick (w : World) : w.tick.1.map Prod.fst = w.unitIds := by
  rw [reports_tick, List.map_map, ← map_fst_turns]
  rfl

theorem created_append (w : World) (ops ops' : List Operation) :
    w.created (ops ++ ops') = w.created ops ++ (w.after ops).created ops' := by
  rw [created, responses_append, List.filterMap_append]
  rfl

structure UnitNumbers (w : World) (created : List UnitId) : Prop where
  numbers : created.map UInt32.toNat = List.range' 1 created.length
  fresh : ∀ module, (w.spawn module).1 ∉ created
  vacant : ∀ module, w.units[(w.spawn module).1]? = none
  known : ∀ u ∈ w.unitIds, u ∈ created
  reports : w.tick.1.map Prod.fst = created.filter (· ∈ w.unitIds)

/-- Operations that leave numbers for units, and for the threads of each of them. -/
structure Roomy (config : Config) (ops : List Operation) : Prop where
  units : spawns ops < UInt32.size - 1
  threads : ∀ u ∈ (create config).created ops,
    (ledger u (create config) ops {}).started.length < UInt64.size - 1

-- The units are gone through one by one: there are too many numbers to go through all of these.
instance (config : Config) (ops : List Operation) : Decidable (Roomy config ops) :=
  decidable_of_iff
    (spawns ops < UInt32.size - 1 ∧ ((create config).created ops).all fun u =>
      (ledger u (create config) ops {}).started.length < UInt64.size - 1)
    ⟨fun h => ⟨h.1, fun u given => of_decide_eq_true (List.all_eq_true.mp h.2 u given)⟩,
      fun h => ⟨h.units, List.all_eq_true.mpr fun u given => decide_eq_true (h.threads u given)⟩⟩

section Roomy

variable {history rest : List Operation}

theorem Roomy.units_of_append (h : Roomy config (history ++ rest)) :
    spawns history + spawns rest < UInt32.size - 1 := by
  rw [← spawns_append]
  exact h.units

theorem Roomy.threads_of_append (h : Roomy config (history ++ rest))
    (given : u ∈ (create config).created history) :
    (ledger u ((create config).after history) rest
      (ledger u (create config) history {})).started.length < UInt64.size - 1 := by
  rw [← ledger_append]
  apply h.threads
  rw [created_append]
  exact List.mem_append_left _ given

theorem Roomy.of_append (h : Roomy config (history ++ rest)) : Roomy config history := by
  have units : spawns history < UInt32.size - 1 :=
    Nat.lt_of_le_of_lt (Nat.le_add_right ..) h.units_of_append
  refine ⟨units, ?_⟩
  intro u given
  have grows := length_started_ledger (numbered_after config units)
    (toNat_le_of_mem_created units given) rest h.units_of_append
    (ledger u (create config) history {})
  exact Nat.lt_of_le_of_lt grows (h.threads_of_append given)

theorem Roomy.unitNumbers (h : Roomy config ops) :
    UnitNumbers ((create config).after ops) ((create config).created ops) := by
  have numbered := numbered_after config h.units
  have numbers := toNat_created config h.units
  refine ⟨?_, ?_, ?_, fun u => mem_created_of_mem_unitIds, ?_⟩
  · have length := congrArg List.length numbers
    rw [List.length_map, List.length_range'] at length
    rw [length, numbers]
  · intro module again
    exact numbered.ne_nextUnit (toNat_le_of_mem_created h.units again) rfl
  · intro module
    rw [Option.eq_none_iff_forall_ne_some]
    intro unit live
    exact numbered.ne_nextUnit (numbered.toNat_le live) rfl
  · rw [map_fst_tick]
    exact unitIds_eq_filter_created h.units

theorem Roomy.balanced (h : Roomy config ops)
    (live : ((create config).after ops).units[u]? = some unit) :
    (ledger u (create config) ops {}).Balanced unit.environment := by
  have given := mem_created_of_mem_unitIds (mem_unitIds.mpr ⟨unit, live⟩)
  exact (balances_create config u).ledger ops unit live (h.threads u given)

theorem Roomy.unit_lasting (h : Roomy config (history ++ rest))
    (given : u ∈ (create config).created history)
    (missing : ((create config).after history).units[u]? = none) :
    ((create config).after (history ++ rest)).units[u]? = none := by
  have units := h.of_append.units
  rw [after_append]
  exact (numbered_after config units).units_after_of_missing
    (toNat_le_of_mem_created units given) missing h.units_of_append

theorem Roomy.thread_lasting (h : Roomy config (history ++ rest))
    (given : u ∈ (create config).created history)
    (started : id ∈ (ledger u (create config) history {}).started)
    (missing : ((create config).after history).threadOf u id = none) :
    ((create config).after (history ++ rest)).threadOf u id = none := by
  cases live : ((create config).after history).units[u]? with
  | none => rw [threadOf, h.unit_lasting given live, Option.bind_none]
  | some unit =>
    have units := h.of_append.units
    have balanced := h.of_append.balanced live
    have known := UInt64.lt_iff_toNat_lt.mp (balanced.mem_started_iff.mp started).2
    rw [balanced.filed.nextThread] at known
    have tracks : Tracks ((create config).after history) u id (spawns history)
        (ledger u (create config) history {}) :=
      ⟨numbered_after config units, (balances_create config u).ledger history,
        toNat_le_of_mem_created units given, Nat.le_of_lt_succ known⟩
    have same : ∀ unit', ((create config).after history).units[u]? = some unit' →
        unit'.environment.module = unit.environment.module := by
      simp [live]
    -- What is to come is a stretch in the life of the thread, and without a thread there is none.
    have life := tracks.life_after rest same h.units_of_append (h.threads_of_append given)
    rw [missing] at life
    rw [after_append]
    exact life.eq_none

def midTick (config : Config) (now : Tick) (u : UnitId) (unit : UnitState) (g : Gathered)
    (ids : List ThreadId) : TickState UnitHost :=
  ids.foldl (TickState.turn config now)
    { environment := unit.environment, host := hostOf config now u unit g }

theorem Roomy.orderly (h : Roomy config (history ++ .tick :: rest)) {g : Gathered}
    (turn : (u, unit, g) ∈ ((create config).after history).turns) {before after : List ThreadId}
    (split : unit.environment.threadIds = before ++ id :: after) :
    TickState.Orderly config ((create config).after history).now
      (midTick config ((create config).after history).now u unit g before) id
      (midTick config ((create config).after history).now u unit g (before ++ [id])) := by
  have live := Table.getElem?_of_mem_visits turn
  have given := mem_created_of_mem_unitIds (mem_unitIds.mpr ⟨unit, live⟩)
  have units := h.of_append.units
  have grows := length_started_ledger ((numbered_after config units).apply .tick units)
    (toNat_le_of_mem_created units given) rest h.units_of_append
    (((create config).after history).post u (ledger u (create config) history {}) .tick)
  have room := numbered_of_turn turn (Nat.lt_of_le_of_lt grows (h.threads_of_append given))
  rw [config_after] at room
  exact TickState.orderly_foldl_turn (h.of_append.balanced live).filed room split

end Roomy

/-- Whatever is asked of a world, its units and the threads of each unit are numbered from one in
the order of their creation. A number that has left its table is never there again, and in a tick
no turn brings back a thread that has ended or takes the place of another. -/
theorem identifiers_lasting (config : Config) (history rest : List Operation)
    (room : Roomy config (history ++ rest)) :
    UnitNumbers ((create config).after history) ((create config).created history) ∧
    (∀ (u : UnitId) (unit : UnitState), ((create config).after history).units[u]? = some unit →
      unit.environment.Numbers (ledger u (create config) history {}).started) ∧
    (∀ u ∈ (create config).created history,
      (((create config).after history).units[u]? = none →
        ((create config).after (history ++ rest)).units[u]? = none) ∧
      ∀ id ∈ (ledger u (create config) history {}).started,
        ((create config).after history).threadOf u id = none →
          ((create config).after (history ++ rest)).threadOf u id = none) ∧
    (∀ later, rest = .tick :: later →
      ∀ u unit g, (u, unit, g) ∈ ((create config).after history).turns →
        ∀ before id after, unit.environment.threadIds = before ++ id :: after →
          TickState.Orderly config ((create config).after history).now
            (midTick config ((create config).after history).now u unit g before) id
            (midTick config ((create config).after history).now u unit g (before ++ [id]))) := by
  refine ⟨room.of_append.unitNumbers, ?_, ?_, ?_⟩
  · intro u unit live
    exact (room.of_append.balanced live).numbers
  · intro u given
    exact ⟨room.unit_lasting given, fun id => room.thread_lasting given⟩
  · intro later now u unit g turn before id after split
    subst now
    exact room.orderly turn split

def turmoil : List Operation :=
  [.spawn stillborn, .spawn stillborn, .destroy 1, .runScript 2 "Main" [], .tick,
    .runScript 2 "Nobody" [], .runScript 2 "Main" []]

theorem turmoil_identifiers :
    UnitNumbers ((create {}).after turmoil) [1, 2] ∧
      ((create {}).after (turmoil ++ [.tick, .spawn stillborn])).units[(1 : UnitId)]? = none ∧
      ((create {}).after (turmoil ++ [.tick, .spawn stillborn])).threadOf 2 2 = none ∧
      ∃ unit g, (2, unit, g) ∈ ((create {}).after turmoil).turns ∧
        unit.environment.Numbers [1, 2, 3] ∧
        TickState.Orderly {} 1 (midTick {} 1 2 unit g []) 3 (midTick {} 1 2 unit g [3]) := by
  have room : Roomy {} (turmoil ++ [.tick, .spawn stillborn]) := by decide +kernel
  obtain ⟨units, threads, lasting, orderly⟩ := identifiers_lasting {} turmoil _ room
  have created : (create {}).created turmoil = [1, 2] := by decide +kernel
  have started : (ledger 2 (create {}) turmoil {}).started = [1, 2, 3] := by decide +kernel
  have now : ((create {}).after turmoil).now = 1 := by decide +kernel
  have there : (((create {}).after turmoil).units[(2 : UnitId)]?.map
      fun unit => unit.environment.threadIds) = some [3] := by
    decide +kernel
  obtain ⟨unit, live, scheduled⟩ := Option.map_eq_some_iff.mp there
  obtain ⟨g, turn⟩ := exists_turn live
  rw [created] at units lasting
  have turned := orderly _ rfl 2 unit g turn [] 3 [] scheduled
  rw [now] at turned
  refine ⟨units, (lasting 1 (by decide)).1 (by decide +kernel), ?_, unit, g, turn, ?_, turned⟩
  · apply (lasting 2 (by decide)).2
    · rw [started]
      decide
    · decide +kernel
  · rw [← started]
    exact threads 2 unit live

end World

end UnitScript
