import UnitScript.Proofs.Tick.Accounting
import UnitScript.Proofs.World.Operation

/-!
Who is told about the end of a thread. The ledger of a unit holds the threads started in it and the
ends reported to whoever runs the simulation, and it balances but for one kind of thread: one that a
tick starts and that a signal ends before the tick is over is live nowhere and reported nowhere.
-/

namespace UnitScript

structure Ledger where
  started : List ThreadId := []
  /-- Finished, killed or faulted in a tick, or killed by a signal from outside. -/
  reported : List ThreadId := []
  /-- Started and ended by a signal within one tick. -/
  perished : List ThreadId := []
  deriving DecidableEq

namespace Environment

variable {e e' : Environment} {id : ThreadId} {t : Thread} {count : Nat}

theorem threadIds_enroll_perm (fresh : e.Fresh) (next : t.id = e.nextThread) :
    (e.enroll t).threadIds.Perm (e.threadIds ++ [t.id]) := by
  have vacant : t.id ∉ e.threadIds := by
    rw [mem_threadIds, next, fresh.vacant]
    simp
  refine (List.perm_ext_iff_of_nodup (nodup_threadIds _) ?_).mpr fun id => ?_
  · exact (List.perm_append_singleton ..).nodup_iff.mpr
      (List.nodup_cons.mpr ⟨vacant, e.nodup_threadIds⟩)
  · rw [List.mem_append, mem_threadIds, mem_threadIds, List.mem_singleton]
    simp only [thread?_enroll]
    split
    · next same => simp [same]
    · next other => simp [Ne.symm other]

theorem mem_intercepting {signal : UInt32} :
    id ∈ e.intercepting signal ↔ ∃ t, e.thread? id = some t ∧ t.intercepts signal = true := by
  rw [intercepting, Std.ExtTreeMap.mem_keys, Std.ExtTreeMap.mem_iff_isSome_getElem?,
    Std.ExtTreeMap.getElem?_filter', Option.isSome_iff_exists]
  simp only [Option.filter_eq_some_iff]
  rfl

theorem threadIds_sendSignal_perm (e : Environment) (signal : UInt32) :
    ((e.sendSignal signal).threadIds ++ e.intercepting signal).Perm e.threadIds := by
  refine (List.perm_ext_iff_of_nodup ?_ e.nodup_threadIds).mpr fun id => ?_
  · rw [List.nodup_append]
    refine ⟨nodup_threadIds _, Std.ExtTreeMap.nodup_keys, ?_⟩
    rintro id spared _ intercepted rfl
    obtain ⟨t, found⟩ := mem_threadIds.mp spared
    obtain ⟨t', found', intercepts⟩ := mem_intercepting.mp intercepted
    rw [thread?_sendSignal, found', Option.filter_some] at found
    simp [intercepts] at found
  · rw [List.mem_append, mem_threadIds, mem_intercepting, mem_threadIds]
    simp only [thread?_sendSignal, Option.filter_eq_some_iff]
    constructor
    · rintro (⟨t, found, -⟩ | ⟨t, found, -⟩)
      · exact ⟨t, found⟩
      · exact ⟨t, found⟩
    · rintro ⟨t, found⟩
      cases h : t.intercepts signal with
      | true => exact .inr ⟨t, found, h⟩
      | false => exact .inl ⟨t, found, by simp [h]⟩

theorem Grown.nodup_ids {ds : List Deed} (h : Grown count e ds e') :
    ((Deed.born ds).map (·.id)).Nodup := by
  have distinct : ((Deed.born ds).map (·.id.toNat)).Nodup := by
    rw [h.ids]
    exact List.nodup_range'
  refine List.pairwise_map.mpr ((List.pairwise_map.mp distinct).imp ?_)
  intro t t' other same
  exact other (congrArg UInt64.toNat same)

theorem Grown.threadIds_perm {ds : List Deed} (h : Grown count e ds e') :
    e'.threadIds.Perm
      (e.threadIds.filter (· ∈ e'.threadIds) ++ (Deed.alive ds).map (·.id)) := by
  refine (List.perm_ext_iff_of_nodup e'.nodup_threadIds ?_).mpr fun id => ?_
  · have alive : ((Deed.alive ds).map (·.id)).Nodup := by
      have all := ((Deed.alive_append_perished_perm ds).map (·.id)).nodup_iff.mpr h.nodup_ids
      rw [List.map_append] at all
      exact (List.nodup_append.mp all).1
    refine List.nodup_append.mpr ⟨e.nodup_threadIds.filter _, alive, ?_⟩
    rintro id old _ new rfl
    obtain ⟨t, ht, rfl⟩ := List.mem_map.mp new
    exact h.not_mem_threadIds (Deed.mem_born_of_mem_alive ht) (List.mem_filter.mp old).1
  · rw [List.mem_append, List.mem_filter, List.mem_map]
    constructor
    · intro live
      obtain ⟨t, found⟩ := mem_threadIds.mp live
      obtain old | new := h.origin found
      · exact .inl ⟨old, by simpa using live⟩
      · exact .inr ⟨t, new, h.filed.id_eq found⟩
    · rintro (⟨-, live⟩ | ⟨t, new, rfl⟩)
      · simpa using live
      · exact mem_threadIds.mpr ⟨t, h.stays new⟩

end Environment

namespace Ledger

open Environment

structure Balanced (l : Ledger) (e : Environment) : Prop where
  filed : e.Filed l.started.length
  ids : l.started.map (·.toNat) = List.range' 1 l.started.length
  perm : (e.threadIds ++ l.reported ++ l.perished).Perm l.started

variable {l : Ledger} {e e' : Environment} {id : ThreadId}

theorem balanced_create (module : Module) (unit : UnitId) (seed : UInt64) :
    Balanced {} (.create module unit seed) where
  filed := filed_create module unit seed
  ids := rfl
  perm := .refl _

theorem Balanced.startScript (h : l.Balanced e) {name : String} {args : List Int32}
    (started : e.startScript name args = .ok (id, e'))
    (room : l.started.length + 1 < UInt64.size - 1) :
    { l with started := l.started ++ [id] }.Balanced e' := by
  obtain ⟨script, entry, found, rfl, rfl⟩ := startScript_eq_ok started
  refine ⟨?_, ?_, ?_⟩
  · rw [List.length_append]
    exact h.filed.enroll rfl ⟨script, entry, args, 0, found, rfl⟩ room
  · rw [List.map_append, h.ids, List.length_append]
    simp [h.filed.nextThread, List.range'_concat, Nat.add_comm]
  · have enrolled := threadIds_enroll_perm h.filed.fresh
      (t := .start e.nextThread script entry args 0) rfl
    rw [List.perm_iff_count] at enrolled ⊢
    intro id
    have before := h.perm.count_eq id
    have after := enrolled id
    simp only [List.count_append, Thread.start] at before after ⊢
    omega

theorem Balanced.sendSignal (h : l.Balanced e) (signal : UInt32) :
    { l with reported := l.reported ++ e.intercepting signal }.Balanced (e.sendSignal signal) := by
  refine ⟨h.filed.sendSignal signal, h.ids, ?_⟩
  rw [List.perm_iff_count]
  intro id
  have before := h.perm.count_eq id
  have after := (e.threadIds_sendSignal_perm signal).count_eq id
  simp only [List.count_append] at before after ⊢
  omega

theorem Balanced.nodup_started (h : l.Balanced e) : l.started.Nodup := by
  have distinct : (l.started.map (·.toNat)).Nodup := by
    rw [h.ids]
    exact List.nodup_range'
  refine (List.pairwise_map.mp distinct).imp ?_
  intro id id' other same
  exact other (congrArg UInt64.toNat same)

theorem Balanced.mem_started_iff (h : l.Balanced e) :
    id ∈ l.started ↔ 0 < id ∧ id < e.nextThread := by
  have named : id ∈ l.started ↔ id.toNat ∈ l.started.map (·.toNat) := by
    rw [List.mem_map]
    constructor
    · intro started
      exact ⟨id, started, rfl⟩
    · rintro ⟨other, started, same⟩
      exact UInt64.toNat_inj.mp same ▸ started
  rw [named, h.ids, List.mem_range'_1, UInt64.lt_iff_toNat_lt, UInt64.lt_iff_toNat_lt,
    h.filed.nextThread, UInt64.toNat_zero]
  omega

theorem Balanced.count_eq_one (h : l.Balanced e) (started : id ∈ l.started) :
    (if id ∈ e.threadIds then 1 else 0) + l.reported.count id + l.perished.count id = 1 := by
  have counts := h.perm.count_eq id
  rw [h.nodup_started.count, if_pos started, List.count_append, List.count_append,
    e.nodup_threadIds.count] at counts
  exact counts

def tick (l : Ledger) (ds : List Deed) (ends : List ThreadId) : Ledger where
  started := l.started ++ (Deed.born ds).map (·.id)
  reported := l.reported ++ ends
  perished := l.perished ++ (Deed.perished ds).map (·.id)

theorem Balanced.runTick {σ : Type} [Host σ] {config : Config} {now : Tick} {host : σ}
    (h : l.Balanced e)
    (room : Deed.Numbered l.started.length (tickDeeds config now e host)) :
    (l.tick (tickDeeds config now e host) (runTick config now e host).report.ends).Balanced
      (runTick config now e host).environment := by
  have grown := h.filed.runTick room
  refine ⟨?_, ?_, ?_⟩
  · simpa [tick] using grown.filed
  · have born : ((Deed.born (tickDeeds config now e host)).map (·.id)).map (·.toNat) =
        List.range' (l.started.length + 1) (Deed.born (tickDeeds config now e host)).length := by
      rw [List.map_map]
      exact grown.ids
    simp only [tick, List.map_append, h.ids, born, List.length_append, List.length_map]
    rw [← List.range'_append_1, Nat.add_comm 1]
  · rw [List.perm_iff_count]
    intro id
    have before := h.perm.count_eq id
    have ended := (TickState.ends_runTick_perm h.filed room).count_eq id
    have after := grown.threadIds_perm.count_eq id
    have born := ((Deed.alive_append_perished_perm (tickDeeds config now e host)).map
      (·.id)).count_eq id
    -- What was live has ended or lives on, and what was started lives or has perished.
    simp only [tick, List.map_append, List.count_append] at before ended after born ⊢
    omega

end Ledger

namespace World

variable {w w' : World} {id : UnitId} {unit : UnitState} {g : Gathered} {l : Ledger}

def deedsOf (w : World) (id : UnitId) : List Deed :=
  (w.turns.filter (·.1 = id)).flatMap fun (id, unit, g) =>
    tickDeeds w.config w.now unit.environment (hostOf w.config w.now id unit g)

def post (w : World) (id : UnitId) (l : Ledger) (op : Operation) : Ledger :=
  match op, (w.apply op).1 with
  | .spawn _, .spawned unit => if unit = id then {} else l
  | .runScript unit _ _, .started (.ok thread) =>
    if unit = id then { l with started := l.started ++ [thread] } else l
  | .sendSignal unit _, .signalled (.ok threads) =>
    if unit = id then { l with reported := l.reported ++ threads } else l
  | .tick, .ticked reports =>
    l.tick (w.deedsOf id) ((reports.filter (·.1 = id)).flatMap (·.2.ends))
  | _, _ => l

def ledger (id : UnitId) : World → List Operation → Ledger → Ledger
  | _, [], l => l
  | w, op :: rest, l => ledger id (w.apply op).2 rest (w.post id l op)

theorem filter_turns (turn : (id, unit, g) ∈ w.turns) :
    w.turns.filter (·.1 = id) = [(id, unit, g)] :=
  Table.filter_eq_singleton (Table.nodup_keys_visits ..) turn

theorem deedsOf_eq (turn : (id, unit, g) ∈ w.turns) :
    w.deedsOf id =
      tickDeeds w.config w.now unit.environment (hostOf w.config w.now id unit g) := by
  rw [deedsOf, filter_turns turn]
  simp

theorem numbered_of_turn (turn : (id, unit, g) ∈ w.turns)
    (room : (w.post id l .tick).started.length < UInt64.size - 1) :
    Deed.Numbered l.started.length
      (tickDeeds w.config w.now unit.environment (hostOf w.config w.now id unit g)) := by
  simp only [post, apply, deedsOf_eq turn] at room
  simpa [Ledger.tick, Deed.Numbered] using room

theorem filter_reports_tick (turn : (id, unit, g) ∈ w.turns) :
    w.tick.1.filter (·.1 = id) =
      [(id, (runTick w.config w.now unit.environment
        (hostOf w.config w.now id unit g)).report)] := by
  rw [reports_tick, List.filter_map]
  change List.map _ (w.turns.filter (·.1 = id)) = _
  rw [filter_turns turn]
  rfl

def Balances (w : World) (id : UnitId) (l : Ledger) : Prop :=
  ∀ unit, w.units[id]? = some unit → l.started.length < UInt64.size - 1 →
    l.Balanced unit.environment

theorem Balances.insert (h : w.Balances id l) {other : UnitId} {l' : Ledger}
    (units : w'.units = w.units.insert other unit)
    (here : other = id → l'.started.length < UInt64.size - 1 → l'.Balanced unit.environment) :
    w'.Balances id (if other = id then l' else l) := by
  intro unit' live room
  rw [units, Std.ExtTreeMap.getElem?_insert] at live
  by_cases same : other = id
  · simp only [same, if_true, Std.compare_self, Option.some.injEq] at live room ⊢
    exact live ▸ here same room
  · rw [if_neg (by simpa using same)] at live
    rw [if_neg same] at room ⊢
    exact h unit' live room

theorem Balances.post (h : w.Balances id l) (op : Operation) :
    (w.apply op).2.Balances id (w.post id l op) := by
  cases op with
  | spawn module => exact h.insert rfl fun _ _ => Ledger.balanced_create ..
  | destroy other =>
    simp only [World.post, apply]
    split
    · next destroyed =>
      rw [destroy_eq_ok destroyed]
      intro unit live room
      rw [Std.ExtTreeMap.getElem?_erase] at live
      split at live
      · cases live
      · exact h unit live room
    · exact h
  | runScript other name args =>
    simp only [World.post, apply]
    split
    · next ran =>
      obtain ⟨unit, environment, live, started, rfl⟩ := runScript_eq_ok ran
      refine h.insert rfl ?_
      rintro rfl room
      rw [List.length_append] at room
      exact (h unit live (Nat.lt_of_succ_lt room)).startScript started room
    · exact h
  | sendSignal other signal =>
    simp only [World.post, apply]
    split
    · next signalled =>
      obtain ⟨unit, live, rfl, rfl⟩ := sendSignal_eq_ok signalled
      refine h.insert rfl ?_
      rintro rfl room
      exact (h unit live room).sendSignal signal
    · exact h
  | tick =>
    intro unit live room
    obtain ⟨before, g, turn, rfl⟩ := units_tick_iff.mp live
    have room := numbered_of_turn turn room
    simp only [World.post, apply, deedsOf_eq turn, filter_reports_tick turn,
      List.flatMap_singleton]
    have found := Table.getElem?_of_mem_visits turn
    exact (h before found room.lt).runTick room
  | drainEffects => exact h

theorem Balances.ledger (h : w.Balances id l) (ops : List Operation) :
    (w.after ops).Balances id (ledger id w ops l) := by
  induction ops generalizing w l with
  | nil => exact h
  | cons op rest ih => exact ih (h.post op)

theorem balances_create (config : Config) (id : UnitId) : (create config).Balances id {} := by
  intro unit live
  simp [create] at live

/-- A thread that was started in a live unit is live, or its end has been reported, once, unless it
was started and ended by a signal within one tick; the end of such a thread is never reported. -/
theorem live_or_reported_once_iff (config : Config) (ops : List Operation)
    (live : ((create config).after ops).units[id]? = some unit)
    (room : (ledger id (create config) ops {}).started.length < UInt64.size - 1)
    (thread : ThreadId) :
    (thread ∈ (ledger id (create config) ops {}).started ↔
      0 < thread ∧ thread < unit.environment.nextThread) ∧
    (thread ∈ (ledger id (create config) ops {}).started →
      ((thread ∈ unit.environment.threadIds ∨
          (ledger id (create config) ops {}).reported.count thread = 1) ↔
        thread ∉ (ledger id (create config) ops {}).perished) ∧
      (thread ∈ unit.environment.threadIds →
        (ledger id (create config) ops {}).reported.count thread = 0) ∧
      (thread ∈ (ledger id (create config) ops {}).perished →
        thread ∉ unit.environment.threadIds ∧
          (ledger id (create config) ops {}).reported.count thread = 0)) := by
  have balanced := (balances_create config id).ledger ops unit live room
  refine ⟨balanced.mem_started_iff, fun started => ?_⟩
  have counts := balanced.count_eq_one started
  have perished := List.count_pos_iff (a := thread)
    (l := (ledger id (create config) ops {}).perished)
  split at counts
  · next there =>
    have absent : thread ∉ (ledger id (create config) ops {}).perished := by
      rw [← perished]
      omega
    exact ⟨iff_of_true (.inl there) absent, fun _ => by omega, fun dead => absurd dead absent⟩
  · next gone =>
    refine ⟨?_, fun there => absurd there gone, fun dead => ⟨gone, ?_⟩⟩
    · rw [← perished, or_iff_right gone]
      omega
    · have := perished.mpr dead
      omega

def stillborn : Module where
  definition :=
    { scripts := #[{ name := "Main", offset := 0 }, { name := "Child", offset := 8 }]
      code := #[.pushConstant 1, .setSignalMask, .startScript ⟨1⟩ 0, .pushConstant 0,
        .setSignalMask, .pushConstant 1, .sendSignal, .returnFromScript, .returnFromScript] }
  checked := by decide +kernel

def stillbirth : List Operation := [.spawn stillborn, .runScript 1 "Main" [], .tick]

theorem stillbirth_ledger :
    ∃ unit, ((create {}).after stillbirth).units[(1 : UnitId)]? = some unit ∧
      (1 ∈ unit.environment.threadIds ∨
        (ledger 1 (create {}) stillbirth {}).reported.count 1 = 1) ∧
      2 ∉ unit.environment.threadIds ∧
        (ledger 1 (create {}) stillbirth {}).reported.count 2 = 0 := by
  have live : ((create {}).after stillbirth).units[(1 : UnitId)]?.isSome = true := by
    decide +kernel
  obtain ⟨unit, live⟩ := Option.isSome_iff_exists.mp live
  have room : (ledger 1 (create {}) stillbirth {}).started.length < UInt64.size - 1 := by
    decide +kernel
  have parent := (live_or_reported_once_iff {} stillbirth live room 1).2 (by decide +kernel)
  have child := (live_or_reported_once_iff {} stillbirth live room 2).2 (by decide +kernel)
  exact ⟨unit, live, parent.1.mpr (by decide +kernel), child.2.2 (by decide +kernel)⟩

theorem stillborn_not_reported :
    ¬∀ unit, ((create {}).after stillbirth).units[(1 : UnitId)]? = some unit →
      ∀ thread ∈ (ledger 1 (create {}) stillbirth {}).started,
        thread ∈ unit.environment.threadIds ∨
          (ledger 1 (create {}) stillbirth {}).reported.count thread = 1 := by
  intro all
  have alone : (((create {}).after stillbirth).units[(1 : UnitId)]?.map
      fun unit => unit.environment.threadIds) = some [] := by
    decide +kernel
  obtain ⟨unit, live, none⟩ := Option.map_eq_some_iff.mp alone
  obtain there | reported := all unit live 2 (by decide +kernel)
  · rw [none] at there
    cases there
  · revert reported
    decide +kernel

end World

end UnitScript
