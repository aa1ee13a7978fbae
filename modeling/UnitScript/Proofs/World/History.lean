import UnitScript.Proofs.World.Emission
import UnitScript.Proofs.World.Safety

/-!
The history of a world, kept apart from its queues: what it answers, what its scripts do beyond
their units, and the faults that its ticks report. Everything that a script does has its moment, and
it is told in the order of these.
-/

namespace UnitScript

/-- When a script does something: in which tick, counted from the first, in which unit, in which
thread, and after how many instructions of its run. -/
structure Moment where
  tick : Nat
  unit : UnitId
  thread : ThreadId
  place : Nat
  deriving DecidableEq

def Moment.Precedes (a b : Moment) : Prop :=
  a.tick < b.tick ∨ a.tick = b.tick ∧
    (a.unit < b.unit ∨ a.unit = b.unit ∧
      (a.thread < b.thread ∨ a.thread = b.thread ∧ a.place < b.place))

def Deed.act? : Deed → Option Act
  | .act a => some a
  | _ => .none

namespace Emission

def act? : Emission → Option Act
  | .act a => some a
  | .fault _ _ => none

def fault? : Emission → Option (ThreadId × Fault)
  | .act _ => none
  | .fault thread f => some (thread, f)

theorem bind_act?_emission? (d : Deed) : d.emission?.bind act? = d.act? := by
  cases d <;> rfl

theorem bind_fault?_emission? (d : Deed) : d.emission?.bind fault? = none := by
  cases d <;> rfl

end Emission

namespace Machine

variable {σ : Type} [Host σ] {config : Config} {now : Tick} {budget : Nat}

def acts (config : Config) (now : Tick) (budget : Nat) (m : Machine σ) : List (Nat × Act) :=
  (m.deeds config now budget).zipIdx.filterMap fun (d, place) => d.act?.map (place, ·)

theorem acts_increasing (m : Machine σ) :
    (m.acts config now budget).Pairwise (·.1 < ·.1) := by
  have places : (m.deeds config now budget).zipIdx.Pairwise (·.2 < ·.2) := by
    rw [← List.pairwise_map (f := Prod.snd) (R := (· < ·)), List.zipIdx_map_snd]
    exact List.pairwise_lt_range'
  rw [acts, List.pairwise_filterMap]
  refine places.imp ?_
  rintro ⟨d, place⟩ ⟨d', place'⟩ earlier act here act' there
  obtain ⟨_, -, rfl⟩ := Option.map_eq_some_iff.mp here
  obtain ⟨_, -, rfl⟩ := Option.map_eq_some_iff.mp there
  exact earlier

theorem acts_eq_emissions (m : Machine σ) :
    (m.acts config now budget).map Prod.snd =
      (m.emissions config now budget).filterMap Emission.act? := by
  have quiet (status : Status) :
      (status.emission? m.thread.id).toList.filterMap Emission.act? = [] := by
    cases status <;> rfl
  have places (ds : List Deed) :
      ds.zipIdx.filterMap (fun x => x.1.act?) = ds.filterMap Deed.act? := by
    calc
      ds.zipIdx.filterMap (fun x => x.1.act?) = (ds.zipIdx.map Prod.fst).filterMap Deed.act? := by
        rw [List.filterMap_map]
        rfl
      _ = ds.filterMap Deed.act? := by rw [List.zipIdx_map_fst]
  rw [acts, List.map_filterMap, emissions, List.filterMap_append, quiet, List.append_nil,
    List.filterMap_filterMap]
  simp only [Option.map_map, Function.comp_def, Option.map_id', Emission.bind_act?_emission?,
    places]

theorem faults_of_emissions (m : Machine σ) :
    (m.emissions config now budget).filterMap Emission.fault? =
      TickState.faultEntry m.thread.id (m.run config now budget).1 := by
  have quiet (ds : List Deed) :
      ds.filterMap (fun d => d.emission?.bind Emission.fault?) = [] := by
    rw [List.filterMap_eq_nil_iff]
    intro d _
    exact Emission.bind_fault?_emission? d
  rw [emissions, List.filterMap_append, List.filterMap_filterMap, quiet, List.nil_append]
  cases (m.run config now budget).1 <;> rfl

end Machine

namespace TickState

variable {σ : Type} [Host σ] {config : Config}

theorem machines_sublist (now : Tick) (ids : List ThreadId) {s : TickState σ}
    (h : s.environment.Sound config) :
    ((machines config now ids s).map (·.thread.id)).Sublist ids := by
  induction ids generalizing s with
  | nil => exact .slnil
  | cons id rest ih =>
    have later := ih ((turn_cases config now s id).sound h)
    rw [machines, List.map_append]
    cases dispatched : s.dispatch? now id with
    | none => exact later.trans (List.sublist_cons_self ..)
    | some m =>
      obtain ⟨t, found, -, rfl⟩ := dispatch?_eq_some_iff.mp dispatched
      have same : t.id = id := h.id_eq found
      simp only [Option.toList_some, List.map_singleton, List.singleton_append, Thread.wake,
        same]
      exact later.cons_cons id

end TickState

theorem faulted_runTick {σ : Type} [Host σ] (config : Config) (now : Tick) (e : Environment)
    (host : σ) :
    (runTick config now e host).report.faulted.toList =
      (tickEmissions config now e host).filterMap Emission.fault? := by
  have faulted := TickState.faulted_foldl_turn config now e.threadIds { environment := e, host }
  rw [tickEmissions, TickState.emissions, List.filterMap_flatMap]
  simp only [Machine.faults_of_emissions]
  exact faulted

namespace World

def responses : World → List Operation → List Response
  | _, [] => []
  | w, op :: rest => (w.apply op).1 :: responses (w.apply op).2 rest

def acts (w : World) (tick : Nat) : List (Moment × Act) :=
  w.turns.flatMap fun (id, unit, g) =>
    (turnMachines w.config w.now id unit g).flatMap fun m =>
      (m.acts w.config w.now w.config.runtime.maxInstructionsPerRun).map fun (place, act) =>
        (⟨tick, id, m.thread.id, place⟩, act)

def faultsOf (now : Tick) (reports : List (UnitId × TickReport)) : List Diagnostic :=
  reports.flatMap fun (unit, report) =>
    report.faulted.toList.map fun (thread, fault) => ⟨now, unit, thread, fault⟩

structure Chronicle where
  ticks : Nat := 0
  pending : List (Moment × Act) := []
  faults : List Diagnostic := []

def Chronicle.effects (c : Chronicle) : List Effect :=
  c.pending.map fun (moment, act) => ⟨moment.unit, act⟩

def write (w : World) (c : Chronicle) : Operation → Chronicle
  | .tick =>
    { ticks := c.ticks + 1
      pending := c.pending ++ w.acts c.ticks
      faults := c.faults ++ faultsOf (UInt64.ofNat c.ticks) w.tick.1 }
  | .drainEffects => { c with pending := [] }
  | _ => c

def chronicle : World → List Operation → Chronicle → Chronicle
  | _, [], c => c
  | w, op :: rest, c => chronicle (w.apply op).2 rest (w.write c op)

variable {w : World} {c : Chronicle}

theorem responses_append (w : World) (ops ops' : List Operation) :
    w.responses (ops ++ ops') = w.responses ops ++ (w.after ops).responses ops' := by
  induction ops generalizing w with
  | nil => rfl
  | cons op rest ih => exact congrArg ((w.apply op).1 :: ·) (ih (w.apply op).2)

theorem unitIds_increasing (w : World) : w.unitIds.Pairwise (· < ·) := by
  refine Std.ExtTreeMap.ordered_keys.imp ?_
  intro a b h
  exact Std.compare_eq_lt.mp h

theorem map_fst_turns (w : World) : w.turns.map Prod.fst = w.unitIds :=
  (Table.keys_visits ..).trans Std.ExtTreeMap.map_fst_toList_eq_keys

theorem turns_increasing (w : World) : w.turns.Pairwise (·.1 < ·.1) := by
  rw [← List.pairwise_map (f := Prod.fst) (R := (· < ·)), map_fst_turns]
  exact w.unitIds_increasing

theorem turnMachines_increasing {config : Config} {unit : UnitState}
    (h : unit.environment.Sound config) (now : Tick) (id : UnitId) (g : Gathered) :
    (turnMachines config now id unit g).Pairwise (·.thread.id < ·.thread.id) := by
  rw [← List.pairwise_map (f := fun m : Machine UnitHost => m.thread.id) (R := (· < ·))]
  exact unit.environment.threadIds_increasing.sublist (TickState.machines_sublist now _ h)

theorem acts_ordered (h : w.Sound) (tick : Nat) :
    (w.acts tick).Pairwise fun a b => a.1.Precedes b.1 := by
  rw [acts, List.pairwise_flatMap]
  constructor
  · rintro ⟨id, unit, g⟩ turn
    rw [List.pairwise_flatMap]
    constructor
    · intro m _
      rw [List.pairwise_map]
      refine m.acts_increasing.imp ?_
      intro a b earlier
      exact .inr ⟨rfl, .inr ⟨rfl, .inr ⟨rfl, earlier⟩⟩⟩
    · refine (turnMachines_increasing (h.turn turn).environment w.now id g).imp ?_
      intro m m' earlier a here b there
      obtain ⟨_, -, rfl⟩ := List.mem_map.mp here
      obtain ⟨_, -, rfl⟩ := List.mem_map.mp there
      exact .inr ⟨rfl, .inr ⟨rfl, .inl earlier⟩⟩
  · refine w.turns_increasing.imp ?_
    rintro ⟨id, unit, g⟩ ⟨id', unit', g'⟩ earlier a here b there
    obtain ⟨m, -, here⟩ := List.mem_flatMap.mp here
    obtain ⟨_, -, rfl⟩ := List.mem_map.mp here
    obtain ⟨m', -, there⟩ := List.mem_flatMap.mp there
    obtain ⟨_, -, rfl⟩ := List.mem_map.mp there
    exact .inr ⟨rfl, .inl earlier⟩

theorem tick_of_mem_acts {tick : Nat} {a : Moment × Act} (h : a ∈ w.acts tick) :
    a.1.tick = tick := by
  obtain ⟨turn, -, h⟩ := List.mem_flatMap.mp h
  obtain ⟨m, -, h⟩ := List.mem_flatMap.mp h
  obtain ⟨_, -, rfl⟩ := List.mem_map.mp h
  rfl

structure Chronicle.Ordered (c : Chronicle) : Prop where
  pairwise : c.pending.Pairwise fun a b => a.1.Precedes b.1
  past : ∀ a ∈ c.pending, a.1.tick < c.ticks

theorem Chronicle.Ordered.write (ordered : c.Ordered) (h : w.Sound) (op : Operation) :
    (w.write c op).Ordered := by
  cases op with
  | tick =>
    constructor
    · refine List.pairwise_append.mpr ⟨ordered.pairwise, w.acts_ordered h c.ticks, ?_⟩
      intro a old b new
      have now := tick_of_mem_acts new
      exact .inl (now ▸ ordered.past a old)
    · intro a member
      obtain old | new := List.mem_append.mp member
      · exact Nat.lt_succ_of_lt (ordered.past a old)
      · rw [tick_of_mem_acts new]
        exact Nat.lt_succ_self _
  | drainEffects => exact ⟨.nil, nofun⟩
  | _ => exact ordered

theorem Chronicle.Ordered.chronicle (ordered : c.Ordered) (h : w.Sound) (ops : List Operation) :
    (chronicle w ops c).Ordered := by
  induction ops generalizing w c with
  | nil => exact ordered
  | cons op rest ih => exact ih (ordered.write h op) (h.apply op)

end World

end UnitScript
