import UnitScript.Proofs.Table
import UnitScript.Proofs.Tick.Turn
import UnitScript.World

namespace UnitScript

instance : LawfulHost UnitHost where
  pieces_request _ _ _ := rfl
  pieces_act _ _ := rfl
  pieces_setValue _ _ _ := rfl
  pieces_reportFault _ _ _ := rfl

namespace World

inductive Operation
  | spawn (module : Module)
  | destroy (unit : UnitId)
  | runScript (unit : UnitId) (name : String) (args : List Int32)
  | sendSignal (unit : UnitId) (signal : UInt32)
  | tick
  | drainEffects
  deriving DecidableEq

inductive Response
  | spawned (unit : UnitId)
  | destroyed (result : Except WorldError Unit)
  | started (result : Except WorldError ThreadId)
  | signalled (result : Except WorldError (List ThreadId))
  | ticked (reports : List (UnitId × TickReport))
  | drained (effects : List Effect)

/-- Carry out an operation. One that fails leaves the world as it is. -/
def apply (w : World) : Operation → Response × World
  | .spawn module =>
    let (unit, w) := w.spawn module
    (.spawned unit, w)
  | .destroy unit =>
    match w.destroy unit with
    | .ok w => (.destroyed (.ok ()), w)
    | .error error => (.destroyed (.error error), w)
  | .runScript unit name args =>
    match w.runScript unit name args with
    | .ok (thread, w) => (.started (.ok thread), w)
    | .error error => (.started (.error error), w)
  | .sendSignal unit signal =>
    match w.sendSignal unit signal with
    | .ok (threads, w) => (.signalled (.ok threads), w)
    | .error error => (.signalled (.error error), w)
  | .tick =>
    let (reports, w) := w.tick
    (.ticked reports, w)
  | .drainEffects =>
    let (effects, w) := w.drainEffects
    (.drained effects, w)

def after (w : World) (ops : List Operation) : World :=
  ops.foldl (fun w op => (w.apply op).2) w

def hostOf (config : Config) (now : Tick) (id : UnitId) (unit : UnitState) (g : Gathered) :
    UnitHost where
  unit := id
  now
  maxDiagnostics := config.runtime.maxDiagnostics
  maxPendingEffects := config.runtime.maxPendingEffects
  pieces := unit.pieces
  values := unit.values
  queues := g.queues
  notices := g.notices

def turns (w : World) : List (UnitId × UnitState × Gathered) :=
  Table.visits (tickUnit w.config w.now) w.units.toList { queues := w.queues }

def turnMachines (config : Config) (now : Tick) (id : UnitId) (unit : UnitState) (g : Gathered) :
    List (Machine UnitHost) :=
  TickState.machines config now unit.environment.threadIds
    { environment := unit.environment, host := hostOf config now id unit g }

def machines (w : World) : List (Machine UnitHost) :=
  w.turns.flatMap fun (id, unit, g) => turnMachines w.config w.now id unit g

theorem tickUnit_eq (config : Config) (now : Tick) (id : UnitId) (unit : UnitState) (g : Gathered) :
    (tickUnit config now id unit g).1 =
      let s := runTick config now unit.environment (hostOf config now id unit g)
      { environment := s.environment, pieces := s.host.pieces.advance, values := s.host.values } :=
  rfl

theorem units_tick_iff {w : World} {id : UnitId} {unit : UnitState} :
    w.tick.2.units[id]? = some unit ↔ ∃ before g, (id, before, g) ∈ w.turns ∧
      unit = (tickUnit w.config w.now id before g).1 :=
  Table.getElem?_mapAccum_iff

theorem reports_mapEntries (config : Config) (now : Tick) (entries : List (UnitId × UnitState))
    (g : Gathered) :
    (Table.mapEntries (tickUnit config now) entries g).2.reports.reverse =
      g.reports.reverse ++ (Table.visits (tickUnit config now) entries g).map fun (id, unit, g) =>
        (id, (runTick config now unit.environment (hostOf config now id unit g)).report) := by
  induction entries generalizing g with
  | nil => simp [Table.mapEntries, Table.visits]
  | cons e rest ih =>
    simp only [Table.mapEntries, Table.visits, ih]
    simp [tickUnit, hostOf]

theorem reports_tick (w : World) :
    w.tick.1 = w.turns.map fun (id, unit, g) =>
      (id, (runTick w.config w.now unit.environment (hostOf w.config w.now id unit g)).report) :=
  reports_mapEntries w.config w.now w.units.toList { queues := w.queues }

variable {w w' : World} {id : UnitId}

theorem unit_eq_ok {unit : UnitState} (h : w.unit id = .ok unit) : w.units[id]? = some unit := by
  unfold World.unit at h
  split at h
  · next found =>
    cases h
    exact found
  · cases h

theorem destroy_eq_ok (h : w.destroy id = .ok w') : w' = { w with units := w.units.erase id } := by
  unfold destroy at h
  cases found : w.unit id with
  | error error => simp [found, bind, Except.bind] at h
  | ok unit =>
    rw [found] at h
    cases h
    rfl

theorem runScript_eq_ok {name : String} {args : List Int32} {thread : ThreadId}
    (h : w.runScript id name args = .ok (thread, w')) :
    ∃ unit environment, w.units[id]? = some unit ∧
      unit.environment.startScript name args = .ok (thread, environment) ∧
      w' = { w with units := w.units.insert id { unit with environment } } := by
  unfold runScript at h
  cases found : w.unit id with
  | error error => simp [found, bind, Except.bind] at h
  | ok unit =>
    rw [found] at h
    simp only [bind, Except.bind] at h
    split at h
    · cases h
    · cases h
    · next thread environment started =>
      cases h
      exact ⟨unit, environment, unit_eq_ok found, started, rfl⟩

theorem sendSignal_eq_ok {signal : UInt32} {threads : List ThreadId}
    (h : w.sendSignal id signal = .ok (threads, w')) :
    ∃ unit, w.units[id]? = some unit ∧ threads = unit.environment.intercepting signal ∧
      w' = { w with
        units := w.units.insert id
          { unit with environment := unit.environment.sendSignal signal } } := by
  unfold sendSignal at h
  cases found : w.unit id with
  | error error => simp [found, bind, Except.bind] at h
  | ok unit =>
    rw [found] at h
    cases h
    exact ⟨unit, unit_eq_ok found, rfl, rfl⟩

@[simp] theorem config_apply (w : World) (op : Operation) : (w.apply op).2.config = w.config := by
  cases op with
  | spawn module => rfl
  | destroy unit =>
    simp only [apply]
    split
    · next destroyed => rw [destroy_eq_ok destroyed]
    · rfl
  | runScript unit name args =>
    simp only [apply]
    split
    · next started =>
      obtain ⟨_, _, -, -, rfl⟩ := runScript_eq_ok started
      rfl
    · rfl
  | sendSignal unit signal =>
    simp only [apply]
    split
    · next signalled =>
      obtain ⟨_, -, -, rfl⟩ := sendSignal_eq_ok signalled
      rfl
    · rfl
  | tick => rfl
  | drainEffects => rfl

theorem after_induction {P : World → Prop} (ops : List Operation) (start : P w)
    (operation : ∀ w op, P w → P (w.apply op).2) : P (w.after ops) := by
  induction ops generalizing w with
  | nil => exact start
  | cons op rest ih => exact ih (operation w op start)

@[simp] theorem config_after (w : World) (ops : List Operation) :
    (w.after ops).config = w.config := by
  refine after_induction (P := fun w' => w'.config = w.config) ops rfl ?_
  intro w' op h
  rw [config_apply, h]

end World

end UnitScript
