import UnitScript.Queue
import UnitScript.Tick

/-!
A simulation of units, each with an environment, pieces and values of its own, that goes on one tick
at a time. What scripts do beyond their own unit is queued as effects for whoever runs the
simulation, and faults are kept as diagnostics; both queues are bounded and drop their oldest
entries.
-/

namespace UnitScript

def unitName (unit : UnitId) : String := s!"unit:{unit}"

def threadName (thread : ThreadId) : String := s!"#{thread}"

structure Effect where
  unit : UnitId
  act : Act
  deriving DecidableEq

structure Diagnostic where
  tick : Tick
  unit : UnitId
  thread : ThreadId
  fault : Fault
  deriving DecidableEq

inductive Notice
  | faulted (unit : UnitId) (thread : ThreadId) (fault : Fault)
  | effectsFull (unit : UnitId)
  deriving DecidableEq

structure UnitState where
  environment : Environment
  pieces : PieceSet
  values : Table Int32 Int32 := ∅
  deriving DecidableEq

def UnitState.value (u : UnitState) (key : Int32) : Int32 := u.values[key]?.getD 0

structure Queues where
  effects : Queue Effect := ∅
  diagnostics : Queue Diagnostic := ∅
  deriving DecidableEq

structure UnitHost where
  unit : UnitId
  now : Tick
  maxDiagnostics : Nat
  maxPendingEffects : Nat
  pieces : PieceSet
  values : Table Int32 Int32
  queues : Queues
  /-- Latest first. -/
  notices : List Notice
  deriving DecidableEq

namespace UnitHost

def record (h : UnitHost) (act : Act) : UnitHost :=
  let full := h.maxPendingEffects ≠ 0 ∧ h.maxPendingEffects ≤ h.queues.effects.size
  { h with
    notices := if full then .effectsFull h.unit :: h.notices else h.notices
    queues :=
      { h.queues with
        effects := h.queues.effects.pushWithin h.maxPendingEffects ⟨h.unit, act⟩ } }

def reportFault (h : UnitHost) (thread : ThreadId) (fault : Fault) : UnitHost :=
  { h with
    notices := .faulted h.unit thread fault :: h.notices
    queues :=
      { h.queues with
        diagnostics :=
          h.queues.diagnostics.pushWithin h.maxDiagnostics ⟨h.now, h.unit, thread, fault⟩ } }

instance : Host UnitHost where
  pieces h := h.pieces
  request id request h := { h with pieces := h.pieces.perform id request }
  act act h := h.record act
  value key h := h.values[key]?.getD 0
  setValue key value h := { h with values := h.values.insert key value }
  reportFault thread fault h := h.reportFault thread fault

end UnitHost

inductive WorldError
  | unknownUnit (unit : UnitId)
  | module (error : ModuleError)
  | badArguments (name : String) (fault : FaultKind)
  | staticOutOfRange (unit : UnitId) (slot : Nat)
  deriving DecidableEq

def WorldError.message : WorldError → String
  | .unknownUnit unit => s!"No such unit: {unitName unit}"
  | .module error => error.message
  | .badArguments name fault => s!"Cannot start {name}: {fault.message}"
  | .staticOutOfRange unit slot => s!"Static slot {slot} out of range for {unitName unit}"

structure World where
  config : Config
  units : Table UnitId UnitState := ∅
  nextUnit : UnitId := 1
  now : Tick := 0
  queues : Queues := {}
  deriving DecidableEq

namespace World

def create (config : Config) : World := { config }

def spawn (w : World) (module : Module) : UnitId × World :=
  let unit : UnitState :=
    { environment := .create module w.nextUnit w.config.runtime.seed
      pieces := .ofCount module.pieceCount }
  (w.nextUnit, { w with units := w.units.insert w.nextUnit unit, nextUnit := w.nextUnit + 1 })

def unit (w : World) (id : UnitId) : Except WorldError UnitState :=
  match w.units[id]? with
  | some unit => .ok unit
  | none => .error (.unknownUnit id)

def destroy (w : World) (id : UnitId) : Except WorldError World := do
  let _ ← w.unit id
  return { w with units := w.units.erase id }

def unitIds (w : World) : List UnitId := w.units.keys

/-- Start a thread at a named entry point of a unit. Its first turn is in the next tick. -/
def runScript (w : World) (id : UnitId) (name : String) (args : List Int32) :
    Except WorldError (ThreadId × World) := do
  let unit ← w.unit id
  match unit.environment.startScript name args with
  | .error (.module error) => .error (.module error)
  | .error (.thread fault) => .error (.badArguments name fault)
  | .ok (thread, environment) =>
    return (thread, { w with units := w.units.insert id { unit with environment } })

def sendSignal (w : World) (id : UnitId) (signal : UInt32) :
    Except WorldError (List ThreadId × World) := do
  let unit ← w.unit id
  let environment := unit.environment.sendSignal signal
  return (unit.environment.intercepting signal,
    { w with units := w.units.insert id { unit with environment } })

def staticVariable (w : World) (id : UnitId) (slot : Nat) : Except WorldError Int32 := do
  let unit ← w.unit id
  match unit.environment.getStatic slot with
  | .ok value => return value
  | .error _ => .error (.staticOutOfRange id slot)

def pieceOf (w : World) (id : UnitId) (name : String) :
    Except WorldError (UnitState × PieceId) := do
  let unit ← w.unit id
  match unit.environment.module.pieceIndex name with
  | .ok piece => return (unit, piece)
  | .error error => .error (.module error)

def isPieceInMotion (w : World) (motion : Motion) (id : UnitId) (name : String) (axis : Axis) :
    Except WorldError Bool := do
  let (unit, piece) ← w.pieceOf id name
  return unit.pieces.isInMotion motion piece axis

def pieceState (w : World) (id : UnitId) (name : String) : Except WorldError Piece := do
  let (unit, piece) ← w.pieceOf id name
  match unit.pieces.piece? piece with
  | some state => return state
  | none => .error (.module (.unknownPiece name))

structure Gathered where
  queues : Queues
  notices : List Notice := []
  /-- Latest first. -/
  reports : List (UnitId × TickReport) := []

def tickUnit (config : Config) (now : Tick) (id : UnitId) (unit : UnitState) (g : Gathered) :
    UnitState × Gathered :=
  let host : UnitHost :=
    { unit := id, now
      maxDiagnostics := config.runtime.maxDiagnostics
      maxPendingEffects := config.runtime.maxPendingEffects
      pieces := unit.pieces, values := unit.values
      queues := g.queues, notices := g.notices }
  let s := runTick config now unit.environment host
  ({ environment := s.environment, pieces := s.host.pieces.advance, values := s.host.values },
    { queues := s.host.queues, notices := s.host.notices
      reports := (id, s.report) :: g.reports })

def tickWithNotices (w : World) : List (UnitId × TickReport) × List Notice × World :=
  let (units, g) := w.units.mapAccum (tickUnit w.config w.now) { queues := w.queues }
  (g.reports.reverse, g.notices.reverse, { w with units, queues := g.queues, now := w.now + 1 })

def tick (w : World) : List (UnitId × TickReport) × World :=
  let (reports, _, w) := w.tickWithNotices
  (reports, w)

def drainEffects (w : World) : List Effect × World :=
  (w.queues.effects.toList, { w with queues := { w.queues with effects := ∅ } })

def diagnostics (w : World) : List Diagnostic := w.queues.diagnostics.toList

end World

end UnitScript
