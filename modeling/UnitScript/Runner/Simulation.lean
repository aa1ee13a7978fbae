import UnitScript.Config.Codec
import UnitScript.Format
import UnitScript.Module.Codec
import UnitScript.Runner.Options
import UnitScript.Text.Quoted
import UnitScript.World

namespace UnitScript

namespace Runner

def versionLine : String := "armature-run 0.1.0"

inductive RunError
  | configParse (path : String)
  | moduleParse (path : String)
  | invalidModule (path : String) (error : ModuleError)
  | world (error : WorldError)
  deriving DecidableEq

def RunError.messages : RunError → List String
  | .configParse path => [s!"Failed to parse configuration from {Text.quoted path}"]
  | .moduleParse path => [s!"Failed to parse module from {Text.quoted path}"]
  | .invalidModule path error => [s!"Invalid module {Text.quoted path}", error.message]
  | .world error => [error.message]

/-- The files that a run can read, by path. One that does not exist is taken for an empty one. -/
abbrev Files := String → Option String

def loadConfig (o : Options) (files : Files) : Except RunError Config :=
  match o.configFile with
  | none => .ok (o.override {})
  | some path =>
    match (Format.yaml.parse? ((files path).getD "")).bind (Config.decode? .first) with
    | some config => .ok (o.override config)
    | none => .error (.configParse path)

def loadModule (o : Options) (files : Files) : Except RunError Module :=
  let text := (files o.module).getD ""
  match ((Format.ofPath o.module).parse? text).bind (ModuleDefinition.decode? .first) with
  | none => .error (.moduleParse o.module)
  | some definition =>
    match Module.ofDefinition definition with
    | .ok module => .ok module
    | .error error => .error (.invalidModule o.module error)

inductive Level
  | info
  | warn
  deriving DecidableEq

def Level.name : Level → String
  | .info => "INFO"
  | .warn => "WARN"

inductive Line
  | log (level : Level) (text : String)
  | report (text : String)
  deriving DecidableEq

def Line.text : Line → String
  | .log level text => s!"{level.name} {text}"
  | .report text => text

def Line.isReport : Line → Bool
  | .log .. => false
  | .report _ => true

def info (text : String) : Line := .log .info text

def warn (text : String) : Line := .log .warn text

def noticeLine : Notice → Line
  | .faulted unit thread fault =>
    let place := s!"unit={unitName unit} thread={threadName thread} ip={fault.ip}"
    warn s!"thread faulted {place} fault={fault.kind.message}"
  | .effectsFull unit => warn s!"effect queue full, dropping oldest unit={unitName unit}"

def pieceField (module : Module) (piece : PieceId) : String :=
  match module.pieceName? piece with
  | some name => s!" piece={Text.quoted name}"
  | none => ""

def burstName : Burst → String
  | .explosion => "explode"
  | .smoke => "smoke"

def effectLine (module : Module) (effect : Effect) : Line :=
  let unit := unitName effect.unit
  match effect.act with
  | .burst burst piece kind =>
    info s!"{burstName burst} unit={unit}{pieceField module piece} kind={kind}"
  | .attachUnit piece passenger =>
    info s!"attach unit={unit}{pieceField module piece} passenger={passenger}"
  | .detachUnit passenger => info s!"detach unit={unit} passenger={passenger}"

def startScripts (module : Module) (unit : UnitId) :
    List String → World → Array Line → Except WorldError (World × Array Line)
  | [], w, out => .ok (w, out)
  | name :: names, w, out =>
    if module.hasEntryPoint name then do
      let (_, w) ← w.runScript unit name []
      startScripts module unit names w out
    else
      startScripts module unit names w
        (out.push (warn s!"no such entry point, skipping unit={unitName unit} script={name}"))

def spawnUnits (module : Module) (scripts : List String) :
    Nat → World → Array Line → Except WorldError (World × Array Line)
  | 0, w, out => .ok (w, out)
  | count + 1, w, out => do
    let (unit, w) := w.spawn module
    let out := out.push (info s!"unit spawned unit={unitName unit}")
    let (w, out) ← startScripts module unit scripts w out
    spawnUnits module scripts count w out

def runTicks (module : Module) : Nat → World → Array Line → World × Array Line
  | 0, w, out => (w, out)
  | count + 1, w, out =>
    let (_, notices, w) := w.tickWithNotices
    let (effects, w) := w.drainEffects
    runTicks module count w
      (out ++ notices.map noticeLine ++ effects.map (effectLine module))

def pieceLine (name : String) (p : Piece) : String :=
  let position := Text.bracketed (p.linear.toList.map fun s => toString s.position)
  let rotation :=
    Text.bracketed (p.angular.toList.map fun s => toString (FixedPoint.ofAngle s.rotation))
  let hidden := if p.visible then "" else " (hidden)"
  s!"  {name}: position {position} rotation {rotation}{hidden}"

def unitLine (unit : UnitId) (e : Environment) : String :=
  let statics := Text.bracketed (e.statics.toList.map toString)
  s!"{unitName unit}: {e.liveThreads} live thread(s), statics {statics}"

def pieceLines (module : Module) (u : UnitState) : List String :=
  (List.range module.pieceCount).filterMap fun index =>
    let piece : PieceId := ⟨UInt16.ofNat index⟩
    (u.pieces.piece? piece).map (pieceLine ((module.pieceName? piece).getD "?"))

def diagnosticLine (d : Diagnostic) : String :=
  s!"fault at tick {d.tick}: {unitName d.unit} thread {threadName d.thread}: {d.fault.message}"

def report (module : Module) (w : World) : Except WorldError (List String) := do
  let units ← w.unitIds.mapM fun id => do
    let unit ← w.unit id
    return unitLine id unit.environment :: pieceLines module unit
  return units.flatten ++ w.diagnostics.map diagnosticLine

def simulate (o : Options) (config : Config) (module : Module) :
    Except WorldError (List Line) := do
  let sizes := s!"scripts={module.scriptCount} pieces={module.pieceCount}"
  let loaded := info s!"module loaded module={Text.quoted o.module} {sizes}"
  let (w, out) ← spawnUnits module o.scripts o.units.toNat (.create config) #[loaded]
  let (w, out) := runTicks module o.ticks.toNat w out
  let finished := info s!"simulation finished ticks={o.ticks} units={o.units}"
  return out.toList ++ [finished] ++ (← report module w).map .report

/-- Load what the options name and run it. The configuration is looked at before the module. -/
def run (o : Options) (files : Files) : Except RunError (List Line) := do
  let config ← loadConfig o files
  let module ← loadModule o files
  (simulate o config module).mapError .world

end Runner

end UnitScript
