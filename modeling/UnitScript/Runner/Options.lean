import UnitScript.Config.Basic

namespace UnitScript

namespace Runner

inductive UsageError
  | unknownFlag (arg : String)
  | missingValue (flag : String)
  | unneededValue (flag : String)
  | badValue (flag value : String)
  | repeated (flag : String)
  | extraArgument (arg : String)
  | missingModule
  deriving DecidableEq

def UsageError.message : UsageError → String
  | .unknownFlag arg => s!"unexpected argument {arg}"
  | .missingValue flag => s!"a value is required for --{flag}"
  | .unneededValue flag => s!"no value is taken by --{flag}"
  | .badValue flag value => s!"invalid value {value} for {flag}"
  | .repeated flag => s!"--{flag} cannot be used more than once"
  | .extraArgument arg => s!"unexpected argument {arg}"
  | .missingModule => "a module is required"

structure Options where
  module : String
  configFile : Option String
  units : UInt32
  scripts : List String
  ticks : UInt64
  seed : Option UInt64
  tickDurationMs : Option UInt32
  maxInstructionsPerRun : Option Nat
  maxCallDepth : Option Nat
  operandOrder : Option OperandOrder
  divideByZero : Option DivideByZero
  debug : Bool
  deriving DecidableEq

def Options.override (o : Options) (config : Config) : Config where
  runtime :=
    { config.runtime with
      seed := o.seed.getD config.runtime.seed
      tickDurationMs := o.tickDurationMs.getD config.runtime.tickDurationMs
      maxInstructionsPerRun := o.maxInstructionsPerRun.getD config.runtime.maxInstructionsPerRun
      maxCallDepth := o.maxCallDepth.getD config.runtime.maxCallDepth }
  semantics :=
    { operandOrder := o.operandOrder.getD config.semantics.operandOrder
      divideByZero := o.divideByZero.getD config.semantics.divideByZero }

def digits? (text : List Char) : Option Nat :=
  if text ≠ [] ∧ text.all Char.isDigit then
    some (text.foldl (fun n d => 10 * n + (d.toNat - '0'.toNat)) 0)
  else none

def natural? (bound : Nat) (text : String) : Option Nat :=
  let digits :=
    match text.toList with
    | '+' :: rest => rest
    | rest => rest
  (digits? digits).filter (· < bound)

/-- A natural number below a bound, where zero may also be written with a minus sign. -/
def signed? (bound : Nat) (text : String) : Option Nat :=
  match text.toList with
  | '-' :: rest => (digits? rest).filter (· = 0)
  | _ => natural? bound text

def operandOrder? : String → Option OperandOrder
  | "right-on-top" => some .rightOnTop
  | "left-on-top" => some .leftOnTop
  | _ => none

def divideByZero? : String → Option DivideByZero
  | "fault" => some .fault
  | "zero" => some .zero
  | _ => none

def path? (text : String) : Option String := if text.isEmpty then none else some text

structure Draft where
  module : Option String := none
  configFile : Option String := none
  units : Option UInt32 := none
  scripts : Array String := #[]
  ticks : Option UInt64 := none
  seed : Option UInt64 := none
  tickDurationMs : Option UInt32 := none
  maxInstructionsPerRun : Option Nat := none
  maxCallDepth : Option Nat := none
  operandOrder : Option OperandOrder := none
  divideByZero : Option DivideByZero := none
  debug : Bool := false
  deriving DecidableEq

inductive Flag
  | configFile
  | units
  | run
  | ticks
  | seed
  | tickDurationMs
  | maxInstructionsPerRun
  | maxCallDepth
  | operandOrder
  | divideByZero
  deriving DecidableEq

namespace Flag

def name : Flag → String
  | .configFile => "config-file"
  | .units => "units"
  | .run => "run"
  | .ticks => "ticks"
  | .seed => "seed"
  | .tickDurationMs => "tick-duration-ms"
  | .maxInstructionsPerRun => "max-instructions-per-run"
  | .maxCallDepth => "max-call-depth"
  | .operandOrder => "operand-order"
  | .divideByZero => "divide-by-zero"

def all : List Flag :=
  [configFile, units, run, ticks, seed, tickDurationMs, maxInstructionsPerRun, maxCallDepth,
    operandOrder, divideByZero]

def ofName? (name : String) : Option Flag := all.find? (·.name = name)

end Flag

namespace Draft

def once {α : Type} (flag : Flag) (given : Option α) (read : String → Option α) (value : String) :
    Except UsageError (Option α) :=
  if given.isSome then .error (.repeated flag.name)
  else
    match read value with
    | some a => .ok (some a)
    | none => .error (.badValue flag.name value)

def set (d : Draft) (flag : Flag) (value : String) : Except UsageError Draft := do
  match flag with
  | .configFile => return { d with configFile := ← once flag d.configFile path? value }
  | .units =>
    return { d with
      units := ← once flag d.units (fun s => (signed? UInt32.size s).map .ofNat) value }
  | .run => return { d with scripts := d.scripts.push value }
  | .ticks =>
    return { d with
      ticks := ← once flag d.ticks (fun s => (natural? UInt64.size s).map .ofNat) value }
  | .seed =>
    return { d with
      seed := ← once flag d.seed (fun s => (natural? UInt64.size s).map .ofNat) value }
  | .tickDurationMs =>
    return { d with
      tickDurationMs := ←
        once flag d.tickDurationMs (fun s => (signed? UInt32.size s).map .ofNat) value }
  | .maxInstructionsPerRun =>
    return { d with
      maxInstructionsPerRun := ←
        once flag d.maxInstructionsPerRun (natural? UInt64.size) value }
  | .maxCallDepth =>
    return { d with
      maxCallDepth := ← once flag d.maxCallDepth (natural? UInt64.size) value }
  | .operandOrder =>
    return { d with operandOrder := ← once flag d.operandOrder operandOrder? value }
  | .divideByZero =>
    return { d with divideByZero := ← once flag d.divideByZero divideByZero? value }

def setDebug (d : Draft) : Except UsageError Draft :=
  if d.debug then .error (.repeated "debug") else .ok { d with debug := true }

def addPositional (d : Draft) (arg : String) : Except UsageError Draft :=
  match d.module, path? arg with
  | some _, _ => .error (.extraArgument arg)
  | none, some path => .ok { d with module := some path }
  | none, none => .error (.badValue "module" arg)

def finish (d : Draft) : Except UsageError Options :=
  match d.module with
  | none => .error .missingModule
  | some module => .ok {
      module
      configFile := d.configFile
      units := d.units.getD 1
      scripts := if d.scripts.isEmpty then ["Create"] else d.scripts.toList
      ticks := d.ticks.getD 30
      seed := d.seed
      tickDurationMs := d.tickDurationMs
      maxInstructionsPerRun := d.maxInstructionsPerRun
      maxCallDepth := d.maxCallDepth
      operandOrder := d.operandOrder
      divideByZero := d.divideByZero
      debug := d.debug }

end Draft

inductive Shape
  | positional
  | endOfFlags
  | version
  | long (name : String) (value : Option String)
  | short
  deriving DecidableEq

def shape (arg : String) : Shape :=
  match arg.toList with
  | ['-', '-'] => .endOfFlags
  | '-' :: '-' :: rest =>
    match rest.span (· ≠ '=') with
    | (name, []) => .long (String.ofList name) none
    | (name, _ :: value) => .long (String.ofList name) (some (String.ofList value))
  | '-' :: 'V' :: _ => .version
  | '-' :: _ :: _ => .short
  | _ => .positional

inductive Request
  | version
  | simulate (options : Options)
  deriving DecidableEq

/-- Read the arguments that are left; `ended` says that no more flags can come. -/
def readArgs (ended : Bool) (d : Draft) : List String → Except UsageError Request
  | [] => do return .simulate (← d.finish)
  | arg :: rest =>
    match if ended then Shape.positional else shape arg with
    | .positional => do readArgs ended (← d.addPositional arg) rest
    | .endOfFlags => readArgs true d rest
    | .version => .ok .version
    | .short => .error (.unknownFlag arg)
    | .long "version" none => .ok .version
    | .long "debug" none => do readArgs ended (← d.setDebug) rest
    | .long "version" (some _) => .error (.unneededValue "version")
    | .long "debug" (some _) => .error (.unneededValue "debug")
    | .long name value =>
      match Flag.ofName? name, value with
      | none, _ => .error (.unknownFlag arg)
      | some flag, some value => do readArgs ended (← d.set flag value) rest
      | some flag, none =>
        match rest with
        | [] => .error (.missingValue name)
        | value :: rest =>
          if shape value = .positional then do readArgs ended (← d.set flag value) rest
          else .error (.missingValue name)

def parseArgs (args : List String) : Except UsageError Request := readArgs false {} args

end Runner

end UnitScript
