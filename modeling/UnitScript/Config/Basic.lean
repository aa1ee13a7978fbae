namespace UnitScript

abbrev Tick := UInt64

inductive OperandOrder
  | rightOnTop
  | leftOnTop
  deriving DecidableEq

inductive DivideByZero
  | fault
  | zero
  deriving DecidableEq

structure RuntimeConfig where
  maxCallDepth : Nat := 64
  maxStackSize : Nat := 1024
  maxInstructionsPerRun : Nat := 100000
  tickDurationMs : UInt32 := 33
  seed : UInt64 := 0
  maxDiagnostics : Nat := 100
  maxPendingEffects : Nat := 10000
  deriving DecidableEq

structure SemanticsConfig where
  operandOrder : OperandOrder := .rightOnTop
  divideByZero : DivideByZero := .fault
  deriving DecidableEq

structure Config where
  runtime : RuntimeConfig := {}
  semantics : SemanticsConfig := {}
  deriving DecidableEq

/-- How many ticks a sleep of `ms` milliseconds lasts: whole ticks that cover it, and never less
than one, so that a sleep always yields. -/
def RuntimeConfig.sleepTicks (config : RuntimeConfig) (ms : Int32) : Tick :=
  let tick := max 1 config.tickDurationMs.toNat
  UInt64.ofNat (max 1 ((ms.toInt.toNat + (tick - 1)) / tick))

end UnitScript
