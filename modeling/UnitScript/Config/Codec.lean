import UnitScript.Config.Basic
import UnitScript.Json.Basic

namespace UnitScript

namespace OperandOrder

def name : OperandOrder → String
  | .rightOnTop => "RightOnTop"
  | .leftOnTop => "LeftOnTop"

def decode? (reader : Json.Reader) (v : Json) : Option OperandOrder := do
  let name ← v.tag? reader
  [rightOnTop, leftOnTop].find? (·.name = name)

end OperandOrder

namespace DivideByZero

def name : DivideByZero → String
  | .fault => "Fault"
  | .zero => "Zero"

def decode? (reader : Json.Reader) (v : Json) : Option DivideByZero := do
  let name ← v.tag? reader
  [fault, zero].find? (·.name = name)

end DivideByZero

namespace RuntimeConfig

def encode (c : RuntimeConfig) : Json :=
  .obj [
    ("max_call_depth", .ofNat c.maxCallDepth),
    ("max_stack_size", .ofNat c.maxStackSize),
    ("max_instructions_per_run", .ofNat c.maxInstructionsPerRun),
    ("tick_duration_ms", .ofNat c.tickDurationMs.toNat),
    ("seed", .ofNat c.seed.toNat),
    ("max_diagnostics", .ofNat c.maxDiagnostics),
    ("max_pending_effects", .ofNat c.maxPendingEffects)]

def fieldNames : List String :=
  ["max_call_depth", "max_stack_size", "max_instructions_per_run", "tick_duration_ms", "seed",
    "max_diagnostics", "max_pending_effects"]

def decode? (reader : Json.Reader) (v : Json) : Option RuntimeConfig := do
  let fields ← v.record? true reader.surplus fieldNames
  let standard : RuntimeConfig := {}
  return {
    maxCallDepth := ← Json.optional fields "max_call_depth" standard.maxCallDepth Json.size?
    maxStackSize := ← Json.optional fields "max_stack_size" standard.maxStackSize Json.size?
    maxInstructionsPerRun := ←
      Json.optional fields "max_instructions_per_run" standard.maxInstructionsPerRun Json.size?
    tickDurationMs := ←
      Json.optional fields "tick_duration_ms" standard.tickDurationMs Json.uint32?
    seed := ← Json.optional fields "seed" standard.seed Json.uint64?
    maxDiagnostics := ← Json.optional fields "max_diagnostics" standard.maxDiagnostics Json.size?
    maxPendingEffects := ←
      Json.optional fields "max_pending_effects" standard.maxPendingEffects Json.size?
  }

end RuntimeConfig

namespace SemanticsConfig

def encode (c : SemanticsConfig) : Json :=
  .obj [
    ("operand_order", .str c.operandOrder.name),
    ("divide_by_zero", .str c.divideByZero.name)]

def fieldNames : List String := ["operand_order", "divide_by_zero"]

def decode? (reader : Json.Reader) (v : Json) : Option SemanticsConfig := do
  let fields ← v.record? true reader.surplus fieldNames
  let standard : SemanticsConfig := {}
  return {
    operandOrder := ←
      Json.optional fields "operand_order" standard.operandOrder (OperandOrder.decode? reader)
    divideByZero := ←
      Json.optional fields "divide_by_zero" standard.divideByZero (DivideByZero.decode? reader)
  }

end SemanticsConfig

namespace Config

def encode (c : Config) : Json :=
  .obj [("runtime", c.runtime.encode), ("semantics", c.semantics.encode)]

def fieldNames : List String := ["runtime", "semantics"]

def decode? (reader : Json.Reader) (v : Json) : Option Config := do
  let fields ← v.record? true reader.surplus fieldNames
  return {
    runtime := ← Json.optional fields "runtime" {} (RuntimeConfig.decode? reader)
    semantics := ← Json.optional fields "semantics" {} (SemanticsConfig.decode? reader)
  }

end Config

end UnitScript
