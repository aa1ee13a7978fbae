import UnitScript.Main
import UnitScript.Module.Builder
import UnitScript.Proofs.Interpreter.Budget
import UnitScript.Proofs.Interpreter.Entry
import UnitScript.Proofs.Interpreter.Expression
import UnitScript.Proofs.Interpreter.InPlace
import UnitScript.Proofs.Interpreter.Signals
import UnitScript.Proofs.Module.Assembly
import UnitScript.Proofs.Module.Codec
import UnitScript.Proofs.Module.Lookup
import UnitScript.Proofs.Module.Symbols
import UnitScript.Proofs.Module.Validation
import UnitScript.Proofs.Piece.Independence
import UnitScript.Proofs.Piece.Slide
import UnitScript.Proofs.Random.Uniform
import UnitScript.Proofs.Runner.Simulation
import UnitScript.Proofs.Tick.Limits
import UnitScript.Proofs.Tick.Pieces
import UnitScript.Proofs.World.Arrival
import UnitScript.Proofs.World.Calls
import UnitScript.Proofs.World.Effects
import UnitScript.Proofs.World.History
import UnitScript.Proofs.World.Identifiers
import UnitScript.Proofs.World.Interference
import UnitScript.Proofs.World.Ledger
import UnitScript.Proofs.World.Limits
import UnitScript.Proofs.World.Mirror
import UnitScript.Proofs.World.Queues
import UnitScript.Proofs.World.Refusal
import UnitScript.Proofs.World.Safety
import UnitScript.Proofs.World.Sleep
import UnitScript.Proofs.World.Solo
import UnitScript.Sandbox
