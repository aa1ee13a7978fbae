import UnitScript.Proofs.InPlace
import UnitScript.Proofs.Interpreter.Entry
import UnitScript.Proofs.World.Ledger
import UnitScript.Proofs.World.Safety

namespace UnitScript

namespace Environment

/-- Start a thread, part by part: its number is used up before it is in the table. -/
def createThreadInPlace (script : ScriptId) (args : List Int32) (mask : UInt32) :
    InPlace FaultKind Environment ThreadId := do
  match (← get).module.script? script with
  | none => throw (.unknownScript script)
  | some entry =>
    if entry.locals.toNat < args.length then throw (.outOfRange args.length entry.locals.toNat)
    else
      let id := (← get).nextThread
      modify fun e => { e with nextThread := e.nextThread + 1 }
      modify fun e => { e with threads := e.threads.insert id (.start id script entry args mask) }
      return id

def startScriptInPlace (name : String) (args : List Int32) :
    InPlace StartError Environment ThreadId := do
  match (← get).module.entryPoint name with
  | .error error => throw (.module error)
  | .ok script => ExceptT.adapt .thread (createThreadInPlace script args 0)

def signalInPlace (signal : UInt32) : InPlace Empty Environment (List ThreadId) := do
  let threads := (← get).intercepting signal
  threads.forM fun thread => modify (·.detach thread)
  return threads

theorem on_createThreadInPlace (e : Environment) (script : ScriptId) (args : List Int32)
    (mask : UInt32) :
    (createThreadInPlace script args mask).on e =
      InPlace.settle e (e.createThread script args mask) := by
  rw [createThreadInPlace, InPlace.on_get_bind]
  cases declared : e.module.script? script with
  | none =>
    simp only [createThread, prepare, declared]
    rfl
  | some entry =>
    rw [createThread_of_script? declared]
    by_cases surplus : entry.locals.toNat < args.length
    · simp only [surplus]
      rfl
    · simp only [surplus]
      rfl

theorem on_startScriptInPlace (e : Environment) (name : String) (args : List Int32) :
    (startScriptInPlace name args).on e = InPlace.settle e (e.startScript name args) := by
  rw [startScriptInPlace, InPlace.on_get_bind, startScript]
  cases e.module.entryPoint name with
  | error error => rfl
  | ok script =>
    change (((createThreadInPlace script args 0).on e).1.mapError StartError.thread,
      ((createThreadInPlace script args 0).on e).2) = _
    rw [on_createThreadInPlace]
    dsimp only
    cases e.createThread script args 0 <;> rfl

theorem foldl_detach (e : Environment) (ids : List ThreadId) :
    ids.foldl detach e = { e with threads := ids.foldl (·.erase ·) e.threads } := by
  induction ids generalizing e with
  | nil => rfl
  | cons id rest ih => exact ih (e.detach id)

theorem thread?_foldl_detach (e : Environment) (ids : List ThreadId) (id : ThreadId) :
    (ids.foldl detach e).thread? id = if id ∈ ids then none else e.thread? id := by
  induction ids generalizing e with
  | nil => rfl
  | cons first rest ih =>
    rw [List.foldl_cons, ih, thread?_detach]
    by_cases later : id ∈ rest
    · simp [later]
    · simp [later, eq_comm]

theorem foldl_detach_intercepting (e : Environment) (signal : UInt32) :
    (e.intercepting signal).foldl detach e = e.sendSignal signal := by
  have threads : ((e.intercepting signal).foldl detach e).threads =
      (e.sendSignal signal).threads := by
    apply Std.ExtTreeMap.ext_getElem?
    intro id
    change ((e.intercepting signal).foldl detach e).thread? id = (e.sendSignal signal).thread? id
    rw [thread?_foldl_detach, thread?_sendSignal]
    simp only [mem_intercepting]
    cases e.thread? id with
    | none => simp
    | some t => cases h : t.intercepts signal <;> simp [h, Option.filter_some]
  rw [foldl_detach] at threads ⊢
  exact congrArg (fun threads => { e with threads }) threads

theorem on_forM_detach (ids : List ThreadId) (k : InPlace Empty Environment (List ThreadId))
    (e : Environment) :
    InPlace.on (do ids.forM fun id => modify (·.detach id); k) e = k.on (ids.foldl detach e) := by
  induction ids generalizing e with
  | nil => rfl
  | cons id rest ih => exact ih (e.detach id)

theorem on_signalInPlace (e : Environment) (signal : UInt32) :
    (signalInPlace signal).on e =
      InPlace.settle e (.ok (e.intercepting signal, e.sendSignal signal)) := by
  rw [signalInPlace, InPlace.on_get_bind, on_forM_detach, foldl_detach_intercepting]
  rfl

theorem startScript_eq_error_iff {e : Environment} {name : String} {args : List Int32}
    {error : StartError} :
    e.startScript name args = .error error ↔
      (∀ entry ∈ e.module.definition.scripts, entry.name ≠ name) ∧
          error = .module (.unknownEntryPoint name) ∨
        ∃ entry ∈ e.module.definition.scripts, entry.name = name ∧
          entry.locals.toNat < args.length ∧
          error = .thread (.outOfRange args.length entry.locals.toNat) := by
  cases found : e.module.entryPoint name with
  | error moduleError =>
    obtain ⟨missing, rfl⟩ := Module.entryPoint_eq_error_iff.mp found
    rw [startScript, found]
    simp only [Except.error.injEq]
    constructor
    · rintro rfl
      exact .inl ⟨missing, rfl⟩
    · rintro (⟨-, rfl⟩ | ⟨entry, member, same, -⟩)
      · rfl
      · exact absurd same (missing entry member)
  | ok script =>
    obtain ⟨entry, declared, rfl⟩ := Module.entryPoint_eq_ok_iff.mp found
    have member := Module.mem_scripts_iff.mpr ⟨script, declared⟩
    rw [(admits declared).notStarted]
    constructor
    · rintro ⟨surplus, rfl⟩
      exact .inr ⟨entry, member, rfl, surplus, rfl⟩
    · rintro (⟨missing, -⟩ | ⟨other, declared', same, surplus, rfl⟩)
      · exact absurd rfl (missing entry member)
      · have only : other = entry := List.inj_on_of_nodup_map e.module.valid.scripts_distinct
          declared'.val member.val same
        exact only ▸ ⟨surplus, rfl⟩

end Environment

theorem Ledger.Balanced.next_unused {l : Ledger} {e : Environment} (h : l.Balanced e) :
    e.nextThread.toNat = l.started.length + 1 ∧ e.nextThread ∉ l.started ∧
      e.thread? e.nextThread = none := by
  refine ⟨h.filed.nextThread, ?_, h.filed.fresh.vacant⟩
  rw [h.mem_started_iff]
  exact fun used => UInt64.lt_irrefl _ used.2

def StartError.inWorld (name : String) : StartError → WorldError
  | .module error => .module error
  | .thread fault => .badArguments name fault

namespace World

inductive Demand
  | presence
  | start (name : String) (args : List Int32)
  | static (slot : Nat)
  | piece (name : String)

inductive Lacks (id : UnitId) (unit : UnitState) : Demand → WorldError → Prop
  | entryPoint {name : String} {args : List Int32} :
    (∀ entry ∈ unit.environment.module.definition.scripts, entry.name ≠ name) →
      Lacks id unit (.start name args) (.module (.unknownEntryPoint name))
  | locals {name : String} {args : List Int32} {entry : EntryPoint} :
    entry ∈ unit.environment.module.definition.scripts → entry.name = name →
      entry.locals.toNat < args.length →
      Lacks id unit (.start name args)
        (.badArguments name (.outOfRange args.length entry.locals.toNat))
  | static {slot : Nat} : unit.environment.module.staticCount ≤ slot →
    Lacks id unit (.static slot) (.staticOutOfRange id slot)
  | piece {name : String} : name ∉ unit.environment.module.definition.pieces →
    Lacks id unit (.piece name) (.module (.unknownPiece name))

/-- Why an operation on a unit fails: there is no such unit, or it lacks what is needed. -/
inductive Refuses (w : World) (id : UnitId) (demand : Demand) : WorldError → Prop
  | unknownUnit : w.units[id]? = none → Refuses w id demand (.unknownUnit id)
  | lacks {unit : UnitState} {error : WorldError} : w.units[id]? = some unit →
    Lacks id unit demand error → Refuses w id demand error

variable {w : World} {id : UnitId} {unit : UnitState} {demand : Demand} {error : WorldError}

theorem refuses_presence_iff :
    w.Refuses id .presence error ↔ w.units[id]? = none ∧ error = .unknownUnit id := by
  constructor
  · rintro (missing | ⟨-, lacks⟩)
    · exact ⟨missing, rfl⟩
    · cases lacks
  · rintro ⟨missing, rfl⟩
    exact .unknownUnit missing

theorem unit_of_missing (missing : w.units[id]? = none) :
    w.unit id = .error (.unknownUnit id) := by
  rw [World.unit, missing]

theorem unit_of_found (live : w.units[id]? = some unit) : w.unit id = .ok unit := by
  rw [World.unit, live]

theorem bind_unit_eq_error_iff {α : Type} {next : UnitState → Except WorldError α}
    (h : ∀ unit, w.units[id]? = some unit →
      (next unit = .error error ↔ Lacks id unit demand error)) :
    (w.unit id >>= next) = .error error ↔ w.Refuses id demand error := by
  cases live : w.units[id]? with
  | none =>
    rw [unit_of_missing live]
    constructor
    · rintro ⟨⟩
      exact .unknownUnit live
    · rintro (missing | ⟨there, -⟩)
      · rfl
      · rw [live] at there
        cases there
  | some unit =>
    rw [unit_of_found live]
    refine (h unit live).trans ⟨.lacks live, ?_⟩
    rintro (missing | ⟨there, lacks⟩)
    · rw [live] at missing
      cases missing
    · cases live.symm.trans there
      exact lacks

theorem destroy_eq_error_iff :
    w.destroy id = .error error ↔ w.Refuses id .presence error :=
  bind_unit_eq_error_iff fun _ _ => ⟨nofun, nofun⟩

theorem sendSignal_eq_error_iff {signal : UInt32} :
    w.sendSignal id signal = .error error ↔ w.Refuses id .presence error :=
  bind_unit_eq_error_iff fun _ _ => ⟨nofun, nofun⟩

theorem lacks_start_iff {name : String} {args : List Int32} :
    Lacks id unit (.start name args) error ↔
      ∃ cause, unit.environment.startScript name args = .error cause ∧
        error = cause.inWorld name := by
  constructor
  · rintro (missing | ⟨member, same, surplus⟩)
    · exact ⟨_, Environment.startScript_eq_error_iff.mpr (.inl ⟨missing, rfl⟩), rfl⟩
    · have cause := Environment.startScript_eq_error_iff.mpr
        (.inr ⟨_, member, same, surplus, rfl⟩)
      exact ⟨_, cause, rfl⟩
  · rintro ⟨cause, failed, rfl⟩
    obtain ⟨missing, rfl⟩ | ⟨entry, member, same, surplus, rfl⟩ :=
      Environment.startScript_eq_error_iff.mp failed
    · exact .entryPoint missing
    · exact .locals member same surplus

def withEnvironment {ε α : Type} (w : World) (id : UnitId) (inWorld : ε → WorldError)
    (f : Environment → Except ε (α × Environment)) : Except WorldError (α × World) := do
  let unit ← w.unit id
  match f unit.environment with
  | .ok (a, environment) =>
    return (a, { w with units := w.units.insert id { unit with environment } })
  | .error cause => .error (inWorld cause)

theorem runScript_eq (w : World) (id : UnitId) (name : String) (args : List Int32) :
    w.runScript id name args = w.withEnvironment id (·.inWorld name) (·.startScript name args) := by
  rw [runScript, withEnvironment]
  congr 1
  funext unit
  cases unit.environment.startScript name args with
  | ok r => rfl
  | error cause => cases cause <;> rfl

theorem sendSignal_eq (w : World) (id : UnitId) (signal : UInt32) :
    w.sendSignal id signal = w.withEnvironment id (nofun : Empty → WorldError)
      fun e => .ok (e.intercepting signal, e.sendSignal signal) := rfl

theorem withEnvironment_of_found {ε α : Type} (live : w.units[id]? = some unit)
    (inWorld : ε → WorldError) (f : Environment → Except ε (α × Environment)) :
    w.withEnvironment id inWorld f =
      match f unit.environment with
      | .ok (a, environment) =>
        .ok (a, { w with units := w.units.insert id { unit with environment } })
      | .error cause => .error (inWorld cause) := by
  rw [withEnvironment, unit_of_found live]
  rfl

theorem runScript_eq_error_iff {name : String} {args : List Int32} :
    w.runScript id name args = .error error ↔ w.Refuses id (.start name args) error := by
  rw [runScript_eq]
  refine bind_unit_eq_error_iff fun unit _ => ?_
  rw [lacks_start_iff]
  dsimp only
  cases unit.environment.startScript name args with
  | ok r => exact iff_of_false nofun nofun
  | error cause =>
    simp only [Except.error.injEq, exists_eq_left']
    exact eq_comm

theorem staticVariable_eq_error_iff (h : w.Sound) {slot : Nat} :
    w.staticVariable id slot = .error error ↔ w.Refuses id (.static slot) error := by
  refine bind_unit_eq_error_iff fun unit live => ?_
  have size := (h.unit live).environment.statics
  cases found : unit.environment.getStatic slot with
  | ok value =>
    have inside := (unit.environment.getStatic_outcome slot).of_ok found
    refine iff_of_false nofun ?_
    rintro ⟨outside⟩
    omega
  | error kind =>
    have outside := (unit.environment.getStatic_outcome slot).of_error found
    constructor
    · rintro ⟨⟩
      exact .static (size ▸ outside)
    · rintro ⟨⟩
      rfl

theorem lacks_piece_iff {name : String} :
    Lacks id unit (.piece name) error ↔
      ∃ cause, unit.environment.module.pieceIndex name = .error cause ∧ error = .module cause := by
  constructor
  · intro lacks
    cases lacks with
    | piece missing => exact ⟨_, Module.pieceIndex_eq_error_iff.mpr ⟨missing, rfl⟩, rfl⟩
  · rintro ⟨cause, failed, rfl⟩
    obtain ⟨missing, rfl⟩ := Module.pieceIndex_eq_error_iff.mp failed
    exact .piece missing

theorem pieceOf_eq_error_iff {name : String} :
    w.pieceOf id name = .error error ↔ w.Refuses id (.piece name) error := by
  refine bind_unit_eq_error_iff fun unit _ => ?_
  rw [lacks_piece_iff]
  cases unit.environment.module.pieceIndex name with
  | ok piece => exact iff_of_false nofun nofun
  | error cause =>
    simp only [Except.error.injEq, exists_eq_left']
    exact eq_comm

theorem pieceOf_eq_ok {name : String} {piece : PieceId}
    (found : w.pieceOf id name = .ok (unit, piece)) :
    w.units[id]? = some unit ∧ unit.environment.module.pieceName? piece = some name := by
  unfold pieceOf at found
  cases live : w.unit id with
  | error e => simp [live, bind, Except.bind] at found
  | ok unit' =>
    rw [live] at found
    simp only [bind, Except.bind] at found
    split at found
    · next piece' index =>
      cases found
      exact ⟨unit_eq_ok live, Module.pieceIndex_eq_ok_iff.mp index⟩
    · cases found

theorem exists_piece? (h : w.Sound) (live : w.units[id]? = some unit) {piece : PieceId}
    {name : String} (named : unit.environment.module.pieceName? piece = some name) :
    ∃ state, unit.pieces.piece? piece = some state := by
  have inside := (Array.getElem?_eq_some_iff.mp named).1
  have size : unit.pieces.pieces.size = unit.environment.module.definition.pieces.size :=
    (h.unit live).pieces
  rw [PieceSet.piece?, Array.getElem?_eq_getElem (size ▸ inside)]
  exact ⟨_, rfl⟩

theorem isPieceInMotion_eq_error_iff {motion : Motion} {name : String} {axis : Axis} :
    w.isPieceInMotion motion id name axis = .error error ↔ w.Refuses id (.piece name) error := by
  rw [← pieceOf_eq_error_iff, isPieceInMotion]
  cases w.pieceOf id name with
  | ok r => exact iff_of_false nofun nofun
  | error e => simp only [bind, Except.bind, Except.error.injEq]

theorem pieceState_of_pieceOf (h : w.Sound) {name : String} {piece : PieceId}
    (found : w.pieceOf id name = .ok (unit, piece)) :
    ∃ state, unit.pieces.piece? piece = some state ∧ w.pieceState id name = .ok state := by
  obtain ⟨live, named⟩ := pieceOf_eq_ok found
  obtain ⟨state, there⟩ := exists_piece? h live named
  refine ⟨state, there, ?_⟩
  simp only [pieceState, found, bind, Except.bind, there]
  rfl

theorem pieceState_eq_error_iff (h : w.Sound) {name : String} :
    w.pieceState id name = .error error ↔ w.Refuses id (.piece name) error := by
  rw [← pieceOf_eq_error_iff]
  cases found : w.pieceOf id name with
  | ok r =>
    obtain ⟨state, -, told⟩ := pieceState_of_pieceOf h found
    rw [told]
    exact iff_of_false nofun nofun
  | error e =>
    simp only [pieceState, found, bind, Except.bind, Except.error.injEq]

section InPlace

/-- Work on the environment of a unit. Whatever comes of it, what it has changed stays changed. -/
def onEnvironment {ε α : Type} (id : UnitId) (inWorld : ε → WorldError)
    (x : InPlace ε Environment α) : InPlace WorldError World α := do
  match (← get).units[id]? with
  | none => throw (.unknownUnit id)
  | some unit =>
    let (result, environment) := x.on unit.environment
    modify fun w => { w with units := w.units.insert id { unit with environment } }
    match result with
    | .ok a => return a
    | .error error => throw (inWorld error)

def runScriptInPlace (id : UnitId) (name : String) (args : List Int32) :
    InPlace WorldError World ThreadId :=
  onEnvironment id (·.inWorld name) (Environment.startScriptInPlace name args)

def sendSignalInPlace (id : UnitId) (signal : UInt32) :
    InPlace WorldError World (List ThreadId) :=
  onEnvironment id nofun (Environment.signalInPlace signal)

/-- The unit is taken out of the table before it is known whether there was one. -/
def destroyInPlace (id : UnitId) : InPlace WorldError World Unit := do
  let removed := (← get).units[id]?
  modify fun w => { w with units := w.units.erase id }
  match removed with
  | some _ => return
  | none => throw (.unknownUnit id)

theorem on_onEnvironment {ε α : Type} {inWorld : ε → WorldError} {x : InPlace ε Environment α}
    {f : Environment → Except ε (α × Environment)} (whole : ∀ e, x.on e = InPlace.settle e (f e))
    (w : World) (id : UnitId) :
    (onEnvironment id inWorld x).on w = InPlace.settle w (w.withEnvironment id inWorld f) := by
  rw [onEnvironment, InPlace.on_get_bind]
  cases live : w.units[id]? with
  | none =>
    rw [withEnvironment, unit_of_missing live]
    rfl
  | some unit =>
    rw [withEnvironment_of_found live]
    simp only [whole]
    cases f unit.environment with
    | ok r => rfl
    | error cause =>
      change (Except.error (inWorld cause), { w with units := w.units.insert id unit }) = _
      rw [Table.insert_of_getElem? live]
      rfl

theorem on_runScriptInPlace (w : World) (id : UnitId) (name : String) (args : List Int32) :
    (runScriptInPlace id name args).on w = InPlace.settle w (w.runScript id name args) := by
  rw [runScript_eq]
  exact on_onEnvironment (fun e => e.on_startScriptInPlace name args) w id

theorem on_sendSignalInPlace (w : World) (id : UnitId) (signal : UInt32) :
    (sendSignalInPlace id signal).on w = InPlace.settle w (w.sendSignal id signal) := by
  rw [sendSignal_eq]
  exact on_onEnvironment (fun e => e.on_signalInPlace signal) w id

theorem on_destroyInPlace (w : World) (id : UnitId) :
    (destroyInPlace id).on w = InPlace.settle w ((w.destroy id).map ((), ·)) := by
  rw [destroyInPlace, InPlace.on_get_bind, destroy]
  cases live : w.units[id]? with
  | none =>
    rw [unit_of_missing live]
    change (Except.error (WorldError.unknownUnit id), { w with units := w.units.erase id }) = _
    rw [Table.erase_of_getElem? live]
    rfl
  | some unit =>
    rw [unit_of_found live]
    rfl

end InPlace

/-- An operation on a world has the causes of failure that it should have, and it leaves the world
as it is when it fails, also where it is carried out part by part. -/
structure FailsClean {α : Type} (w : World) (result : Except WorldError (α × World))
    (inPlace : InPlace WorldError World α) (cause : WorldError → Prop) : Prop where
  fails : ∀ error, result = .error error ↔ cause error
  whole : inPlace.on w = InPlace.settle w result
  untouched : ∀ error w', inPlace.on w = (.error error, w') → w' = w

theorem failsClean_of_whole {α : Type} {result : Except WorldError (α × World)}
    {inPlace : InPlace WorldError World α} {cause : WorldError → Prop}
    (fails : ∀ error, result = .error error ↔ cause error)
    (whole : inPlace.on w = InPlace.settle w result) : FailsClean w result inPlace cause := by
  refine ⟨fails, whole, ?_⟩
  intro error w' failed
  rw [whole] at failed
  exact (InPlace.settle_eq_error_iff.mp failed).2

structure Exact (w : World) (id : UnitId) (given : List ThreadId) : Prop where
  runScript : ∀ name args, FailsClean w (w.runScript id name args) (runScriptInPlace id name args)
    (w.Refuses id (.start name args))
  starts : ∀ unit entry args, w.units[id]? = some unit →
    entry ∈ unit.environment.module.definition.scripts → args.length ≤ entry.locals.toNat →
    ∃ script t, unit.environment.module.script? script = some entry ∧
      t.Begins entry (.opening script entry args) ∧ t.mask = 0 ∧
      t.id = unit.environment.nextThread ∧
      w.runScript id entry.name args = .ok (t.id,
        { w with
          units := w.units.insert id
            { unit with
              environment :=
                { unit.environment with
                  threads := unit.environment.threads.insert t.id t
                  nextThread := t.id + 1 } } })
  unused : ∀ unit, w.units[id]? = some unit → given.length < UInt64.size - 1 →
    unit.environment.nextThread.toNat = given.length + 1 ∧
      unit.environment.nextThread ∉ given ∧
      unit.environment.thread? unit.environment.nextThread = none
  sendSignal : ∀ signal, FailsClean w (w.sendSignal id signal) (sendSignalInPlace id signal)
    fun error => w.units[id]? = none ∧ error = .unknownUnit id
  destroy : FailsClean w ((w.destroy id).map ((), ·)) (destroyInPlace id)
    fun error => w.units[id]? = none ∧ error = .unknownUnit id
  staticVariable : ∀ slot error,
    w.staticVariable id slot = .error error ↔ w.Refuses id (.static slot) error
  isPieceInMotion : ∀ motion name axis error,
    w.isPieceInMotion motion id name axis = .error error ↔ w.Refuses id (.piece name) error
  pieceState : ∀ name error,
    w.pieceState id name = .error error ↔ w.Refuses id (.piece name) error
  pieceState_found : ∀ name unit piece, w.pieceOf id name = .ok (unit, piece) →
    ∃ state, unit.pieces.piece? piece = some state ∧ w.pieceState id name = .ok state

theorem runScript_of_started {name : String} {args : List Int32} {thread : ThreadId}
    {environment : Environment} (live : w.units[id]? = some unit)
    (started : unit.environment.startScript name args = .ok (thread, environment)) :
    w.runScript id name args =
      .ok (thread, { w with units := w.units.insert id { unit with environment } }) := by
  rw [runScript_eq, withEnvironment_of_found live, started]

/-- The operations on a unit fail for just the causes that they should have, and then they change
nothing. -/
theorem refusals_exact (config : Config) (ops : List Operation) (id : UnitId) :
    ((create config).after ops).Exact id (ledger id (create config) ops {}).started := by
  have sound := sound_after config ops
  refine
    { runScript := fun name args =>
        failsClean_of_whole (fun _ => runScript_eq_error_iff) (on_runScriptInPlace _ id name args)
      starts := ?_
      unused := fun unit live room =>
        ((balances_create config id).ledger ops unit live room).next_unused
      sendSignal := fun signal =>
        failsClean_of_whole (fun _ => sendSignal_eq_error_iff.trans refuses_presence_iff)
          (on_sendSignalInPlace _ id signal)
      destroy := failsClean_of_whole (fun _ => ?_) (on_destroyInPlace _ id)
      staticVariable := fun _ _ => staticVariable_eq_error_iff sound
      isPieceInMotion := fun _ _ _ _ => isPieceInMotion_eq_error_iff
      pieceState := fun _ _ => pieceState_eq_error_iff sound
      pieceState_found := fun _ _ _ found => pieceState_of_pieceOf sound found }
  · intro unit entry args live member fits
    obtain ⟨script, declared⟩ := Module.mem_scripts_iff.mp member
    obtain ⟨t, begins, next, mask, started⟩ := (Environment.admits declared).started args fits
    refine ⟨script, t, declared, begins, mask, next, ?_⟩
    rw [runScript_of_started live started, Environment.enroll, next]
  · rw [← refuses_presence_iff, ← destroy_eq_error_iff]
    cases ((create config).after ops).destroy id <;> simp [Except.map]

end World

end UnitScript
