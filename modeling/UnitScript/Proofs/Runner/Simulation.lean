import Mathlib.Data.List.Iterate
import UnitScript.Proofs.World.Effects
import UnitScript.Proofs.World.Refusal
import UnitScript.Runner.Simulation

namespace UnitScript

namespace World

variable {module : Module} {w : World} {id : UnitId}

def Response.isGranted : Response → Bool
  | .destroyed (.error _) | .started (.error _) | .signalled (.error _) => false
  | _ => true

structure Ready (module : Module) (w : World) (id : UnitId) : Prop where
  uniform : w.Uniform module
  live : ∃ unit, w.units[id]? = some unit

theorem Ready.not_refuses (h : Ready module w id) {name : String}
    (has : module.hasEntryPoint name = true) (error : WorldError) :
    ¬w.Refuses id (.start name []) error := by
  obtain ⟨unit, live⟩ := h.live
  have same := h.uniform id unit live
  obtain ⟨script, named⟩ := Option.isSome_iff_exists.mp has
  obtain ⟨entry, declared, rfl⟩ := Module.scriptNamed?_eq_some_iff.mp named
  rintro (missing | ⟨there, lacks⟩)
  · rw [missing] at live
    cases live
  · cases live.symm.trans there
    cases lacks with
    | entryPoint missing =>
      have member := Module.mem_scripts_iff.mpr ⟨script, declared⟩
      exact missing entry (same ▸ member) rfl
    | locals _ _ surplus => exact Nat.not_lt_zero _ surplus

theorem Ready.runScript (h : Ready module w id) {name : String}
    (has : module.hasEntryPoint name = true) :
    ∃ thread w', w.runScript id name [] = .ok (thread, w') ∧
      w.apply (.runScript id name []) = (.started (.ok thread), w') ∧ Ready module w' id := by
  cases ran : w.runScript id name [] with
  | error error => exact absurd (runScript_eq_error_iff.mp ran) (h.not_refuses has error)
  | ok r =>
    have applied : w.apply (.runScript id name []) = (.started (.ok r.1), r.2) := by
      simp only [apply, ran]
    have next : w.after [.runScript id name []] = r.2 := congrArg Prod.snd applied
    obtain ⟨unit, live⟩ := h.live
    have uniform : (w.after [.runScript id name []]).Uniform module :=
      h.uniform.after (by simp [SpawnsOnly])
    have lives : ∃ unit, (w.after [.runScript id name []]).units[id]? = some unit :=
      exists_after live (by simp)
    rw [next] at uniform lives
    exact ⟨r.1, r.2, rfl, applied, uniform, lives⟩

end World

theorem mapM_of_forall_ok {ε α β : Type} {f : α → Except ε β} {g : α → β} {l : List α}
    (h : ∀ a ∈ l, f a = .ok (g a)) : l.mapM f = .ok (l.map g) := by
  induction l with
  | nil => rfl
  | cons a rest ih =>
    obtain ⟨first, later⟩ := List.forall_mem_cons.mp h
    rw [List.mapM_cons, first, ih later]
    rfl

namespace Runner

open World (Operation)

variable {module : Module} {w : World} {unit : UnitId}

def starts (module : Module) (scripts : List String) (unit : UnitId) : List Operation :=
  (scripts.filter module.hasEntryPoint).map (.runScript unit · [])

def launch (module : Module) (scripts : List String) (units : List UnitId) : List Operation :=
  units.flatMap fun unit => .spawn module :: starts module scripts unit

def rounds : Nat → List Operation
  | 0 => []
  | count + 1 => .tick :: .drainEffects :: rounds count

def unitNumbers (o : Options) : List UnitId := List.iterate (· + 1) 1 o.units.toNat

def asked (o : Options) (module : Module) (count : Nat) : List Operation :=
  launch module o.scripts (unitNumbers o) ++ rounds count

def progress (o : Options) (config : Config) (module : Module) (count : Nat) : World :=
  (World.create config).after (asked o module count)

def skipLines (module : Module) (scripts : List String) (unit : UnitId) : List Line :=
  (scripts.filter (!module.hasEntryPoint ·)).map fun name =>
    warn s!"no such entry point, skipping unit={unitName unit} script={name}"

def launchLines (module : Module) (scripts : List String) (units : List UnitId) : List Line :=
  units.flatMap fun unit =>
    info s!"unit spawned unit={unitName unit}" :: skipLines module scripts unit

def tickLines (module : Module) (w : World) : List Line :=
  w.tickWithNotices.2.1.map noticeLine ++ w.tick.2.drainEffects.1.map (effectLine module)

def namedPieceLines (module : Module) (u : UnitState) : List String :=
  List.zipWith pieceLine module.definition.pieces.toList u.pieces.pieces.toList

def standing (module : Module) (w : World) : List String :=
  (w.units.toList.flatMap fun (id, u) =>
    unitLine id u.environment :: namedPieceLines module u) ++ w.diagnostics.map diagnosticLine

theorem starts_cons_of_has {name : String} (has : module.hasEntryPoint name = true)
    (names : List String) :
    starts module (name :: names) unit = .runScript unit name [] :: starts module names unit := by
  rw [starts, List.filter_cons_of_pos has]
  rfl

theorem starts_cons_of_lacks {name : String} (lacks : module.hasEntryPoint name = false)
    (names : List String) : starts module (name :: names) unit = starts module names unit := by
  rw [starts, List.filter_cons_of_neg (ne_true_of_eq_false lacks)]
  rfl

theorem appendList_append (out : Array Line) (first second : List Line) :
    out ++ first ++ second = out ++ (first ++ second) :=
  Array.ext' (by simp)

theorem startScripts_eq (h : World.Ready module w unit) (names : List String)
    (out : Array Line) :
    startScripts module unit names w out =
      .ok (w.after (starts module names unit), out ++ skipLines module names unit) := by
  induction names generalizing w out with
  | nil => simp [startScripts, starts, skipLines, World.after]
  | cons name rest ih =>
    cases has : module.hasEntryPoint name with
    | true =>
      obtain ⟨thread, w', ran, applied, ready⟩ := h.runScript has
      have skip : skipLines module (name :: rest) unit = skipLines module rest unit := by
        simp [skipLines, has]
      rw [startScripts, if_pos has, ran, starts_cons_of_has has, skip]
      refine (ih ready out).trans ?_
      rw [World.after, World.after, List.foldl_cons, applied]
    | false =>
      rw [startScripts, if_neg (ne_true_of_eq_false has), ih h, starts_cons_of_lacks has]
      simp [skipLines, has]

theorem granted_starts (h : World.Ready module w unit) (names : List String) :
    ∀ r ∈ w.responses (starts module names unit), r.isGranted = true := by
  induction names generalizing w with
  | nil => exact nofun
  | cons name rest ih =>
    cases has : module.hasEntryPoint name with
    | true =>
      obtain ⟨thread, w', -, applied, ready⟩ := h.runScript has
      rw [starts_cons_of_has has, World.responses, applied]
      exact List.forall_mem_cons.mpr ⟨rfl, ih ready⟩
    | false =>
      rw [starts_cons_of_lacks has]
      exact ih h

theorem spawnsOnly_starts (scripts : List String) :
    World.SpawnsOnly module (starts module scripts unit) := by
  intro other spawned
  simp [starts] at spawned

theorem spawns_starts (scripts : List String) :
    World.spawns (starts module scripts unit) = 0 := by
  simp [World.spawns, starts, List.countP_eq_zero, Operation.isSpawn]

theorem ready_spawn (h : w.Uniform module) : World.Ready module (w.spawn module).2 w.nextUnit where
  uniform := h.insert rfl rfl
  live := ⟨_, Std.ExtTreeMap.getElem?_insert_self⟩

theorem after_spawn (h : w.Uniform module) (scripts : List String) :
    ((w.spawn module).2.after (starts module scripts w.nextUnit)).Uniform module ∧
      ((w.spawn module).2.after (starts module scripts w.nextUnit)).nextUnit =
        w.nextUnit + 1 :=
  ⟨(ready_spawn h).uniform.after (spawnsOnly_starts scripts),
    World.nextUnit_after (spawns_starts scripts)⟩

theorem after_launch_cons (scripts : List String) (units : List UnitId) :
    w.after (launch module scripts (unit :: units)) =
      ((w.spawn module).2.after (starts module scripts unit)).after
        (launch module scripts units) := by
  rw [launch, List.flatMap_cons, World.after_append]
  rfl

theorem spawnUnits_eq (h : w.Uniform module) (scripts : List String) (count : Nat)
    (out : Array Line) :
    spawnUnits module scripts count w out =
      .ok (w.after (launch module scripts (List.iterate (· + 1) w.nextUnit count)),
        out ++ launchLines module scripts (List.iterate (· + 1) w.nextUnit count)) := by
  induction count generalizing w out with
  | zero => simp [spawnUnits, launch, launchLines, World.after]
  | succ count ih =>
    obtain ⟨uniform, next⟩ := after_spawn h scripts
    have started := startScripts_eq (ready_spawn h) scripts
      (out.push (info s!"unit spawned unit={unitName w.nextUnit}"))
    rw [List.iterate, after_launch_cons, ← next]
    simp only [spawnUnits]
    rw [show (w.spawn module).1 = w.nextUnit from rfl, started]
    refine (ih uniform _).trans ?_
    rw [launchLines, launchLines, List.flatMap_cons, List.cons_append, appendList_append]
    rfl

theorem runTicks_eq (module : Module) (count : Nat) (w : World) (out : Array Line) :
    runTicks module count w out =
      (w.after (rounds count),
        out ++ (List.range count).flatMap fun i => tickLines module (w.after (rounds i))) := by
  induction count generalizing w out with
  | zero => simp [runTicks, rounds, World.after]
  | succ count ih =>
    rw [List.range_succ_eq_map, List.flatMap_cons, List.flatMap_map]
    refine (ih w.tick.2.drainEffects.2 _).trans (Prod.ext rfl ?_)
    simp only [appendList_append, tickLines, List.append_assoc]
    rfl

theorem filterMap_range_getElem? {α : Type} (l : List α) :
    (List.range l.length).filterMap (l[·]?) = l := by
  induction l with
  | nil => rfl
  | cons a rest ih =>
    rw [List.length_cons, List.range_succ_eq_map, List.filterMap_cons, List.filterMap_map]
    exact congrArg (a :: ·) ih

theorem index_of_lt {index : Nat} (inside : index < module.pieceCount) :
    (⟨UInt16.ofNat index⟩ : PieceId).index = index :=
  UInt16.toNat_ofNat_of_lt' (Nat.lt_of_lt_of_le inside module.valid.pieces_few)

theorem pieceLines_eq {u : UnitState} (size : u.pieces.size = module.pieceCount) :
    pieceLines module u = namedPieceLines module u := by
  have size' : u.pieces.pieces.size = module.definition.pieces.size := size
  have found (index : Nat) (inside : index < module.pieceCount) :
      (u.pieces.piece? ⟨UInt16.ofNat index⟩).map
          (pieceLine ((module.pieceName? ⟨UInt16.ofNat index⟩).getD "?")) =
        (namedPieceLines module u)[index]? := by
    have named : index < module.definition.pieces.size := inside
    rw [PieceSet.piece?, Module.pieceName?, index_of_lt inside, namedPieceLines,
      List.getElem?_zipWith]
    simp [named, size']
  have length : (namedPieceLines module u).length = module.pieceCount := by
    simp [namedPieceLines, size', Module.pieceCount]
  rw [pieceLines, List.filterMap_congr fun index member => found index (List.mem_range.mp member),
    ← length, filterMap_range_getElem?]

theorem report_eq (sound : w.Sound) (h : w.Uniform module) :
    report module w = .ok (standing module w) := by
  have units : (w.unitIds.mapM fun id => do
      let unit ← w.unit id
      return unitLine id unit.environment :: pieceLines module unit) =
      .ok (w.units.toList.map fun (id, u) =>
        unitLine id u.environment :: namedPieceLines module u) := by
    rw [World.unitIds, ← Std.ExtTreeMap.map_fst_toList_eq_keys, List.mapM_map]
    refine mapM_of_forall_ok ?_
    rintro ⟨id, u⟩ member
    have live : w.units[id]? = some u := Std.ExtTreeMap.mem_toList_iff_getElem?_eq_some.mp member
    have size := (sound.unit live).pieces
    rw [h id u live] at size
    rw [Function.comp_apply, World.unit_of_found live]
    exact congrArg (fun lines => Except.ok (unitLine id u.environment :: lines))
      (pieceLines_eq size)
  rw [report, units, standing, List.flatMap_def]
  rfl

def transcript (o : Options) (config : Config) (module : Module) : List Line :=
  let sizes := s!"scripts={module.scriptCount} pieces={module.pieceCount}"
  info s!"module loaded module={Text.quoted o.module} {sizes}" ::
    launchLines module o.scripts (unitNumbers o) ++
    ((List.range o.ticks.toNat).flatMap fun i =>
      tickLines module (progress o config module i)) ++
    [info s!"simulation finished ticks={o.ticks} units={o.units}"] ++
    (standing module (progress o config module o.ticks.toNat)).map .report

theorem mem_launch {op : Operation} {scripts : List String} {units : List UnitId}
    (member : op ∈ launch module scripts units) :
    op = .spawn module ∨ ∃ unit name, op = .runScript unit name [] := by
  obtain ⟨unit, -, member⟩ := List.mem_flatMap.mp member
  obtain rfl | started := List.mem_cons.mp member
  · exact .inl rfl
  · obtain ⟨name, -, rfl⟩ := List.mem_map.mp started
    exact .inr ⟨unit, name, rfl⟩

theorem mem_rounds {op : Operation} {count : Nat} (member : op ∈ rounds count) :
    op = .tick ∨ op = .drainEffects := by
  induction count with
  | zero => cases member
  | succ count ih =>
    simp only [rounds, List.mem_cons] at member
    obtain rfl | rfl | later := member
    · exact .inl rfl
    · exact .inr rfl
    · exact ih later

theorem spawnsOnly_asked (o : Options) (count : Nat) :
    World.SpawnsOnly module (asked o module count) := by
  intro other spawned
  obtain launched | later := List.mem_append.mp spawned
  · obtain same | ⟨_, _, ⟨⟩⟩ := mem_launch launched
    cases same
    rfl
  · obtain ⟨⟨⟩⟩ | ⟨⟨⟩⟩ := mem_rounds later

theorem destroy_not_mem_asked (o : Options) (count : Nat) (unit : UnitId) :
    .destroy unit ∉ asked o module count := by
  intro destroyed
  obtain launched | later := List.mem_append.mp destroyed
  · obtain ⟨⟨⟩⟩ | ⟨_, _, ⟨⟩⟩ := mem_launch launched
  · obtain ⟨⟨⟩⟩ | ⟨⟨⟩⟩ := mem_rounds later

theorem spawns_launch (scripts : List String) (units : List UnitId) :
    World.spawns (launch module scripts units) = units.length := by
  induction units with
  | nil => rfl
  | cons unit rest ih =>
    rw [launch, List.flatMap_cons, World.spawns_append, World.spawns_cons, spawns_starts]
    exact (congrArg (1 + ·) ih).trans (Nat.add_comm ..)

theorem spawns_rounds (count : Nat) : World.spawns (rounds count) = 0 := by
  refine List.countP_eq_zero.mpr fun op member => ?_
  obtain rfl | rfl := mem_rounds member
  · exact Bool.false_ne_true
  · exact Bool.false_ne_true

theorem spawns_asked (o : Options) (module : Module) (count : Nat) :
    World.spawns (asked o module count) = o.units.toNat := by
  rw [asked, World.spawns_append, spawns_launch, spawns_rounds, unitNumbers, List.length_iterate]
  rfl

theorem uniform_progress (o : Options) (config : Config) (count : Nat) :
    (progress o config module count).Uniform module :=
  (World.uniform_create module config).after (spawnsOnly_asked o count)

theorem sound_progress (o : Options) (config : Config) (module : Module) (count : Nat) :
    (progress o config module count).Sound :=
  World.sound_after config (asked o module count)

theorem progress_eq (o : Options) (config : Config) (module : Module) (count : Nat) :
    progress o config module count =
      ((World.create config).after (launch module o.scripts (unitNumbers o))).after
        (rounds count) :=
  World.after_append ..

theorem simulate_eq (o : Options) (config : Config) (module : Module) :
    simulate o config module = .ok (transcript o config module) := by
  have spawned (out : Array Line) :
      spawnUnits module o.scripts o.units.toNat (World.create config) out =
        .ok ((World.create config).after (launch module o.scripts (unitNumbers o)),
          out ++ launchLines module o.scripts (unitNumbers o)) :=
    spawnUnits_eq (World.uniform_create module config) o.scripts o.units.toNat out
  have reported := report_eq (sound_progress o config module o.ticks.toNat)
    (uniform_progress o config o.ticks.toNat)
  simp only [simulate, spawned, runTicks_eq, ← progress_eq, reported, bind, Except.bind,
    appendList_append]
  refine congrArg Except.ok ?_
  simp [transcript]

theorem granted_launch (h : w.Uniform module) (scripts : List String) (count : Nat) :
    ∀ r ∈ w.responses (launch module scripts (List.iterate (· + 1) w.nextUnit count)),
      r.isGranted = true := by
  induction count generalizing w with
  | zero => exact nofun
  | succ count ih =>
    obtain ⟨uniform, next⟩ := after_spawn h scripts
    rw [List.iterate, launch, List.flatMap_cons, World.responses_append, ← next]
    refine List.forall_mem_append.mpr ⟨?_, ih uniform⟩
    exact List.forall_mem_cons.mpr ⟨rfl, granted_starts (ready_spawn h) scripts⟩

theorem granted_rounds (w : World) (count : Nat) :
    ∀ r ∈ w.responses (rounds count), r.isGranted = true := by
  induction count generalizing w with
  | zero => exact nofun
  | succ count ih =>
    exact List.forall_mem_cons.mpr ⟨rfl, List.forall_mem_cons.mpr ⟨rfl, ih w.tick.2.drainEffects.2⟩⟩

theorem granted_asked (o : Options) (config : Config) (module : Module) (count : Nat) :
    ∀ r ∈ (World.create config).responses (asked o module count), r.isGranted = true := by
  rw [asked, World.responses_append]
  exact List.forall_mem_append.mpr
    ⟨granted_launch (World.uniform_create module config) o.scripts o.units.toNat,
      granted_rounds _ count⟩

theorem toNat_unitIds_progress {o : Options} (few : o.units.toNat < UInt32.size - 1)
    (config : Config) (module : Module) (count : Nat) :
    (progress o config module count).unitIds.map UInt32.toNat = List.range' 1 o.units.toNat := by
  have room : World.spawns (asked o module count) < UInt32.size - 1 := by
    rwa [spawns_asked]
  have live : ∀ u ∈ (World.create config).created (asked o module count),
      decide (u ∈ ((World.create config).after (asked o module count)).unitIds) = true := by
    intro u given
    exact decide_eq_true
      (World.mem_unitIds_of_mem_created given (destroy_not_mem_asked o count u))
  rw [progress, World.unitIds_eq_filter_created room, List.filter_eq_self.mpr live,
    World.toNat_created config room, spawns_asked]

structure Completes (o : Options) (config : Config) (module : Module) : Prop where
  simulated : simulate o config module = .ok (transcript o config module)
  ran : ∀ files, loadConfig o files = .ok config → loadModule o files = .ok module →
    run o files = .ok (transcript o config module)
  granted : ∀ count, ∀ r ∈ (World.create config).responses (asked o module count),
    r.isGranted = true
  units : ∀ count, (progress o config module count).unitIds.map UInt32.toNat =
    List.range' 1 o.units.toNat
  /-- After any number of ticks, every unit is found with all the pieces that the module names. -/
  found : ∀ count, ∀ id ∈ (progress o config module count).unitIds,
    ∃ unit, (progress o config module count).unit id = .ok unit ∧
      ∀ index < module.pieceCount, ∃ piece name,
        unit.pieces.piece? ⟨UInt16.ofNat index⟩ = some piece ∧
          module.pieceName? ⟨UInt16.ofNat index⟩ = some name
  named : ∀ count, ∀ effect ∈ (progress o config module count).tick.2.drainEffects.1,
    ∀ piece, effect.act.piece? = some piece → ∃ name, module.pieceName? piece = some name

theorem found_progress (o : Options) (config : Config) (count : Nat) {id : UnitId}
    (there : id ∈ (progress o config module count).unitIds) :
    ∃ unit, (progress o config module count).unit id = .ok unit ∧
      ∀ index < module.pieceCount, ∃ piece name,
        unit.pieces.piece? ⟨UInt16.ofNat index⟩ = some piece ∧
          module.pieceName? ⟨UInt16.ofNat index⟩ = some name := by
  obtain ⟨unit, live⟩ := World.mem_unitIds.mp there
  refine ⟨unit, World.unit_of_found live, fun index inside => ?_⟩
  have same := uniform_progress o config count id unit live
  rw [← index_of_lt inside] at inside
  obtain ⟨name, named⟩ := Module.exists_pieceName? inside
  obtain ⟨piece, held⟩ :=
    World.exists_piece? (sound_progress o config module count) live (same ▸ named)
  exact ⟨piece, name, held, named⟩

/-- Once its module is loaded, a run comes to its end, whatever the scripts of the module do:
nothing that it asks for is refused, and the units, pieces and names that it looks for are all
there. -/
theorem simulation_completes (o : Options) (config : Config) (module : Module)
    (few : o.units.toNat < UInt32.size - 1) : Completes o config module where
  simulated := simulate_eq o config module
  ran files configured loaded := by
    rw [run, configured, loaded]
    exact congrArg (Except.mapError RunError.world) (simulate_eq o config module)
  granted := granted_asked o config module
  units := toNat_unitIds_progress few config module
  found count id := found_progress o config count
  named count effect drained := by
    have only : World.SpawnsOnly module (asked o module count ++ [.tick]) := by
      intro other spawned
      obtain earlier | last := List.mem_append.mp spawned
      · exact spawnsOnly_asked o count other earlier
      · cases List.mem_singleton.mp last
    refine World.drained_named config only ?_
    rwa [World.after_append]

def flaring : Module where
  definition :=
    { pieces := #["base", "barrel"]
      scripts := #[{ name := "Main", offset := 0, params := 1, locals := 2 }]
      code := #[.pushConstant 3, .burst .explosion ⟨0⟩, .pushConstant 7, .pushConstant 1,
        .attachUnit, .returnFromScript] }
  checked := by decide +kernel

def flaringRun : Options where
  module := "flare.json"
  configFile := none
  units := 2
  scripts := ["Main", "Idle"]
  ticks := 3
  seed := none
  tickDurationMs := none
  maxInstructionsPerRun := none
  maxCallDepth := none
  operandOrder := none
  divideByZero := none
  debug := false

theorem flaring_completes :
    simulate flaringRun {} flaring = .ok (transcript flaringRun {} flaring) ∧
    (progress flaringRun {} flaring 3).unitIds.map UInt32.toNat = [1, 2] ∧
    ⟨2, .attachUnit ⟨1⟩ 7⟩ ∈ (progress flaringRun {} flaring 0).tick.2.drainEffects.1 ∧
      ∃ name, flaring.pieceName? ⟨1⟩ = some name := by
  have completes := simulation_completes flaringRun {} flaring (by decide)
  have attached : ⟨2, .attachUnit ⟨1⟩ 7⟩ ∈
      (progress flaringRun {} flaring 0).tick.2.drainEffects.1 := by
    decide +kernel
  exact ⟨completes.simulated, completes.units 3, attached, completes.named 0 _ attached ⟨1⟩ rfl⟩

end Runner

end UnitScript
