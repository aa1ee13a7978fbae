import UnitScript.Proofs.World.Queues

namespace UnitScript

def Act.Named (module : Module) (a : Act) : Prop :=
  ∀ piece, a.piece? = some piece → ∃ name, module.pieceName? piece = some name

theorem Module.exists_pieceName? {m : Module} {piece : PieceId}
    (inside : piece.index < m.pieceCount) : ∃ name, m.pieceName? piece = some name :=
  ⟨_, Array.getElem?_eq_getElem inside⟩

namespace Machine

variable {σ : Type} [Host σ] {config : Config} {now : Tick} {m : Machine σ} {s : Step} {a : Act}

theorem step_named (worked : m.step config now = .ok s) (told : s.deed.act? = some a) :
    a.Named m.environment.module := by
  obtain ⟨i, -, shape⟩ := step_shape worked
  cases shape with
  | @plain _ _ _ deed _ fits =>
    cases deed with
    | act _ =>
      cases told
      exact fun piece about => Module.exists_pieceName? (fits piece about)
    | _ => cases told
  | _ => cases told

theorem deeds_named {budget : Nat} {d : Deed} (done : d ∈ m.deeds config now budget)
    (told : d.act? = some a) : a.Named m.environment.module := by
  induction budget generalizing m with
  | zero => cases done
  | succ budget ih =>
    unfold deeds at done
    split at done
    · cases done
    · next s worked =>
      obtain rfl | later := List.mem_cons.mp done
      · exact step_named worked told
      · split at later
        · have named := ih later
          rwa [environment_perform, Environment.module_carryOut] at named
        · cases later

theorem acts_named {budget place : Nat} (acted : (place, a) ∈ m.acts config now budget) :
    a.Named m.environment.module := by
  obtain ⟨⟨d, place'⟩, done, told⟩ := List.mem_filterMap.mp acted
  obtain ⟨a', told, same⟩ := Option.map_eq_some_iff.mp told
  cases same
  exact deeds_named (List.fst_mem_of_mem_zipIdx done) told

end Machine

theorem TickState.module_of_mem_machines {σ : Type} [Host σ] {config : Config} {now : Tick}
    {ids : List ThreadId} {s : TickState σ} {m : Machine σ}
    (member : m ∈ machines config now ids s) :
    m.environment.module = s.environment.module := by
  obtain ⟨s', id, same, dispatched⟩ :=
    exists_of_mem_machines (P := fun s' => s'.environment.module = s.environment.module) rfl
      (fun s' id same => (turn_cases config now s' id).module_eq.trans same) member
  obtain ⟨t, -, -, rfl⟩ := dispatch?_eq_some_iff.mp dispatched
  exact same

namespace World

variable {module : Module} {w w' : World} {c : Chronicle} {id : UnitId} {unit : UnitState}
  {op : Operation} {ops : List Operation}

def Uniform (module : Module) (w : World) : Prop :=
  ∀ (id : UnitId) (unit : UnitState), w.units[id]? = some unit → unit.environment.module = module

def SpawnsOnly (module : Module) (ops : List Operation) : Prop :=
  ∀ other, .spawn other ∈ ops → other = module

theorem uniform_create (module : Module) (config : Config) : (create config).Uniform module := by
  intro id unit live
  simp [create] at live

theorem Uniform.insert (h : w.Uniform module) (units : w'.units = w.units.insert id unit)
    (same : unit.environment.module = module) : w'.Uniform module := by
  intro id' unit' live
  rw [units, Std.ExtTreeMap.getElem?_insert] at live
  split at live
  · cases live
    exact same
  · exact h id' unit' live

theorem Uniform.apply (h : w.Uniform module) (only : SpawnsOnly module [op]) :
    (w.apply op).2.Uniform module := by
  have applied := w.applied op
  generalize (w.apply op).2 = w' at applied ⊢
  cases applied with
  | spawned other => exact h.insert rfl (only other List.mem_cons_self)
  | destroyed id =>
    intro id' unit live
    rw [Std.ExtTreeMap.getElem?_erase] at live
    split at live
    · cases live
    · exact h id' unit live
  | started live started =>
    obtain ⟨script, entry, -, -, rfl⟩ := Environment.startScript_eq_ok started
    have same := h _ _ live
    exact h.insert rfl same
  | signalled signal live =>
    have same := h _ _ live
    exact h.insert rfl same
  | ticked =>
    intro id unit live
    obtain ⟨before, g, turn, rfl⟩ := units_tick_iff.mp live
    exact (module_runTick ..).trans (h id before (Table.getElem?_of_mem_visits turn))
  | drained => exact h
  | refused => exact h

theorem Uniform.acts_named (h : w.Uniform module) {tick : Nat} {a : Moment × Act}
    (acted : a ∈ w.acts tick) : a.2.Named module := by
  obtain ⟨⟨id, unit, g⟩, turn, acted⟩ := List.mem_flatMap.mp acted
  obtain ⟨m, member, acted⟩ := List.mem_flatMap.mp acted
  obtain ⟨⟨place, act⟩, done, rfl⟩ := List.mem_map.mp acted
  have same : m.environment.module = module :=
    (TickState.module_of_mem_machines member).trans
      (h id unit (Table.getElem?_of_mem_visits turn))
  exact same ▸ Machine.acts_named done

def Chronicle.Named (module : Module) (c : Chronicle) : Prop := ∀ a ∈ c.pending, a.2.Named module

theorem Chronicle.Named.write (named : c.Named module) (h : w.Uniform module) (op : Operation) :
    (w.write c op).Named module := by
  cases op with
  | tick =>
    intro a member
    obtain old | new := List.mem_append.mp member
    · exact named a old
    · exact h.acts_named new
  | drainEffects => exact nofun
  | _ => exact named

theorem SpawnsOnly.uncons (only : SpawnsOnly module (op :: ops)) :
    SpawnsOnly module [op] ∧ SpawnsOnly module ops := by
  refine ⟨fun other spawned => only other ?_, fun other spawned => only other ?_⟩
  · exact List.mem_cons.mpr (.inl (List.mem_singleton.mp spawned))
  · exact List.mem_cons_of_mem _ spawned

theorem Chronicle.Named.chronicle (named : c.Named module) (h : w.Uniform module)
    (only : SpawnsOnly module ops) : (chronicle w ops c).Named module := by
  induction ops generalizing w c with
  | nil => exact named
  | cons op rest ih =>
    obtain ⟨first, later⟩ := only.uncons
    exact ih (named.write h op) (h.apply first) later

theorem Uniform.after (h : w.Uniform module) (only : SpawnsOnly module ops) :
    (w.after ops).Uniform module := by
  induction ops generalizing w with
  | nil => exact h
  | cons op rest ih =>
    obtain ⟨first, later⟩ := only.uncons
    exact ih (h.apply first) later

theorem drained_named (config : Config) (only : SpawnsOnly module ops) {effect : Effect}
    (drained : effect ∈ ((create config).after ops).drainEffects.1) : effect.act.Named module := by
  have recorded := ((recorded_create config).after ops).effects
  have named : (World.chronicle (create config) ops {}).Named module :=
    Chronicle.Named.chronicle nofun (uniform_create module config) only
  change effect ∈ ((create config).after ops).queues.effects.toList at drained
  rw [recorded] at drained
  obtain ⟨a, told, rfl⟩ := List.mem_map.mp (List.mem_of_mem_drop drained)
  exact named a told

end World

end UnitScript
