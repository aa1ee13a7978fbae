import UnitScript.Proofs.World.Operation

namespace UnitScript

namespace World

namespace Operation

def isSpawn : Operation → Bool
  | .spawn _ => true
  | _ => false

def isLocal : Operation → Bool
  | .destroy _ | .runScript _ _ _ | .sendSignal _ _ => true
  | .spawn _ | .tick | .drainEffects => false

/-- Whether an operation does something to a unit. A tick does to every unit. -/
def concerns (id : UnitId) : Operation → Bool
  | .destroy unit | .runScript unit _ _ | .sendSignal unit _ => unit = id
  | .tick => true
  | .spawn _ | .drainEffects => false

end Operation

def spawns (ops : List Operation) : Nat := ops.countP (·.isSpawn)

variable {w : World} {id : UnitId} {unit : UnitState} {op : Operation} {count : Nat}

theorem after_append (w : World) (ops ops' : List Operation) :
    w.after (ops ++ ops') = (w.after ops).after ops' :=
  List.foldl_append

theorem spawns_append (ops ops' : List Operation) :
    spawns (ops ++ ops') = spawns ops + spawns ops' :=
  List.countP_append

theorem spawns_cons (op : Operation) (ops : List Operation) :
    spawns (op :: ops) = spawns [op] + spawns ops :=
  spawns_append [op] ops

inductive Applied (w : World) : Operation → World → Prop
  | spawned (module : Module) : Applied w (.spawn module) (w.spawn module).2
  | destroyed (id : UnitId) : Applied w (.destroy id) { w with units := w.units.erase id }
  | started {id : UnitId} {name : String} {args : List Int32} {unit : UnitState} {thread : ThreadId}
    {environment : Environment} : w.units[id]? = some unit →
      unit.environment.startScript name args = .ok (thread, environment) →
      Applied w (.runScript id name args)
        { w with units := w.units.insert id { unit with environment } }
  | signalled {id : UnitId} {unit : UnitState} (signal : UInt32) : w.units[id]? = some unit →
    Applied w (.sendSignal id signal)
      { w with
        units := w.units.insert id
          { unit with environment := unit.environment.sendSignal signal } }
  | ticked : Applied w .tick w.tick.2
  | drained : Applied w .drainEffects w.drainEffects.2
  | refused {op : Operation} : op.isSpawn = false → op ≠ .tick → Applied w op w

theorem applied (w : World) (op : Operation) : w.Applied op (w.apply op).2 := by
  cases op with
  | spawn module => exact .spawned module
  | destroy id =>
    simp only [apply]
    split
    · next destroyed => exact destroy_eq_ok destroyed ▸ .destroyed id
    · exact .refused rfl Operation.noConfusion
  | runScript id name args =>
    simp only [apply]
    split
    · next started =>
      obtain ⟨unit, environment, live, enrolled, rfl⟩ := runScript_eq_ok started
      exact .started live enrolled
    · exact .refused rfl Operation.noConfusion
  | sendSignal id signal =>
    simp only [apply]
    split
    · next signalled =>
      obtain ⟨unit, live, -, rfl⟩ := sendSignal_eq_ok signalled
      exact .signalled signal live
    · exact .refused rfl Operation.noConfusion
  | tick => exact .ticked
  | drainEffects => exact .drained

structure Numbered (count : Nat) (w : World) : Prop where
  nextUnit : w.nextUnit.toNat = count + 1
  lt : ∀ {id : UnitId} {unit : UnitState}, w.units[id]? = some unit → id < w.nextUnit

theorem numbered_create (config : Config) : (create config).Numbered 0 where
  nextUnit := rfl
  lt live := by simp [create] at live

theorem Numbered.toNat_le (h : w.Numbered count) (live : w.units[id]? = some unit) :
    id.toNat ≤ count := by
  have below := UInt32.lt_iff_toNat_lt.mp (h.lt live)
  rw [h.nextUnit] at below
  omega

theorem Numbered.ne_nextUnit (h : w.Numbered count) (old : id.toNat ≤ count) :
    id ≠ w.nextUnit := by
  rintro rfl
  rw [h.nextUnit] at old
  omega

theorem Numbered.spawn (h : w.Numbered count) (module : Module)
    (room : count + 1 < UInt32.size - 1) : (w.spawn module).2.Numbered (count + 1) := by
  have next : (w.nextUnit + 1).toNat = count + 1 + 1 := by
    rw [UInt32.toNat_add, h.nextUnit]
    exact Nat.mod_eq_of_lt (Nat.add_lt_of_lt_sub room)
  have above : w.nextUnit < w.nextUnit + 1 := by
    rw [UInt32.lt_iff_toNat_lt, next, h.nextUnit]
    exact Nat.lt_succ_self _
  refine ⟨next, ?_⟩
  intro id unit live
  simp only [World.spawn, Std.ExtTreeMap.getElem?_insert] at live ⊢
  split at live
  · next same => exact Std.LawfulEqCmp.eq_of_compare same ▸ above
  · exact UInt32.lt_trans (h.lt live) above

theorem Numbered.insert (h : w.Numbered count) {other : UnitId} (known : other < w.nextUnit)
    (unit : UnitState) : { w with units := w.units.insert other unit }.Numbered count := by
  refine ⟨h.nextUnit, ?_⟩
  intro id unit live
  simp only [Std.ExtTreeMap.getElem?_insert] at live ⊢
  split at live
  · next same => exact Std.LawfulEqCmp.eq_of_compare same ▸ known
  · exact h.lt live

theorem Numbered.apply (h : w.Numbered count) (op : Operation)
    (room : count + spawns [op] < UInt32.size - 1) :
    (w.apply op).2.Numbered (count + spawns [op]) := by
  have applied := w.applied op
  generalize (w.apply op).2 = w' at applied ⊢
  cases applied with
  | spawned module => exact h.spawn module room
  | destroyed id =>
    refine ⟨h.nextUnit, ?_⟩
    intro id' unit live
    simp only [Std.ExtTreeMap.getElem?_erase] at live
    split at live
    · cases live
    · exact h.lt live
  | started live _ => exact h.insert (h.lt live) _
  | signalled signal live => exact h.insert (h.lt live) _
  | ticked =>
    refine ⟨h.nextUnit, ?_⟩
    intro id unit live
    obtain ⟨before, g, turn, -⟩ := units_tick_iff.mp live
    exact h.lt (Table.getElem?_of_mem_visits turn)
  | drained => exact ⟨h.nextUnit, h.lt⟩
  | refused old _ => simpa [spawns, old] using h

theorem Numbered.after (h : w.Numbered count) (ops : List Operation)
    (room : count + spawns ops < UInt32.size - 1) :
    (w.after ops).Numbered (count + spawns ops) := by
  induction ops generalizing w count with
  | nil => exact h
  | cons op rest ih =>
    rw [spawns_cons, ← Nat.add_assoc] at room ⊢
    exact ih (h.apply op (Nat.lt_of_le_of_lt (Nat.le_add_right ..) room)) room

theorem numbered_after (config : Config) {ops : List Operation}
    (room : spawns ops < UInt32.size - 1) : ((create config).after ops).Numbered (spawns ops) := by
  have numbered := (numbered_create config).after ops (by rwa [Nat.zero_add])
  rwa [Nat.zero_add] at numbered

theorem nextUnit_apply (w : World) (op : Operation) :
    (w.apply op).2.nextUnit = if op.isSpawn then w.nextUnit + 1 else w.nextUnit := by
  have applied := w.applied op
  generalize (w.apply op).2 = w' at applied ⊢
  cases applied with
  | refused other _ =>
    rw [other]
    rfl
  | _ => rfl

theorem nextUnit_after {ops : List Operation} (none : spawns ops = 0) :
    (w.after ops).nextUnit = w.nextUnit := by
  induction ops generalizing w with
  | nil => rfl
  | cons op rest ih =>
    rw [spawns_cons, Nat.add_eq_zero_iff] at none
    refine (ih none.2).trans ?_
    rw [nextUnit_apply, if_neg]
    simpa [spawns] using none.1

theorem now_apply (other : op ≠ .tick) : (w.apply op).2.now = w.now := by
  have applied := w.applied op
  generalize (w.apply op).2 = w' at applied ⊢
  cases applied with
  | ticked => exact absurd rfl other
  | _ => rfl

theorem queues_of_local (only : op.isLocal = true) : (w.apply op).2.queues = w.queues := by
  have applied := w.applied op
  generalize (w.apply op).2 = w' at applied ⊢
  cases applied with
  | ticked => cases only
  | drained => cases only
  | _ => rfl

def furnish (w : World) (config : Config) (queues : Queues) : World := { w with config, queues }

theorem apply_furnish (only : op.isLocal = true) (config : Config) (queues : Queues) :
    (w.furnish config queues).apply op =
      ((w.apply op).1, (w.apply op).2.furnish config queues) := by
  have unit (id : UnitId) : (w.furnish config queues).unit id = w.unit id := rfl
  cases op with
  | destroy id =>
    simp only [apply, destroy, unit]
    cases w.unit id <;> rfl
  | runScript id name args =>
    simp only [apply, runScript, unit]
    cases w.unit id with
    | error error => rfl
    | ok unit =>
      simp only [bind, Except.bind]
      cases unit.environment.startScript name args with
      | error error => cases error <;> rfl
      | ok started => rfl
  | sendSignal id signal =>
    simp only [apply, sendSignal, unit]
    cases w.unit id <;> rfl
  | spawn module => cases only
  | tick => cases only
  | drainEffects => cases only

theorem exists_turn (live : w.units[id]? = some unit) : ∃ g, (id, unit, g) ∈ w.turns := by
  rw [← Std.ExtTreeMap.mem_toList_iff_getElem?_eq_some,
    ← Table.map_visits (tickUnit w.config w.now) w.units.toList { queues := w.queues },
    List.mem_map] at live
  obtain ⟨⟨id, unit, g⟩, turn, same⟩ := live
  cases same
  exact ⟨g, turn⟩

theorem filter_turns_of_missing (missing : w.units[id]? = none) :
    w.turns.filter (·.1 = id) = [] := by
  rw [List.filter_eq_nil_iff]
  rintro ⟨id, unit, g⟩ turn same
  cases of_decide_eq_true same
  rw [Table.getElem?_of_mem_visits turn] at missing
  cases missing

theorem units_tick_of_missing (missing : w.units[id]? = none) : w.tick.2.units[id]? = none := by
  rw [Option.eq_none_iff_forall_not_mem]
  intro unit live
  obtain ⟨before, g, turn, -⟩ := units_tick_iff.mp live
  rw [Table.getElem?_of_mem_visits turn] at missing
  cases missing

theorem units_apply_of_not_concerns (old : id ≠ w.nextUnit) (other : op.concerns id = false) :
    (w.apply op).2.units[id]? = w.units[id]? := by
  have elsewhere {id' : UnitId} (ne : id' ≠ id) (unit : UnitState) :
      (w.units.insert id' unit)[id]? = w.units[id]? := by
    rw [Std.ExtTreeMap.getElem?_insert, if_neg (by simpa using ne)]
  have applied := w.applied op
  generalize (w.apply op).2 = w' at applied ⊢
  cases applied with
  | spawned module => exact elsewhere old.symm _
  | destroyed id' =>
    have ne : id' ≠ id := by simpa [Operation.concerns] using other
    simp only [Std.ExtTreeMap.getElem?_erase]
    rw [if_neg (by simpa using ne)]
  | started _ _ => exact elsewhere (by simpa [Operation.concerns] using other) _
  | signalled _ _ => exact elsewhere (by simpa [Operation.concerns] using other) _
  | ticked => cases other
  | drained => rfl
  | refused _ _ => rfl

theorem isSome_apply (live : w.units[id]?.isSome = true) (kept : op ≠ .destroy id) :
    (w.apply op).2.units[id]?.isSome = true := by
  have inserted (id' : UnitId) (unit : UnitState) :
      (w.units.insert id' unit)[id]?.isSome = true := by
    rw [Std.ExtTreeMap.getElem?_insert]
    split
    · rfl
    · exact live
  have applied := w.applied op
  generalize (w.apply op).2 = w' at applied
  cases applied with
  | spawned module => exact inserted ..
  | destroyed id' =>
    have ne : id' ≠ id := by
      rintro rfl
      exact kept rfl
    simpa [Std.ExtTreeMap.getElem?_erase, ne] using live
  | started => exact inserted ..
  | signalled => exact inserted ..
  | ticked =>
    obtain ⟨unit, live⟩ := Option.isSome_iff_exists.mp live
    obtain ⟨g, turn⟩ := exists_turn live
    rw [units_tick_iff.mpr ⟨unit, g, turn, rfl⟩]
    rfl
  | drained => exact live
  | refused => exact live

theorem exists_after (live : w.units[id]? = some unit) {ops : List Operation}
    (kept : .destroy id ∉ ops) : ∃ unit, (w.after ops).units[id]? = some unit := by
  rw [← Option.isSome_iff_exists]
  replace live : w.units[id]?.isSome = true := by rw [live]; rfl
  induction ops generalizing w with
  | nil => exact live
  | cons op rest ih =>
    rw [List.mem_cons, not_or] at kept
    exact ih kept.2 (isSome_apply live (Ne.symm kept.1))

theorem origin_apply (old : id ≠ w.nextUnit) (live : (w.apply op).2.units[id]? = some unit) :
    ∃ before, w.units[id]? = some before ∧
      unit.environment.module = before.environment.module ∧
      (op ≠ .tick → unit.pieces = before.pieces) := by
  have applied := w.applied op
  generalize (w.apply op).2 = w' at applied live
  cases applied with
  | spawned module =>
    simp only [spawn, Std.ExtTreeMap.getElem?_insert] at live
    rw [if_neg (by simpa using old.symm)] at live
    exact ⟨unit, live, rfl, fun _ => rfl⟩
  | destroyed id' =>
    simp only [Std.ExtTreeMap.getElem?_erase] at live
    split at live
    · cases live
    · exact ⟨unit, live, rfl, fun _ => rfl⟩
  | @started id' _ _ before _ _ found started =>
    simp only [Std.ExtTreeMap.getElem?_insert] at live
    split at live
    · next same =>
      cases Std.LawfulEqCmp.eq_of_compare same
      cases live
      obtain ⟨script, entry, -, -, rfl⟩ := Environment.startScript_eq_ok started
      exact ⟨before, found, rfl, fun _ => rfl⟩
    · exact ⟨unit, live, rfl, fun _ => rfl⟩
  | @signalled id' before signal found =>
    simp only [Std.ExtTreeMap.getElem?_insert] at live
    split at live
    · next same =>
      cases Std.LawfulEqCmp.eq_of_compare same
      cases live
      exact ⟨before, found, rfl, fun _ => rfl⟩
    · exact ⟨unit, live, rfl, fun _ => rfl⟩
  | ticked =>
    obtain ⟨before, g, turn, rfl⟩ := units_tick_iff.mp live
    exact ⟨before, Table.getElem?_of_mem_visits turn, module_runTick .., absurd rfl⟩
  | drained => exact ⟨unit, live, rfl, fun _ => rfl⟩
  | refused => exact ⟨unit, live, rfl, fun _ => rfl⟩

theorem module_apply (old : id ≠ w.nextUnit) (live : (w.apply op).2.units[id]? = some unit) :
    ∃ before, w.units[id]? = some before ∧
      unit.environment.module = before.environment.module := by
  obtain ⟨before, found, same, -⟩ := origin_apply old live
  exact ⟨before, found, same⟩

end World

end UnitScript
