import UnitScript.Proofs.World.Emission
import UnitScript.Proofs.World.Ledger
import UnitScript.Proofs.World.Units

namespace UnitScript

namespace UnitHost

structure Agrees (h h' : UnitHost) : Prop where
  pieces : h.pieces = h'.pieces
  values : h.values = h'.values

theorem simulation_agrees : Host.Simulation Agrees where
  pieces h := h.pieces
  value h key := by simp only [Host.value, h.values]
  request h piece request := ⟨by simp only [Host.request, h.pieces], h.values⟩
  act h _ := ⟨h.pieces, h.values⟩
  setValue h key value := ⟨h.pieces, by simp only [Host.setValue, h.values]⟩
  reportFault h _ _ := ⟨h.pieces, h.values⟩

end UnitHost

namespace World

variable {w w' : World} {u : UnitId} {unit : UnitState} {g : Gathered} {op : Operation}
  {count : Nat}

def Response.about (u : UnitId) : Response → Response
  | .ticked reports => .ticked (reports.filter (·.1 = u))
  | response => response

/-- What is to be seen of a unit when an operation is carried out: the answer, and what the threads
of the unit tell meanwhile. -/
def observe (w : World) (u : UnitId) (op : Operation) : Response × List Emission :=
  ((w.apply op).1.about u,
    match op with
    | .tick => (w.emissions.filter (·.1 = u)).map Prod.snd
    | _ => [])

def observations (u : UnitId) : World → List Operation → List (Response × List Emission)
  | _, [] => []
  | w, op :: rest =>
    if op.concerns u then w.observe u op :: observations u (w.apply op).2 rest
    else observations u (w.apply op).2 rest

structure Alike (u : UnitId) (w w' : World) : Prop where
  config : w.config = w'.config
  now : w.now = w'.now
  units : w.units[u]? = w'.units[u]?

theorem emissions_of_unit (w : World) (u : UnitId) :
    (w.emissions.filter (·.1 = u)).map Prod.snd =
      (w.turns.filter (·.1 = u)).flatMap fun (id, unit, g) =>
        tickEmissions w.config w.now unit.environment (hostOf w.config w.now id unit g) := by
  rw [emissions]
  induction w.turns with
  | nil => rfl
  | cons v rest ih =>
    by_cases here : v.1 = u
    · simp [here, ih, List.filter_map, Function.comp_def]
    · simp [here, ih]

theorem reports_of_unit (w : World) (u : UnitId) :
    w.tick.1.filter (·.1 = u) =
      (w.turns.filter (·.1 = u)).map fun (id, unit, g) =>
        (id, (runTick w.config w.now unit.environment
          (hostOf w.config w.now id unit g)).report) := by
  rw [reports_tick, List.filter_map]
  rfl

theorem Alike.tick (alike : w.Alike u w') :
    w.observe u .tick = w'.observe u .tick ∧ w.tick.2.units[u]? = w'.tick.2.units[u]? := by
  have units := alike.units
  simp only [observe, World.apply, Response.about, emissions_of_unit, reports_of_unit]
  cases live : w.units[u]? with
  | none =>
    rw [live] at units
    simp [units_tick_of_missing live, units_tick_of_missing units.symm,
      filter_turns_of_missing live, filter_turns_of_missing units.symm]
  | some unit =>
    rw [live] at units
    obtain ⟨g, turn⟩ := exists_turn live
    obtain ⟨g', turn'⟩ := exists_turn units.symm
    have agrees : UnitHost.Agrees (hostOf w'.config w'.now u unit g)
        (hostOf w'.config w'.now u unit g') := ⟨rfl, rfl⟩
    have ends := runTick_alike agrees UnitHost.simulation_agrees w'.config w'.now unit.environment
    have told := tickEmissions_eq agrees UnitHost.simulation_agrees w'.config w'.now
      unit.environment
    rw [units_tick_iff.mpr ⟨unit, g, turn, rfl⟩, units_tick_iff.mpr ⟨unit, g', turn', rfl⟩,
      filter_turns turn, filter_turns turn']
    simp [tickUnit_eq, alike.config, alike.now, told, ends.report, ends.environment,
      ends.host.pieces, ends.host.values]

theorem Alike.unit_eq (alike : w.Alike u w') : w.unit u = w'.unit u := by
  simp only [World.unit, alike.units]

theorem Alike.insert (alike : w.Alike u w') (unit : UnitState) :
    { w with units := w.units.insert u unit }.Alike u
      { w' with units := w'.units.insert u unit } where
  config := alike.config
  now := alike.now
  units := by simp

theorem Alike.apply (alike : w.Alike u w') (concerns : op.concerns u = true) :
    w.observe u op = w'.observe u op ∧ (w.apply op).2.Alike u (w'.apply op).2 := by
  cases op with
  | spawn module => cases concerns
  | destroy other =>
    cases of_decide_eq_true concerns
    simp only [observe, World.apply, destroy, alike.unit_eq]
    cases w'.unit u with
    | error error => exact ⟨rfl, alike⟩
    | ok unit =>
      refine ⟨rfl, alike.config, alike.now, ?_⟩
      change (w.units.erase u)[u]? = (w'.units.erase u)[u]?
      simp
  | runScript other name args =>
    cases of_decide_eq_true concerns
    simp only [observe, World.apply, runScript, alike.unit_eq]
    cases w'.unit u with
    | error error => exact ⟨rfl, alike⟩
    | ok unit =>
      simp only [bind, Except.bind]
      cases unit.environment.startScript name args with
      | error error => cases error <;> exact ⟨rfl, alike⟩
      | ok started => exact ⟨rfl, alike.insert _⟩
  | sendSignal other signal =>
    cases of_decide_eq_true concerns
    simp only [observe, World.apply, sendSignal, alike.unit_eq]
    cases w'.unit u with
    | error error => exact ⟨rfl, alike⟩
    | ok unit => exact ⟨rfl, alike.insert _⟩
  | tick =>
    obtain ⟨observe, units⟩ := alike.tick
    exact ⟨observe, alike.config, congrArg (· + 1) alike.now, units⟩
  | drainEffects => cases concerns

theorem Alike.apply_left (alike : w.Alike u w') (old : u ≠ w.nextUnit)
    (other : op.concerns u = false) : (w.apply op).2.Alike u w' where
  config := (config_apply w op).trans alike.config
  now := by
    rw [now_apply, alike.now]
    rintro rfl
    cases other
  units := (units_apply_of_not_concerns old other).trans alike.units

theorem Alike.after (alike : w.Alike u w') (numbered : w.Numbered count) (old : u.toNat ≤ count)
    (ops : List Operation) (room : count + spawns ops < UInt32.size - 1) :
    observations u w ops = observations u w' (ops.filter (·.concerns u)) ∧
      (w.after ops).Alike u (w'.after (ops.filter (·.concerns u))) := by
  induction ops generalizing w w' count with
  | nil => exact ⟨rfl, alike⟩
  | cons op rest ih =>
    rw [spawns_cons, ← Nat.add_assoc] at room
    have next := numbered.apply op (Nat.lt_of_le_of_lt (Nat.le_add_right ..) room)
    have older := Nat.le_trans old (Nat.le_add_right count (spawns [op]))
    cases concerns : op.concerns u with
    | true =>
      obtain ⟨here, alike⟩ := alike.apply concerns
      obtain ⟨later, alike⟩ := ih alike next older room
      rw [List.filter_cons_of_pos concerns]
      refine ⟨?_, alike⟩
      simp only [observations, concerns, if_true, here, later]
    | false =>
      obtain ⟨later, alike⟩ := ih (alike.apply_left (numbered.ne_nextUnit old) concerns) next older
        room
      rw [List.filter_cons_of_neg (by simp [concerns])]
      refine ⟨?_, alike⟩
      rw [observations, if_neg (by simp [concerns]), later]

/-- Two worlds that are the same to a unit, with the same operations on it and the same ticks in the
same order, and whatever else in between: the unit ends the same way, and in the course of it all
answers and reports on it and all that it tells are the same. What a unit tells is what it has to do
with the queues. -/
theorem units_independent (config : Config) (history history' ops ops' : List Operation)
    (live : ((create config).after history).units[u]? = some unit)
    (live' : ((create config).after history').units[u]? = some unit)
    (now : ((create config).after history).now = ((create config).after history').now)
    (room : spawns (history ++ ops) < UInt32.size - 1)
    (room' : spawns (history' ++ ops') < UInt32.size - 1)
    (same : ops.filter (·.concerns u) = ops'.filter (·.concerns u)) :
    ((create config).after (history ++ ops)).units[u]? =
        ((create config).after (history' ++ ops')).units[u]? ∧
      (.destroy u ∉ ops → ∃ unit, ((create config).after (history ++ ops)).units[u]? = some unit) ∧
      observations u ((create config).after history) ops =
        observations u ((create config).after history') ops' ∧
      ∀ w : World, w.tick.2.queues = w.emissions.foldl (Queues.enter w.config w.now) w.queues := by
  rw [spawns_append] at room room'
  have numbered := numbered_after config (Nat.lt_of_le_of_lt (Nat.le_add_right ..) room)
  have numbered' := numbered_after config (Nat.lt_of_le_of_lt (Nat.le_add_right ..) room')
  have alike : ((create config).after history).Alike u ((create config).after history) :=
    ⟨rfl, rfl, rfl⟩
  have alike' : ((create config).after history').Alike u ((create config).after history) :=
    ⟨by simp, now.symm, live'.trans live.symm⟩
  -- Both runs are held against the one that has the operations on the unit only.
  obtain ⟨seen, alike⟩ := alike.after numbered (numbered.toNat_le live) ops room
  obtain ⟨seen', alike'⟩ := alike'.after numbered' (numbered'.toNat_le live') ops' room'
  rw [← same] at seen' alike'
  rw [after_append, after_append]
  refine ⟨alike.units.trans alike'.units.symm, ?_, seen.trans seen'.symm, queues_tick⟩
  intro kept
  exact exists_after live kept

def rowdy : Module where
  definition :=
    { scripts := #[{ name := "Main", offset := 0 }]
      code := #[.pushConstant 1, .pushConstant 6, .randomNumber, .detachUnit, .pushConstant 1,
        .pushConstant 0, .binary .div, .returnFromScript] }
  checked := by decide +kernel

def alone : List Operation := [.runScript 1 "Main" [], .tick, .runScript 1 "Main" [], .tick]

def crowded : List Operation :=
  [.runScript 2 "Main" [], .runScript 1 "Main" [], .tick, .drainEffects, .sendSignal 2 1,
    .runScript 1 "Main" [], .spawn rowdy, .tick, .destroy 2]

theorem rowdy_independent :
    (∃ unit, ((create {}).after ([.spawn rowdy] ++ alone)).units[(1 : UnitId)]? = some unit ∧
      ((create {}).after ([.spawn rowdy, .spawn rowdy] ++ crowded)).units[(1 : UnitId)]? =
        some unit) ∧
    observations 1 ((create {}).after [.spawn rowdy]) alone =
      observations 1 ((create {}).after [.spawn rowdy, .spawn rowdy]) crowded ∧
    (observations 1 ((create {}).after [.spawn rowdy]) alone).map (·.2.length) = [0, 2, 0, 2] := by
  have live : ((create {}).after [.spawn rowdy]).units[(1 : UnitId)]?.isSome = true := by
    decide +kernel
  obtain ⟨unit, live⟩ := Option.isSome_iff_exists.mp live
  have alike : ((create {}).after [.spawn rowdy, .spawn rowdy]).units[(1 : UnitId)]? =
      ((create {}).after [.spawn rowdy]).units[(1 : UnitId)]? := by
    decide +kernel
  obtain ⟨units, kept, seen, -⟩ := units_independent {} _ _ alone crowded live (alike.trans live)
    rfl (by decide) (by decide) (by decide +kernel)
  obtain ⟨unit, live⟩ := kept (by decide +kernel)
  exact ⟨⟨unit, live, units ▸ live⟩, seen, by decide +kernel⟩

end World

end UnitScript
