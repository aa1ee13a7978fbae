import UnitScript.Proofs.Tick.Simulation

namespace UnitScript

inductive Emission
  | act (act : Act)
  | fault (thread : ThreadId) (fault : Fault)
  deriving DecidableEq

def Deed.emission? : Deed → Option Emission
  | .act a => some (.act a)
  | _ => .none

theorem Deed.filterMap_emission?_cons (d : Deed) (ds : List Deed) :
    (d :: ds).filterMap emission? = d.emission?.toList ++ ds.filterMap emission? := by
  cases told : d.emission? <;> simp [told]

def Status.emission? (thread : ThreadId) : Status → Option Emission
  | .faulted fault => some (.fault thread fault)
  | _ => none

/-- A property of a host and of what it has been told, which holds on whatever scripts do. -/
structure Host.Hears {σ : Type} [Host σ] (P : List Emission → σ → Prop) : Prop where
  request : ∀ {told h}, P told h → ∀ piece request, P told (Host.request piece request h)
  setValue : ∀ {told h}, P told h → ∀ key value, P told (Host.setValue key value h)
  act : ∀ {told h}, P told h → ∀ act, P (told ++ [.act act]) (Host.act act h)
  reportFault : ∀ {told h}, P told h → ∀ thread fault,
    P (told ++ [.fault thread fault]) (Host.reportFault thread fault h)

variable {σ τ : Type} [Host σ] [Host τ] {P : List Emission → σ → Prop} {R : σ → τ → Prop}
  {told : List Emission}

namespace Machine

def emissions (config : Config) (now : Tick) (budget : Nat) (m : Machine σ) : List Emission :=
  (m.deeds config now budget).filterMap Deed.emission? ++
    ((m.run config now budget).1.emission? m.thread.id).toList

theorem hears_perform (hears : Host.Hears P) {host : σ} (h : P told host) (t : Thread)
    (e : Environment) (d : Deed) :
    P (told ++ d.emission?.toList) (perform t e host d).host := by
  cases d with
  | request piece request => simpa [Deed.emission?, perform] using hears.request h piece request
  | act act => exact hears.act h act
  | setValue key value => simpa [Deed.emission?, perform] using hears.setValue h key value
  | _ => simpa [Deed.emission?, perform] using h

theorem hears_run (hears : Host.Hears P) {m : Machine σ} (h : P told m.host) (config : Config)
    (now : Tick) (budget : Nat) :
    P (told ++ m.emissions config now budget) (m.run config now budget).2.host := by
  induction budget generalizing m told with
  | zero => simpa [emissions, deeds, run, Status.emission?] using h
  | succ budget ih =>
    cases worked : m.step config now with
    | error kind =>
      simp only [emissions, deeds, run, worked]
      exact hears.reportFault h _ _
    | ok s =>
      have next := hears_perform hears h s.thread m.environment s.deed
      cases stop : s.stop with
      | none =>
        have id_eq : (perform s.thread m.environment m.host s.deed).thread.id = m.thread.id := by
          rw [id_perform, ((m.step_follows config now).of_ok worked).id]
        have rest := ih next
        simp only [emissions, deeds, run, worked, stop, id_eq] at rest ⊢
        rwa [Deed.filterMap_emission?_cons, List.append_assoc, ← List.append_assoc told]
      | some halt =>
        simp only [emissions, deeds, run, worked, stop, host_settle]
        have quiet : halt.status.emission? m.thread.id = none := by
          cases halt <;> rfl
        rwa [quiet, Deed.filterMap_emission?_cons, List.filterMap_nil, List.append_nil,
          Option.toList_none, List.append_nil]

theorem Alike.emissions_eq {m : Machine σ} {m' : Machine τ} (alike : Alike R m m')
    (sim : Host.Simulation R) (config : Config) (now : Tick) (budget : Nat) :
    m.emissions config now budget = m'.emissions config now budget := by
  obtain ⟨status, -, deeds⟩ := alike.run sim config now budget
  rw [emissions, emissions, status, deeds, alike.thread]

end Machine

namespace TickState

def emissions (config : Config) (now : Tick) (ids : List ThreadId) (s : TickState σ) :
    List Emission :=
  (machines config now ids s).flatMap
    (Machine.emissions config now config.runtime.maxInstructionsPerRun)

theorem hears_turn (hears : Host.Hears P) {s : TickState σ} (h : P told s.host) (config : Config)
    (now : Tick) (id : ThreadId) :
    P (told ++ emissions config now [id] s) (s.turn config now id).host := by
  have turn := turn_cases config now s id
  generalize s.turn config now id = s' at turn
  cases turn with
  | gone missing => simpa [emissions, machines, dispatch?_of_missing missing] using h
  | held found blocked waits =>
    simpa [emissions, machines, dispatch?_of_idle found (isDue_of_held blocked waits)] using h
  | @runs t found due =>
    have dispatched : s.dispatch? now id = some _ := dispatch?_eq_some_iff.mpr ⟨t, found, due, rfl⟩
    have told := Machine.hears_run hears
      (m := { thread := t.wake, environment := s.environment.detach id, host := s.host }) h config
      now config.runtime.maxInstructionsPerRun
    simpa [emissions, machines, dispatched, runThread] using told
  | dropped found stuck =>
    simpa [emissions, machines, dispatch?_of_idle found (isDue_of_stuck stuck)] using h

theorem hears_foldl_turn (hears : Host.Hears P) {s : TickState σ} (h : P told s.host)
    (config : Config) (now : Tick) (ids : List ThreadId) :
    P (told ++ emissions config now ids s) (ids.foldl (turn config now) s).host := by
  induction ids generalizing s told with
  | nil => simpa [emissions, machines] using h
  | cons id rest ih =>
    have next := ih (hears_turn hears h config now id)
    rw [List.append_assoc] at next
    simpa [emissions, machines] using next

theorem isDue_eq {host : σ} {host' : τ} (related : R host host') (sim : Host.Simulation R) :
    isDue host = isDue host' := by
  funext now t
  simp only [isDue, isCleared_eq related sim]

theorem Alike.flatMap_machines {α : Type} {view : Machine σ → List α} {view' : Machine τ → List α}
    {s : TickState σ} {s' : TickState τ} (alike : Alike R s s') (sim : Host.Simulation R)
    (config : Config) (now : Tick) (ids : List ThreadId)
    (same : ∀ m m', Machine.Alike R m m' → view m = view' m') :
    (machines config now ids s).flatMap view = (machines config now ids s').flatMap view' := by
  induction ids generalizing s s' with
  | nil => rfl
  | cons id rest ih =>
    have later := ih (alike.turn sim config now id)
    simp only [machines, List.flatMap_append]
    rw [later, List.append_cancel_right_eq]
    simp only [dispatch?, alike.environment, isDue_eq alike.host sim]
    cases (s'.environment.thread? id).filter (isDue s'.host now) with
    | none => rfl
    | some t =>
      simp only [Option.map_some, Option.toList_some, List.flatMap_singleton]
      exact same _ _ ⟨rfl, rfl, alike.host⟩

theorem Alike.emissions_eq {s : TickState σ} {s' : TickState τ} (alike : Alike R s s')
    (sim : Host.Simulation R) (config : Config) (now : Tick) (ids : List ThreadId) :
    emissions config now ids s = emissions config now ids s' := by
  refine alike.flatMap_machines sim config now ids ?_
  intro m m' alike
  exact alike.emissions_eq sim config now _

end TickState

def tickEmissions (config : Config) (now : Tick) (e : Environment) (host : σ) : List Emission :=
  TickState.emissions config now e.threadIds { environment := e, host }

theorem hears_runTick (hears : Host.Hears P) {host : σ} (h : P told host) (config : Config)
    (now : Tick) (e : Environment) :
    P (told ++ tickEmissions config now e host) (runTick config now e host).host :=
  TickState.hears_foldl_turn (s := { environment := e, host }) hears h config now e.threadIds

theorem tickEmissions_eq {host : σ} {host' : τ} (related : R host host') (sim : Host.Simulation R)
    (config : Config) (now : Tick) (e : Environment) :
    tickEmissions config now e host = tickEmissions config now e host' := by
  have start : TickState.Alike R { environment := e, host } { environment := e, host := host' } :=
    ⟨rfl, related, rfl⟩
  exact start.emissions_eq sim config now e.threadIds

end UnitScript
