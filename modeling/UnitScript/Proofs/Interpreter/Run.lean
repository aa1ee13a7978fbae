import UnitScript.Proofs.Interpreter.Step

namespace UnitScript

/-- A host whose pieces change by requests only. -/
class LawfulHost (σ : Type) [Host σ] : Prop where
  pieces_request : ∀ (piece : PieceId) (request : PieceRequest) (h : σ),
    Host.pieces (Host.request piece request h) = (Host.pieces h).perform piece request
  pieces_act : ∀ (act : Act) (h : σ), Host.pieces (Host.act act h) = Host.pieces h
  pieces_setValue : ∀ (key value : Int32) (h : σ),
    Host.pieces (Host.setValue key value h) = Host.pieces h
  pieces_reportFault : ∀ (thread : ThreadId) (fault : Fault) (h : σ),
    Host.pieces (Host.reportFault thread fault h) = Host.pieces h

namespace Environment

def carryOut (e : Environment) : Deed → Environment
  | .setStatic slot value => { e with statics := e.statics.setIfInBounds slot value }
  | .start started => e.enroll started
  | .signal bits => e.sendSignal bits
  | .draw low high => (e.draw low high).2
  | _ => e

@[simp] theorem module_carryOut (e : Environment) (d : Deed) :
    (e.carryOut d).module = e.module := by
  cases d <;> rfl

theorem Sound.carryOut {config : Config} {e : Environment} (h : e.Sound config) {d : Deed}
    (started : ∀ t, d = .start t → t.WellFormed e.module config ∧ t.AtRest e.module) :
    (e.carryOut d).Sound config := by
  cases d with
  | setStatic slot value =>
    refine h.of_subset rfl ?_ id
    simp [Environment.carryOut]
  | start t =>
    obtain ⟨wellFormed, atRest⟩ := started t rfl
    exact h.enroll wellFormed atRest
  | signal bits => exact h.sendSignal bits
  | draw low high => exact h.of_subset rfl rfl id
  | _ => exact h

end Environment

namespace Machine

variable {σ : Type} [Host σ]

@[simp] theorem environment_perform (t : Thread) (e : Environment) (host : σ) (d : Deed) :
    (perform t e host d).environment = e.carryOut d := by
  cases d <;> rfl

@[simp] theorem id_perform (t : Thread) (e : Environment) (host : σ) (d : Deed) :
    (perform t e host d).thread.id = t.id := by
  cases d <;> rfl

@[simp] theorem state_perform (t : Thread) (e : Environment) (host : σ) (d : Deed) :
    (perform t e host d).thread.state = t.state := by
  cases d <;> rfl

@[simp] theorem size_pieces_perform [LawfulHost σ] (t : Thread) (e : Environment) (host : σ)
    (d : Deed) : (Host.pieces (perform t e host d).host).size = (Host.pieces host).size := by
  cases d with
  | request piece request => simp [perform, LawfulHost.pieces_request]
  | act act => simp [perform, LawfulHost.pieces_act]
  | setValue key value => simp [perform, LawfulHost.pieces_setValue]
  | _ => rfl

theorem wellFormed_perform {m : Module} {config : Config} {t : Thread} {d : Deed}
    (h : t.WellFormed m config) (sound : d.Sound config t) (e : Environment) (host : σ) :
    (perform t e host d).thread.WellFormed m config := by
  cases d with
  | claimLocal =>
    obtain ⟨f, rest, top, room⟩ := sound
    have fits := h.fits f (top ▸ List.mem_cons_self)
    exact h.mapFrame top rfl rfl (fits.claim room)
  | setLocal slot value =>
    obtain ⟨f, rest, top⟩ := sound
    have fits := h.fits f (top ▸ List.mem_cons_self)
    exact h.mapFrame top rfl rfl (fits.put slot value)
  | draw low high => exact h.of_frames rfl h.ip_le sound
  | _ => exact h

structure Sound (config : Config) (m : Machine σ) : Prop where
  thread : m.thread.WellFormed m.environment.module config
  ready : m.thread.state = .ready
  environment : m.environment.Sound config

variable {config : Config} {now : Tick} {m last : Machine σ} {s : Step}

theorem step_follows (m : Machine σ) (config : Config) (now : Tick) :
    Outcome (fun _ => True) (fun s => s.Follows m.environment m.thread) (m.step config now) := by
  unfold step
  split
  · trivial
  · refine (m.execute_shape ..).mono (fun _ _ => trivial) ?_
    intro s shape
    have follows := shape.follows
    exact ⟨follows.id, follows.state, follows.started⟩

theorem Sound.step_outcome (h : m.Sound config) (now : Tick) :
    Outcome (m.Cause config) (Step.Sound config m.environment) (m.step config now) := by
  unfold step
  split
  · next missing =>
    exact fun _ => Nat.le_antisymm h.thread.ip_le (Module.instr?_eq_none_iff.mp missing)
  · next i fetched =>
    exact (m.execute_shape ..).mono (fun _ => Faults.cause fetched h.thread h.environment.statics)
      fun _ => Shape.sound fetched h.thread

theorem Sound.carryOut (h : m.Sound config) (worked : m.step config now = .ok s) :
    (m.environment.carryOut s.deed).Sound config := by
  have follows := (m.step_follows config now).of_ok worked
  refine h.environment.carryOut ?_
  intro t started
  obtain ⟨script, entry, args, found, rfl⟩ := follows.started t started
  exact ⟨Thread.wellFormed_start found _ args _, .inl rfl⟩

theorem Sound.perform (h : m.Sound config) (worked : m.step config now = .ok s)
    (stop : s.stop = none) : (perform s.thread m.environment m.host s.deed).Sound config := by
  have follows := (m.step_follows config now).of_ok worked
  have sound := (h.step_outcome now).of_ok worked
  refine ⟨?_, ?_, ?_⟩
  · rw [environment_perform, Environment.module_carryOut]
    exact wellFormed_perform (sound.thread (by simp [stop])) sound.deed _ _
  · rw [state_perform, follows.state, h.ready]
  · rw [environment_perform]
    exact h.carryOut worked

inductive Reaches (config : Config) (now : Tick) : Machine σ → Machine σ → Prop
  | refl (m : Machine σ) : Reaches config now m m
  | step {m last : Machine σ} {s : Step} : m.step config now = .ok s → s.stop = none →
    Reaches config now (Machine.perform s.thread m.environment m.host s.deed) last →
      Reaches config now m last

inductive Ends (config : Config) (now : Tick) (last : Machine σ) : Status × Machine σ → Prop
  | exhausted : Ends config now last (.continuing, last)
  | halted {s : Step} {halt : Halt} : last.step config now = .ok s → s.stop = some halt →
    Ends config now last
      (halt.status, (perform s.thread last.environment last.host s.deed).settle halt)
  | faulted {kind : FaultKind} : last.step config now = .error kind →
    Ends config now last (.faulted ⟨last.thread.ip, kind⟩, last.fail ⟨last.thread.ip, kind⟩)

theorem run_ends (config : Config) (now : Tick) (budget : Nat) (m : Machine σ) :
    ∃ last, Reaches config now m last ∧ Ends config now last (run config now budget m) := by
  induction budget generalizing m with
  | zero => exact ⟨m, .refl m, .exhausted⟩
  | succ budget ih =>
    rw [run]
    split
    · next kind error => exact ⟨m, .refl m, .faulted error⟩
    · next s worked =>
      dsimp only
      split
      · next stop =>
        obtain ⟨last, path, ending⟩ := ih (perform s.thread m.environment m.host s.deed)
        exact ⟨last, .step worked stop path, ending⟩
      · next halt stop => exact ⟨m, .refl m, .halted worked stop⟩

theorem Reaches.module_eq (path : Reaches config now m last) :
    last.environment.module = m.environment.module := by
  induction path with
  | refl => rfl
  | step _ _ _ ih => simpa using ih

theorem Reaches.size_pieces [LawfulHost σ] (path : Reaches config now m last) :
    (Host.pieces last.host).size = (Host.pieces m.host).size := by
  induction path with
  | refl => rfl
  | step _ _ _ ih => simpa using ih

theorem Sound.reaches (h : m.Sound config) (path : Reaches config now m last) :
    last.Sound config := by
  induction path with
  | refl => exact h
  | step worked stop _ ih => exact ih (h.perform worked stop)

theorem Reaches.id_eq (path : Reaches config now m last) : last.thread.id = m.thread.id := by
  induction path with
  | refl => rfl
  | step worked _ _ ih =>
    rw [ih, id_perform]
    exact ((step_follows _ config now).of_ok worked).id

theorem Reaches.state_eq (path : Reaches config now m last) :
    last.thread.state = m.thread.state := by
  induction path with
  | refl => rfl
  | step worked _ _ ih =>
    rw [ih, state_perform]
    exact ((step_follows _ config now).of_ok worked).state

variable {r : Status × Machine σ}

theorem Ends.module_eq (ending : Ends config now last r) :
    r.2.environment.module = last.environment.module := by
  cases ending with
  | exhausted => rfl
  | @halted s halt worked stop => cases halt <;> simp [settle]
  | faulted error => rfl

theorem Ends.id_eq (ending : Ends config now last r) : r.2.thread.id = last.thread.id := by
  cases ending with
  | exhausted => rfl
  | @halted s halt worked stop =>
    rw [← ((last.step_follows config now).of_ok worked).id]
    cases halt <;> simp [settle, Thread.block, Thread.finish]
  | faulted error => rfl

theorem Ends.state_eq (ending : Ends config now last r) (live : r.1.isLive = true) :
    r.1 = .continuing ∧ r.2.thread.state = last.thread.state ∨
      ∃ reason, r.1 = .blocked reason ∧ r.2.thread.state = .blocked reason := by
  cases ending with
  | exhausted => exact .inl ⟨rfl, rfl⟩
  | @halted s halt worked stop =>
    cases halt with
    | blocked reason => exact .inr ⟨reason, rfl, rfl⟩
    | finished => cases live
    | killed signal => cases live
  | faulted error => cases live

theorem Ends.size_pieces [LawfulHost σ] (ending : Ends config now last r) :
    (Host.pieces r.2.host).size = (Host.pieces last.host).size := by
  cases ending with
  | exhausted => rfl
  | @halted s halt worked stop => cases halt <;> simp [settle]
  | faulted error => simp [fail, LawfulHost.pieces_reportFault]

theorem Sound.ends_environment (h : last.Sound config) (ending : Ends config now last r) :
    r.2.environment.Sound config := by
  cases ending with
  | exhausted => exact h.environment
  | @halted s halt worked stop =>
    have environment := h.carryOut worked
    cases halt <;> simpa [settle] using environment
  | faulted error => exact h.environment

theorem Sound.ends_thread (h : last.Sound config) (ending : Ends config now last r)
    (live : r.1.isLive = true) :
    r.2.thread.WellFormed last.environment.module config ∧
      r.2.thread.AtRest last.environment.module := by
  cases ending with
  | exhausted => exact ⟨h.thread, .inl h.ready⟩
  | @halted s halt worked stop =>
    cases halt with
    | blocked reason =>
      have sound := (h.step_outcome now).of_ok worked
      obtain ⟨deed, ip, behind, fetched⟩ := sound.waits reason stop
      have thread := sound.thread (by simp [stop])
      rw [deed]
      refine ⟨thread.of_frames rfl thread.ip_le thread.stack_le, .inr ?_⟩
      exact ⟨reason, ip, rfl, behind, fetched, fun piece => Module.piece_lt fetched⟩
    | finished => cases live
    | killed signal => cases live
  | faulted error => cases live

@[simp] theorem id_run (config : Config) (now : Tick) (budget : Nat) (m : Machine σ) :
    (run config now budget m).2.thread.id = m.thread.id := by
  obtain ⟨last, path, ending⟩ := run_ends config now budget m
  rw [ending.id_eq, path.id_eq]

theorem state_run {budget : Nat} (live : (run config now budget m).1.isLive = true) :
    (run config now budget m).1 = .continuing ∧
        (run config now budget m).2.thread.state = m.thread.state ∨
      ∃ reason, (run config now budget m).1 = .blocked reason ∧
        (run config now budget m).2.thread.state = .blocked reason := by
  obtain ⟨last, path, ending⟩ := run_ends config now budget m
  rw [← path.state_eq]
  exact ending.state_eq live

theorem isRunnable_run {budget : Nat} (runnable : m.thread.isRunnable = true)
    (live : (run config now budget m).1.isLive = true) :
    (run config now budget m).2.thread.isRunnable = true := by
  obtain ⟨-, state⟩ | ⟨reason, -, state⟩ := state_run live
  · rw [Thread.isRunnable, state]
    exact runnable
  · rw [Thread.isRunnable, state]

@[simp] theorem module_run (config : Config) (now : Tick) (budget : Nat) (m : Machine σ) :
    (run config now budget m).2.environment.module = m.environment.module := by
  obtain ⟨last, path, ending⟩ := run_ends config now budget m
  rw [ending.module_eq, path.module_eq]

@[simp] theorem size_pieces_run [LawfulHost σ] (config : Config) (now : Tick) (budget : Nat)
    (m : Machine σ) :
    (Host.pieces (run config now budget m).2.host).size = (Host.pieces m.host).size := by
  obtain ⟨last, path, ending⟩ := run_ends config now budget m
  rw [ending.size_pieces, path.size_pieces]

theorem Sound.run_environment (h : m.Sound config) (now : Tick) (budget : Nat) :
    (run config now budget m).2.environment.Sound config := by
  obtain ⟨last, path, ending⟩ := run_ends config now budget m
  exact (h.reaches path).ends_environment ending

theorem Sound.run_thread (h : m.Sound config) {budget : Nat}
    (live : (run config now budget m).1.isLive = true) :
    (run config now budget m).2.thread.WellFormed m.environment.module config ∧
      (run config now budget m).2.thread.AtRest m.environment.module := by
  obtain ⟨last, path, ending⟩ := run_ends config now budget m
  rw [← path.module_eq]
  exact (h.reaches path).ends_thread ending live

theorem Sound.cause_of_faulted (h : m.Sound config) {budget : Nat} {fault : Fault}
    (faulted : (run config now budget m).1 = .faulted fault) :
    ∃ last, Reaches config now m last ∧ last.thread.ip = fault.ip ∧
      last.step config now = .error fault.kind ∧ last.Cause config fault.kind := by
  obtain ⟨last, path, ending⟩ := run_ends config now budget m
  refine ⟨last, path, ?_⟩
  generalize run config now budget m = r at faulted ending
  cases ending with
  | exhausted => cases faulted
  | @halted s halt worked stop => cases halt <;> cases faulted
  | faulted error =>
    cases faulted
    exact ⟨rfl, error, ((h.reaches path).step_outcome now).of_error error⟩

end Machine

end UnitScript
