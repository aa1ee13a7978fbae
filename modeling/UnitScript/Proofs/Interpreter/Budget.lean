import UnitScript.Proofs.Interpreter.InPlace

namespace UnitScript

def Config.withBudget (config : Config) (budget : Nat) : Config :=
  { config with runtime := { config.runtime with maxInstructionsPerRun := budget } }

namespace Machine

variable {σ : Type} [Host σ] {config : Config} {now : Tick}

def spend (config : Config) (now : Tick) (m : Machine σ) : Status × Machine σ :=
  m.run config now config.runtime.maxInstructionsPerRun

def spendInPlace (config : Config) (now : Tick) (m : Machine σ) : Status × Machine σ :=
  m.runInPlace config now config.runtime.maxInstructionsPerRun

/-- Go on where a run was cut off; a run that has come to an end of its own is over. -/
def resume (next : Machine σ → Status × Machine σ) : Status × Machine σ → Status × Machine σ
  | (.continuing, m) => next m
  | ended => ended

omit [Host σ] in
theorem resume_of_ended (next : Machine σ → Status × Machine σ) {r : Status × Machine σ}
    (ended : r.1 ≠ .continuing) : resume next r = r := by
  obtain ⟨status, m⟩ := r
  cases status with
  | continuing => exact absurd rfl ended
  | _ => rfl

omit [Host σ] in
theorem add_of_turns {loop : Nat → Machine σ → Status × Machine σ}
    (zero : ∀ m, loop 0 m = (.continuing, m))
    (succ : ∀ count m, loop (count + 1) m = resume (loop count) (loop 1 m))
    (first second : Nat) (m : Machine σ) :
    loop (first + second) m = resume (loop second) (loop first m) := by
  induction first generalizing m with
  | zero => rw [Nat.zero_add, zero, resume]
  | succ first ih =>
    rw [Nat.succ_add, succ, succ first]
    obtain ⟨status, m'⟩ := loop 1 m
    cases status with
    | continuing => exact ih m'
    | _ => rfl

theorem run_succ (config : Config) (now : Tick) (count : Nat) (m : Machine σ) :
    m.run config now (count + 1) = resume (run config now count) (m.run config now 1) := by
  rw [run, run]
  cases m.step config now with
  | error kind => rfl
  | ok s =>
    cases stop : s.stop with
    | none => simp only [stop, run, resume]
    | some halt => cases halt <;> simp only [stop] <;> rfl

theorem runInPlace_succ (config : Config) (now : Tick) (count : Nat) (m : Machine σ) :
    m.runInPlace config now (count + 1) =
      resume (runInPlace config now count) (m.runInPlace config now 1) := by
  rw [runInPlace, runInPlace]
  obtain ⟨result, next⟩ := (stepInPlace config now).on m
  cases result with
  | error kind => rfl
  | ok halt =>
    cases halt with
    | none => rfl
    | some halt => cases halt <;> rfl

theorem run_add (config : Config) (now : Tick) (first second : Nat) (m : Machine σ) :
    m.run config now (first + second) =
      resume (run config now second) (m.run config now first) :=
  add_of_turns (fun _ => rfl) (run_succ config now) first second m

theorem runInPlace_add (config : Config) (now : Tick) (first second : Nat) (m : Machine σ) :
    m.runInPlace config now (first + second) =
      resume (runInPlace config now second) (m.runInPlace config now first) :=
  add_of_turns (fun _ => rfl) (runInPlace_succ config now) first second m

theorem run_add_of_continuing {first : Nat} {m m' : Machine σ}
    (cut : m.run config now first = (.continuing, m')) (second : Nat) :
    m.run config now (first + second) = m'.run config now second := by
  rw [run_add, cut, resume]

theorem run_add_of_ended {first : Nat} {m : Machine σ}
    (ended : (m.run config now first).1 ≠ .continuing) (more : Nat) :
    m.run config now (first + more) = m.run config now first := by
  rw [run_add, resume_of_ended _ ended]

theorem runInPlace_add_of_ended {first : Nat} {m : Machine σ}
    (ended : (m.runInPlace config now first).1 ≠ .continuing) (more : Nat) :
    m.runInPlace config now (first + more) = m.runInPlace config now first := by
  rw [runInPlace_add, resume_of_ended _ ended]

theorem step_withBudget (config : Config) (now : Tick) (budget : Nat) (m : Machine σ) :
    m.step (config.withBudget budget) now = m.step config now := by
  have same (t : Thread) (i : Instr) :
      m.execute (config.withBudget budget) now t i = m.execute config now t i := by
    cases i <;> rfl
  simp only [step, same]

theorem run_withBudget (config : Config) (now : Tick) (budget count : Nat) (m : Machine σ) :
    m.run (config.withBudget budget) now count = m.run config now count := by
  induction count generalizing m with
  | zero => rfl
  | succ count ih => simp only [run, step_withBudget, ih]

theorem spend_withBudget (config : Config) (now : Tick) (budget : Nat) :
    (spend (config.withBudget budget) now : Machine σ → _) = run config now budget := by
  funext m
  exact run_withBudget config now budget budget m

theorem stepInPlace_withBudget (config : Config) (now : Tick) (budget : Nat) :
    (stepInPlace (config.withBudget budget) now : Action σ _) = stepInPlace config now := by
  have same (i : Instr) :
      (executeInPlace (config.withBudget budget) now i : Action σ _) =
        executeInPlace config now i := by
    cases i <;> rfl
  simp only [stepInPlace, same]

theorem runInPlace_withBudget (config : Config) (now : Tick) (budget count : Nat)
    (m : Machine σ) :
    m.runInPlace (config.withBudget budget) now count = m.runInPlace config now count := by
  induction count generalizing m with
  | zero => rfl
  | succ count ih => simp only [runInPlace, stepInPlace_withBudget, ih]

theorem spendInPlace_withBudget (config : Config) (now : Tick) (budget : Nat) :
    (spendInPlace (config.withBudget budget) now : Machine σ → _) =
      runInPlace config now budget := by
  funext m
  exact runInPlace_withBudget config now budget budget m

/-- To yield makes no difference to a thread: a run with one budget is the same as two runs that
share it, and a greater budget does nothing to a run that was not cut off. The same holds where
every part of an instruction is done at once. -/
theorem yields_unnoticed (config : Config) (now : Tick) (m : Machine σ) (first second : Nat) :
    m.spend (config.withBudget (first + second)) now =
        resume (spend (config.withBudget second) now)
          (m.spend (config.withBudget first) now) ∧
      (∀ greater, first ≤ greater → (m.spend (config.withBudget first) now).1 ≠ .continuing →
        m.spend (config.withBudget greater) now = m.spend (config.withBudget first) now) ∧
      m.spendInPlace (config.withBudget (first + second)) now =
        resume (spendInPlace (config.withBudget second) now)
          (m.spendInPlace (config.withBudget first) now) ∧
      ∀ greater, first ≤ greater →
        (m.spendInPlace (config.withBudget first) now).1 ≠ .continuing →
        m.spendInPlace (config.withBudget greater) now =
          m.spendInPlace (config.withBudget first) now := by
  simp only [spend_withBudget, spendInPlace_withBudget]
  refine ⟨run_add config now first second m, ?_, runInPlace_add config now first second m, ?_⟩
  · intro greater le ended
    obtain ⟨more, rfl⟩ := Nat.exists_eq_add_of_le le
    exact run_add_of_ended ended more
  · intro greater le ended
    obtain ⟨more, rfl⟩ := Nat.exists_eq_add_of_le le
    exact runInPlace_add_of_ended ended more

def relay : Module where
  definition :=
    { statics := 1
      scripts := #[{ name := "Main", offset := 0 }, { name := "Leg", offset := 3, locals := 1 }]
      code := #[.pushConstant 5, .callScript ⟨1⟩ 1, .returnFromScript, .pushLocal 0, .popStatic 0,
        .pushConstant 40, .sleep, .returnFromScript] }
  checked := by decide +kernel

def relayMachine : Machine Recorder where
  thread := .start 1 ⟨0⟩ { name := "Main", offset := 0 } [] 0
  environment := .create relay 1 0
  host := { pieces := .ofCount 0 }

theorem relay_unnoticed :
    (relayMachine.spend (.withBudget {} 3) 0).1 = .continuing ∧
      (relayMachine.spend (.withBudget {} 3) 0).2.thread.frames.depth = 2 ∧
      (relayMachine.spend (.withBudget {} 6) 0).1 = .blocked (.sleep 2) ∧
      relayMachine.spend (.withBudget {} 6) 0 =
        resume (spend (.withBudget {} 3) 0) (relayMachine.spend (.withBudget {} 3) 0) ∧
      relayMachine.spend (.withBudget {} 100) 0 = relayMachine.spend (.withBudget {} 6) 0 ∧
      relayMachine.spendInPlace (.withBudget {} 6) 0 =
        resume (spendInPlace (.withBudget {} 3) 0)
          (relayMachine.spendInPlace (.withBudget {} 3) 0) ∧
      relayMachine.spendInPlace (.withBudget {} 100) 0 =
        relayMachine.spendInPlace (.withBudget {} 6) 0 := by
  have stops : (relayMachine.spend (.withBudget {} 6) 0).1 = .blocked (.sleep 2) := by
    decide +kernel
  have stopsInPlace : (relayMachine.spendInPlace (.withBudget {} 6) 0).1 = .blocked (.sleep 2) := by
    decide +kernel
  obtain ⟨cut, -, cutInPlace, -⟩ := yields_unnoticed {} 0 relayMachine 3 3
  obtain ⟨-, more, -, moreInPlace⟩ := yields_unnoticed {} 0 relayMachine 6 0
  refine ⟨by decide +kernel, by decide +kernel, stops, cut, ?_, cutInPlace, ?_⟩
  · exact more 100 (by decide) (by rw [stops]; exact Status.noConfusion)
  · exact moreInPlace 100 (by decide) (by rw [stopsInPlace]; exact Status.noConfusion)

end Machine

end UnitScript
