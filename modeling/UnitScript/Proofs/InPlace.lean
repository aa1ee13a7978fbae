namespace UnitScript

/-- A computation on a state. A failure does not take back what was done before it. -/
abbrev InPlace (ε σ α : Type) := ExceptT ε (StateM σ) α

namespace InPlace

variable {ε σ α : Type}

def on (x : InPlace ε σ α) (s : σ) : Except ε α × σ := (ExceptT.run x).run s

def settle (s : σ) : Except ε (α × σ) → Except ε α × σ
  | .ok (a, s') => (.ok a, s')
  | .error error => (.error error, s)

theorem settle_eq_error_iff {s s' : σ} {x : Except ε (α × σ)} {error : ε} :
    settle s x = (.error error, s') ↔ x = .error error ∧ s' = s := by
  cases x with
  | ok r => simp [settle]
  | error e => simp [settle, eq_comm]

theorem on_get_bind (k : σ → InPlace ε σ α) (s : σ) :
    (get >>= k : InPlace ε σ α).on s = (k s).on s := rfl

end InPlace

end UnitScript
