namespace CrateDocs

/-!
# Sequences of steps that can fail

A sequence is stopped by the first of its steps that fails. A step may tell its error in a way of
its own (`Except.mapError`), which changes nothing of what it gives.

* `bind_eq_ok_iff` and `bind_eq_error_iff` — how a sequence ends, by its first step and the rest;
* `check_eq_ok_iff` — a check is passed before a sequence goes on;
* `mapError_bind_eq_ok_iff` and `mapError_bind_eq_error_iff` — the same where the first step tells
  its error.
-/

section Sequence

variable {ε ε' α β : Type} {x : Except ε α} {f : α → Except ε β} {b : β} {e : ε}

theorem bind_eq_ok_iff : (x >>= f) = .ok b ↔ ∃ a, x = .ok a ∧ f a = .ok b := by
  cases x <;> simp [bind, Except.bind]

theorem bind_eq_error_iff :
    (x >>= f) = .error e ↔ x = .error e ∨ ∃ a, x = .ok a ∧ f a = .error e := by
  cases x <;> simp [bind, Except.bind]

theorem check_eq_ok_iff {p : Prop} [Decidable p] {rest : Except ε β} :
    (if p then (throw e >>= fun _ : PUnit => rest) else rest) = .ok b ↔ ¬p ∧ rest = .ok b := by
  split
  case isTrue hp => exact ⟨nofun, fun h => absurd hp h.1⟩
  case isFalse hp => simp [hp]

variable {tell : ε' → ε} {y : Except ε' α}

@[simp] theorem mapError_ok (a : α) : (Except.ok a).mapError tell = .ok a := rfl

@[simp] theorem mapError_error (e' : ε') : (Except.error e' : Except ε' α).mapError tell =
    .error (tell e') := rfl

theorem mapError_eq_ok_iff {a : α} : y.mapError tell = .ok a ↔ y = .ok a := by
  cases y <;> simp

theorem mapError_eq_error_iff :
    y.mapError tell = .error e ↔ ∃ e', y = .error e' ∧ tell e' = e := by
  cases y <;> simp

theorem mapError_bind_ok (a : α) : ((Except.ok a).mapError tell >>= f) = f a := rfl

theorem mapError_bind_eq_ok_iff :
    (y.mapError tell >>= f) = .ok b ↔ ∃ a, y = .ok a ∧ f a = .ok b := by
  simp only [bind_eq_ok_iff, mapError_eq_ok_iff]

theorem mapError_bind_eq_error_iff : (y.mapError tell >>= f) = .error e ↔
    (∃ e', y = .error e' ∧ tell e' = e) ∨ ∃ a, y = .ok a ∧ f a = .error e := by
  simp only [bind_eq_error_iff, mapError_eq_error_iff, mapError_eq_ok_iff]

end Sequence

end CrateDocs
