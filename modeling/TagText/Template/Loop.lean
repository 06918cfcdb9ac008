/-!
# Loops that get somewhere

A scanner goes over a template in passes. A pass stops with a fault, leaves the loop, or hands
on a smaller state; `loop` repeats passes until one of the first two happens. Since every pass
that goes on leaves less to scan, this is a total function, and what a pass keeps the loop keeps
(`loop_induction`).
-/

namespace TagText

variable {σ ε : Type}

/-- Repeats `pass` until it stops with a fault or leaves the loop, in the state that it leaves
the loop from. -/
def loop (size : σ → Nat) (pass : σ → Except ε (Option σ))
    (shrinks : ∀ s t, pass s = .ok (some t) → size t < size s) (s : σ) : Except ε σ :=
  match h : pass s with
  | .error e => .error e
  | .ok none => .ok s
  | .ok (some t) =>
    have := shrinks s t h
    loop size pass shrinks t
termination_by size s

variable {size : σ → Nat} {pass : σ → Except ε (Option σ)}
  {shrinks : ∀ s t, pass s = .ok (some t) → size t < size s} {s t : σ} {e : ε}

theorem loop_of_error (h : pass s = .error e) : loop size pass shrinks s = .error e := by
  rw [loop]
  split <;> simp_all

theorem loop_of_none (h : pass s = .ok none) : loop size pass shrinks s = .ok s := by
  rw [loop]
  split <;> simp_all

theorem loop_of_some (h : pass s = .ok (some t)) :
    loop size pass shrinks s = loop size pass shrinks t := by
  rw [loop]
  split <;> simp_all

/-- What holds at the start, and after a pass if before it, holds when the loop is left. -/
theorem loop_induction {P : σ → Prop} (step : ∀ s t, P s → pass s = .ok (some t) → P t)
    (start : P s) (h : loop size pass shrinks s = .ok t) : P t ∧ pass t = .ok none := by
  fun_induction loop size pass shrinks s with
  | case1 s e he => simp at h
  | case2 s hn => simp at h; subst h; exact ⟨start, hn⟩
  | case3 s u hu _ ih => exact ih (step s u start hu) h

/-- What holds at the start, and after a pass if before it, holds where a fault stops the loop. -/
theorem loop_error_induction {P : σ → Prop} (step : ∀ s t, P s → pass s = .ok (some t) → P t)
    (start : P s) (h : loop size pass shrinks s = .error e) : ∃ t, P t ∧ pass t = .error e := by
  fun_induction loop size pass shrinks s with
  | case1 s e' he => exact ⟨s, start, Except.error.inj h ▸ he⟩
  | case2 s hn => simp at h
  | case3 s u hu _ ih => exact ih (step s u start hu) h

theorem size_le_of_loop (h : loop size pass shrinks s = .ok t) : size t ≤ size s :=
  (loop_induction (P := fun u => size u ≤ size s)
    (fun u v hu huv => Nat.le_trans (Nat.le_of_lt (shrinks u v huv)) hu) (Nat.le_refl _) h).1

end TagText
