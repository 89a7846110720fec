import Mathlib.Tactic

namespace Retry

variable {σ : Type} (condition : σ → Bool × σ)

def upTo : Nat → σ → Bool × σ
  | 0, st => (false, st)
  | n + 1, st =>
    match condition st with
    | (true, st') => (true, st')
    | (false, st') => upTo n st'

variable {condition} {n : Nat} {st st' : σ}

theorem upTo_first (h : condition st = (true, st')) : upTo condition (n + 1) st = (true, st') := by
  rw [upTo,h]

theorem upTo_again (h : condition st = (false, st')) :
    upTo condition (n + 1) st = upTo condition n st' := by
  rw [upTo,h]

theorem upTo_preserves {P : σ → Prop} (hP : ∀ st, P st → P (condition st).2) (n : Nat)
    (h : P st) : P (upTo condition n st).2 := by
  induction n generalizing st with
  | zero => exact h
  | succ n ih =>
    have hnext := hP st h
    cases hc : condition st with
    | mk done st' =>
      rw [hc] at hnext
      cases done with
      | true => rwa [upTo_first hc]
      | false =>
        rw [upTo_again hc]
        exact ih hnext

end Retry
