import Mathlib.Tactic

namespace Outcome

open List

variable {ε α β : Type}

variable {f : α → Except ε β}

theorem bind_eq_ok {x : Except ε α} {b : β} : (x >>= f) = .ok b ↔ ∃ a, x = .ok a ∧ f a = .ok b := by
  cases x with
  | error e | ok a => simp [bind,Except.bind]

theorem bind_eq_error {x : Except ε α} {e : ε} :
    (x >>= f) = .error e ↔ x = .error e ∨ ∃ a, x = .ok a ∧ f a = .error e := by
  cases x with
  | error e | ok a => simp [bind,Except.bind]

theorem toOption_eq_some {x : Except ε α} {a : α} : x.toOption = some a ↔ x = .ok a := by
  cases x with
  | error e | ok a => simp [Except.toOption]

def reject : List (Bool × ε) → Except ε Unit
  | [] => .ok ()
  | (refused, e) :: rules => if refused then .error e else reject rules

theorem reject_eq_ok {rules : List (Bool × ε)} :
    reject rules = .ok () ↔ ∀ rule ∈ rules, rule.1 = false := by
  induction rules with
  | nil => simp [reject]
  | cons rule rules ih =>
    obtain ⟨refused,e⟩ := rule
    rw [forall_mem_cons,← ih,reject]
    cases refused <;> simp

variable {xs : List α}

theorem forM_eq_ok {f : α → Except ε Unit} : xs.forM f = .ok () ↔ ∀ x ∈ xs, f x = .ok () := by
  induction xs with
  | nil => exact ⟨fun _ => by simp,fun _ => rfl⟩
  | cons x xs ih =>
    rw [List.forM,bind_eq_ok,List.forall_mem_cons,← ih]
    exact ⟨fun ⟨_,hx,hxs⟩ => ⟨hx,hxs⟩,fun ⟨hx,hxs⟩ => ⟨(),hx,hxs⟩⟩

theorem mapM_eq_ok {ys : List β} :
    xs.mapM f = .ok ys ↔ List.Forall₂ (fun x y => f x = .ok y) xs ys := by
  induction xs generalizing ys with
  | nil =>
    rw [mapM_nil,forall₂_nil_left_iff]
    exact ⟨fun h => by cases h; rfl,fun h => by rw [h]; rfl⟩
  | cons x xs ih =>
    simp only [mapM_cons,bind_eq_ok,ih,forall₂_cons_left_iff]
    constructor
    · rintro ⟨y,hx,ys,hxs,h⟩
      cases h
      exact ⟨y,ys,hx,hxs,rfl⟩
    · rintro ⟨y,ys,hx,hxs,rfl⟩
      exact ⟨y,hx,ys,hxs,rfl⟩

theorem mapM_ok_mem {ys : List β} (h : xs.mapM f = .ok ys) : ∀ y ∈ ys, ∃ x, f x = .ok y := by
  rw [mapM_eq_ok] at h
  induction h with
  | nil => simp
  | cons hxy _ ih => exact forall_mem_cons.mpr ⟨⟨_,hxy⟩,ih⟩

theorem mapM_eq_error {e : ε} (h : xs.mapM f = .error e) : ∃ x ∈ xs, f x = .error e := by
  induction xs with
  | nil => cases h
  | cons x xs ih =>
    rw [mapM_cons,bind_eq_error] at h
    rcases h with hx | ⟨y,_,h⟩
    · exact ⟨x,mem_cons_self,hx⟩
    rcases bind_eq_error.mp h with hxs | ⟨_,_,hpure⟩
    · obtain ⟨w,hw,hfw⟩ := ih hxs
      exact ⟨w,mem_cons_of_mem x hw,hfw⟩
    · cases hpure

end Outcome
