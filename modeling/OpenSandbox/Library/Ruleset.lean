import Mathlib.Tactic

namespace Ruleset

open List

variable {C N : Type}

inductive Verdict where
  | accept
  | drop
  deriving DecidableEq

inductive Target (N : Type) where
  | verdict (v : Verdict)
  | jump (chain : N)
  deriving DecidableEq

structure Rule (C N : Type) where
  cond : C
  target : Target N
  deriving DecidableEq

def Target.outcome (call : N → Option Verdict) : Target N → Option Verdict
  | .verdict v => some v
  | .jump n => call n

def walk (holds : C → Bool) (call : N → Option Verdict) : List (Rule C N) → Option Verdict
  | [] => none
  | r :: rs =>
      if holds r.cond then (r.target.outcome call).or (walk holds call rs) else walk holds call rs

def eval (holds : C → Bool) (chains : N → Option (List (Rule C N))) : Nat → N → Option Verdict
  | 0, _ => none
  | depth + 1, n => walk holds (eval holds chains depth) ((chains n).getD [])

section Walk

variable {holds holds' : C → Bool} {call call' : N → Option Verdict}

theorem walk_append (rs us : List (Rule C N)) :
    walk holds call (rs ++ us) = (walk holds call rs).or (walk holds call us) := by
  induction rs with
  | nil => rfl
  | cons r rs ih =>
    simp only [cons_append,walk,ih]
    split
    · exact (Option.or_assoc ..).symm
    · rfl

variable {rs : List (Rule C N)}

theorem walk_find_none (h : rs.find? (fun r => holds r.cond) = none) :
    walk holds call rs = none := by
  induction rs with
  | nil => rfl
  | cons r rs ih =>
    rw [find?_eq_none] at h
    have hrs : rs.find? (fun r => holds r.cond) = none :=
      find?_eq_none.mpr fun u hu => h u (by simp [hu])
    rw [walk,if_neg (h r (by simp)),ih hrs]

theorem walk_find_some {r : Rule C N} {v : Verdict}
    (h : rs.find? (fun r => holds r.cond) = some r) (hv : r.target.outcome call = some v) :
    walk holds call rs = some v := by
  induction rs with
  | nil => cases h
  | cons a rs ih =>
    rw [find?_cons] at h
    by_cases ha : holds a.cond = true
    · rw [ha] at h
      cases h
      rw [walk,if_pos ha,hv]
      rfl
    · rw [Bool.not_eq_true] at ha
      rw [ha] at h
      rw [walk,if_neg (by simp [ha])]
      exact ih h

theorem walk_congr (hh : ∀ r ∈ rs, holds r.cond = holds' r.cond)
    (hc : ∀ r ∈ rs, r.target.outcome call = r.target.outcome call') :
    walk holds call rs = walk holds' call' rs := by
  induction rs with
  | nil => rfl
  | cons r rs ih =>
    rw [walk,walk,hh r (by simp),hc r (by simp),
      ih (fun u hu => hh u (by simp [hu])) (fun u hu => hc u (by simp [hu]))]

def Plain (rs : List (Rule C N)) : Prop := ∀ r ∈ rs, ∃ v, r.target = .verdict v

def Decisive (holds : C → Bool) (rs : List (Rule C N)) : Prop :=
  ∃ r ∈ rs, holds r.cond = true ∧ ∃ v, r.target = .verdict v

theorem Plain.walk_call (h : Plain rs) : walk holds call rs = walk holds call' rs := by
  refine walk_congr (fun _ _ => rfl) fun r hr => ?_
  obtain ⟨v,hv⟩ := h r hr
  rw [hv]
  rfl

theorem Decisive.walk_isSome (h : Decisive holds rs) : (walk holds call rs).isSome := by
  obtain ⟨r,hr,hh,v,hv⟩ := h
  obtain ⟨pre,post,rfl⟩ := append_of_mem hr
  rw [walk_append,walk,if_pos hh,hv]
  cases walk holds call pre <;> rfl

theorem Decisive.walk_append {us : List (Rule C N)} (h : Decisive holds rs) :
    walk holds call (rs ++ us) = walk holds call rs := by
  obtain ⟨v,hv⟩ := Option.isSome_iff_exists.mp h.walk_isSome
  rw [Ruleset.walk_append,hv]
  rfl

end Walk

end Ruleset
