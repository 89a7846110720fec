import Mathlib.Tactic

namespace KeyedLog

open List Function

variable {K V : Type} [DecidableEq K]

def write (v : K → Option V) (w : K × Option V) : K → Option V := Function.update v w.1 w.2

def replay (v : K → Option V) (ws : List (K × Option V)) : K → Option V := ws.foldl write v

@[simp] theorem replay_nil (v : K → Option V) : replay v [] = v := rfl

@[simp] theorem replay_cons (v : K → Option V) (w : K × Option V) (ws : List (K × Option V)) :
    replay v (w :: ws) = replay (write v w) ws := rfl

theorem replay_append (v : K → Option V) (ws us : List (K × Option V)) :
    replay v (ws ++ us) = replay (replay v ws) us := foldl_append

variable {v : K → Option V} {k : K}

theorem update_cases {j : K} {w : Option V} {x : V} (h : Function.update v k w j = some x) :
    (j = k ∧ w = some x) ∨ (j ≠ k ∧ v j = some x) := by
  by_cases hj : j = k
  · rw [hj,update_self] at h
    exact .inl ⟨hj,h⟩
  · rw [update_of_ne hj] at h
    exact .inr ⟨hj,h⟩

theorem write_same {w : K × Option V} (h : w.1 = k) : write v w k = w.2 := by
  subst h
  exact update_self ..

theorem write_other {w : K × Option V} (h : w.1 ≠ k) :
    write v w k = v k := update_of_ne (Ne.symm h) ..

variable {ws : List (K × Option V)}

theorem replay_untouched (h : ∀ w ∈ ws, w.1 ≠ k) : replay v ws k = v k := by
  induction ws generalizing v with
  | nil => rfl
  | cons w ws ih =>
    rw [replay_cons,ih (fun u hu => h u (by simp [hu])),write_other (h w (by simp))]

theorem replay_congr {u : K → Option V} (h : v k = u k) (ws : List (K × Option V)) :
    replay v ws k = replay u ws k := by
  induction ws generalizing v u with
  | nil => exact h
  | cons w ws ih =>
    refine ih ?_
    by_cases hw : w.1 = k
    · rw [write_same hw,write_same hw]
    · rw [write_other hw,write_other hw,h]

theorem replay_flatMap {g : K → List (K × Option V)} (hg : ∀ k, ∀ w ∈ g k, w.1 = k)
    {ks : List K} (hn : ks.Nodup) (v : K → Option V) (k : K) :
    replay v (ks.flatMap g) k = if k ∈ ks then replay v (g k) k else v k := by
  induction ks generalizing v with
  | nil => simp
  | cons a as ih =>
    obtain ⟨ha,has⟩ := nodup_cons.mp hn
    rw [flatMap_cons,replay_append,ih has]
    by_cases hk : k = a
    · subst hk
      simp [ha]
    have hu : replay v (g a) k = v k :=
      replay_untouched fun w hw hwk => hk (hwk.symm.trans (hg a w hw))
    rw [replay_congr hu (g k),hu]
    simp [hk]

theorem replay_uniform {x : Option V} (h : ∀ w ∈ ws, w.1 = k → w.2 = x) (v : K → Option V) :
    (∃ w ∈ ws, w.1 = k) ∧ replay v ws k = x ∨ (∀ w ∈ ws, w.1 ≠ k) ∧ replay v ws k = v k := by
  induction ws generalizing v with
  | nil => exact .inr ⟨by simp,rfl⟩
  | cons w ws ih =>
    rw [replay_cons]
    rcases ih (fun u hu => h u (by simp [hu])) (write v w) with ⟨⟨u,hu,hk⟩,hx⟩ | ⟨hn,hx⟩
    · exact .inl ⟨⟨u,by simp [hu],hk⟩,hx⟩
    by_cases hw : w.1 = k
    · refine .inl ⟨⟨w,by simp,hw⟩,?_⟩
      rw [hx,write_same hw,h w (by simp) hw]
    exact .inr ⟨forall_mem_cons.mpr ⟨hw,hn⟩,by rw [hx,write_other hw]⟩

theorem replay_last {us : List (K × Option V)} {x : Option V} (h : ∀ w ∈ us, w.1 = k → w.2 = x)
    (hk : ∃ w ∈ us, w.1 = k) (v : K → Option V) : replay v (ws ++ us) k = x := by
  rw [replay_append]
  rcases replay_uniform h (replay v ws) with ⟨-,hx⟩ | ⟨hn,-⟩
  · exact hx
  · obtain ⟨w,hw,hwk⟩ := hk
    exact absurd hwk (hn w hw)

end KeyedLog
