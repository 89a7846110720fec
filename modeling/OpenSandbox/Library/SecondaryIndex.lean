import Mathlib.Tactic

namespace SecondaryIndex

open Option Function

structure Index (S K : Type) where
  holds : S → Option K
  owner : K → Option S

namespace Index

variable {S K : Type}

def Sound (x : Index S K) : Prop := ∀ k s, x.owner k = some s → x.holds s = some k

def Sole (x : Index S K) (s : S) (k : K) : Prop :=
  x.holds s = some k ∧ ∀ t, t ≠ s → x.holds t ≠ some k

def Complete (x : Index S K) : Prop := ∀ s k, x.Sole s k → x.owner k = some s

def Exact (x : Index S K) : Prop := ∀ s k, x.holds s = some k ↔ x.owner k = some s

def keep (x : Index S K) (p : S → Prop) [DecidablePred p] : Index S K where
  holds t := if p t then x.holds t else none
  owner j := (x.owner j).filter fun t => decide (p t)

variable {x : Index S K}

theorem exact_keep (h : x.Exact) (p : S → Prop) [DecidablePred p] : (x.keep p).Exact := by
  intro t j
  simp only [keep,filter_eq_some_iff,decide_eq_true_eq,← h t j]
  split_ifs with hp <;> simp [hp]

variable [DecidableEq K]

variable (owner : K → Option S) (s : S)

def drop : Option K → K → Option S
  | none => owner
  | some k => Function.update owner k none

def add : Option K → K → Option S
  | none => owner
  | some k => Function.update owner k (some s)

theorem drop_apply (old : Option K) (k : K) :
    drop owner old k = if old = some k then none else owner k := by
  cases old with
  | none => simp [drop]
  | some o => by_cases h : k = o <;> simp [drop,h,eq_comm]

theorem add_apply (new : Option K) (k : K) :
    add owner s new k = if new = some k then some s else owner k := by
  cases new with
  | none => simp [add]
  | some n => by_cases h : k = n <;> simp [add,h,eq_comm]

theorem add_drop_same (k : Option K) : add (drop owner k) s k = add owner s k := by
  funext x
  simp only [add_apply,drop_apply]
  split <;> rfl

theorem add_add_same (k : Option K) : add (add owner s k) s k = add owner s k := by
  funext x
  simp only [add_apply]
  split <;> rfl

variable [DecidableEq S]

def move (x : Index S K) (s : S) (new : Option K) : Index S K :=
  ⟨Function.update x.holds s new,add (drop x.owner (x.holds s)) s new⟩

theorem move_owner (x : Index S K) (s : S) (new : Option K) (k : K) : (x.move s new).owner k =
      if new = some k then some s else if x.holds s = some k then none else x.owner k := by
  change add (drop x.owner (x.holds s)) s new k = _
  rw [add_apply,drop_apply]

theorem move_holds (x : Index S K) (s : S) (new : Option K) (t : S) :
    (x.move s new).holds t = if t = s then new else x.holds t := update_apply ..

theorem sound_move (h : x.Sound) (s : S) (new : Option K) : (x.move s new).Sound := by
  intro k t ht
  rw [move_owner] at ht
  rw [move_holds]
  split at ht
  · next hn => rw [if_pos (some.inj ht).symm,hn]
  split_ifs at ht with hs
  have hk := h k t ht
  rw [if_neg,hk]
  rintro rfl
  exact hs hk

def Abandons (x : Index S K) (s : S) (new : Option K) : Prop :=
  ∃ k, x.holds s = some k ∧ new ≠ some k ∧ ∃ t, t ≠ s ∧ x.holds t = some k ∧
    ∀ u, u ≠ s → u ≠ t → x.holds u ≠ some k

theorem complete_move (h : x.Complete) {s : S} {new : Option K} (ha : ¬ x.Abandons s new) :
    (x.move s new).Complete := by
  rintro t k ⟨ht,hsole⟩
  rw [move_owner]
  by_cases hts : t = s
  · subst hts
    rw [move_holds,if_pos rfl] at ht
    rw [if_pos ht]
  have hnew : new ≠ some k := by
    have hs := hsole s (Ne.symm hts)
    rwa [move_holds,if_pos rfl] at hs
  have htk : x.holds t = some k := by rwa [move_holds,if_neg hts] at ht
  have hothers : ∀ u, u ≠ s → u ≠ t → x.holds u ≠ some k := by
    intro u hus hut
    have hu := hsole u hut
    rwa [move_holds,if_neg hus] at hu
  have hold : x.holds s ≠ some k := fun hs => ha ⟨k,hs,hnew,t,hts,htk,hothers⟩
  rw [if_neg hnew,if_neg hold]
  refine h t k ⟨htk,fun u hut => ?_⟩
  by_cases hus : u = s
  · rw [hus]; exact hold
  · exact hothers u hus hut

theorem not_complete_move {s : S} {new : Option K} (ha : x.Abandons s new) :
    ¬ (x.move s new).Complete := by
  obtain ⟨k,hs,hnew,t,hts,ht,hothers⟩ := ha
  intro hc
  have hown := hc t k ⟨by rw [move_holds,if_neg hts,ht],fun u hut => by
    rw [move_holds]
    split
    · exact hnew
    · next hus => exact hothers u hus hut⟩
  rw [move_owner,if_neg hnew,if_pos hs] at hown
  cases hown

def place (x : Index S K) (s : S) (k : K) : Index S K where
  holds t := if t = s then some k else if x.owner k = some t then none else x.holds t
  owner j := if j = k then some s else if x.holds s = some j then none else x.owner j

theorem exact_place (h : x.Exact) (s : S) (k : K) : (x.place s k).Exact := by
  intro t j
  simp only [place]
  by_cases hts : t = s
  · subst hts
    by_cases hjk : j = k
    · simp [hjk]
    have hnotKey : k ≠ j := Ne.symm hjk
    simp only [hjk,if_true,if_false,some.injEq,hnotKey,false_iff]
    intro howner
    split_ifs at howner with hheld
    exact hheld ((h t j).mpr howner)
  rw [if_neg hts]
  by_cases hjk : j = k
  · subst hjk
    simp only [if_true,some.injEq,Ne.symm hts,iff_false]
    intro hholds
    split_ifs at hholds with hown
    exact hown ((h t j).mp hholds)
  rw [if_neg hjk]
  by_cases hown : x.owner k = some t
  · have hk := (h t k).mpr hown
    have hnot : x.owner j ≠ some t := fun hj => by
      have := (h t j).mpr hj
      rw [hk] at this
      exact hjk (some.inj this).symm
    simp only [if_pos hown,reduceCtorEq,false_iff]
    split_ifs <;> simp_all
  rw [if_neg hown]
  by_cases hheld : x.holds s = some j
  · have hsj := (h s j).mp hheld
    simp only [hheld,if_true,reduceCtorEq,iff_false]
    intro htj
    rw [(h t j).mp htj] at hsj
    exact hts (some.inj hsj)
  · rw [if_neg hheld]
    exact h t j

end Index

end SecondaryIndex
