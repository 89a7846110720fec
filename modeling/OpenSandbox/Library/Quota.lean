import OpenSandbox.Library.GoMap
import Mathlib.Algebra.BigOperators.Group.Multiset.Basic
import Mathlib.Data.Multiset.Filter

namespace GoMap

open List

def sumValues (m : GoMap Int) : Int := (m.entries.map Sigma.snd).sum

theorem sum_kerase (k : String) (l : List (Sigma fun _ : String => Int)) :
    ((List.kerase k l).map Sigma.snd).sum + (List.dlookup k l).getD 0 = (l.map Sigma.snd).sum := by
  induction l with
  | nil => simp
  | cons entry l ih =>
    obtain ⟨k',v⟩ := entry
    by_cases hk : k = k'
    · subst hk
      simp [add_comm]
    · rw [kerase_cons_ne hk,dlookup_cons_ne l ⟨k',v⟩ hk]
      simp only [map_cons,sum_cons,← ih,add_assoc]

theorem sumValues_erase (m : GoMap Int) (k : String) :
    sumValues (m.erase k) = sumValues m - (m.lookup k).getD 0 :=
  eq_sub_of_add_eq (sum_kerase k m.entries)

theorem sumValues_insert (m : GoMap Int) (k : String) (v : Int) :
    sumValues (m.insert k v) = sumValues m - (m.lookup k).getD 0 + v := by
  rw [← sumValues_erase,add_comm]
  rfl

end GoMap

namespace Quota

structure Account where
  total : Int
  shares : GoMap Int

namespace Account

variable (acc : Account) (k : String)

def share : Int := (acc.shares.lookup k).getD 0

def charge (n : Int) : Account :=
  ⟨acc.total + n,acc.shares.insert k (acc.share k + n)⟩

def refund (n : Int) : Account :=
  ⟨acc.total - n,
    if acc.share k - n = 0 then acc.shares.erase k else acc.shares.insert k (acc.share k - n)⟩

theorem share_charge (n : Int) (j : String) :
    (acc.charge k n).share j = acc.share j + if j = k then n else 0 := by
  by_cases hj : j = k
  · subst hj
    simp [charge,share,AList.lookup_insert]
  · simp [charge,share,AList.lookup_insert_ne hj,hj]

theorem share_refund (n : Int) (j : String) :
    (acc.refund k n).share j = acc.share j - if j = k then n else 0 := by
  by_cases hzero : acc.share k - n = 0
  · rw [refund,if_pos hzero]
    by_cases hj : j = k
    · subst hj
      rw [if_pos rfl,hzero]
      simp only [share,AList.lookup_erase,Option.getD_none]
    · simp [share,AList.lookup_erase_ne hj,hj]
  · rw [refund,if_neg hzero]
    by_cases hj : j = k
    · subst hj
      simp [share,AList.lookup_insert]
    · simp [share,AList.lookup_insert_ne hj,hj]

end Account

section Balance

variable {α : Type} (owner : α → String) (size : α → Int)

def owed (held : Multiset α) (k : String) : Int :=
  (held.map fun a => if owner a = k then size a else 0).sum

structure Balanced (acc : Account) (held : Multiset α) : Prop where
  total : acc.total = (held.map size).sum
  share : ∀ k, acc.share k = owed owner size held k
  sum : GoMap.sumValues acc.shares = acc.total
  proper : GoMap.Entries (fun _ v => v ≠ 0) acc.shares

variable {owner size}

theorem balanced_empty : Balanced owner size ⟨0,∅⟩ 0 where
  total := by simp
  share k := by simp [Account.share,owed]
  sum := rfl
  proper := GoMap.entries_empty _

variable {held : Multiset α}

theorem owed_nonneg (hpos : ∀ a ∈ held, 0 ≤ size a) (k : String) : 0 ≤ owed owner size held k := by
  refine Multiset.sum_nonneg fun v hv => ?_
  obtain ⟨a,ha,rfl⟩ := Multiset.mem_map.mp hv
  split
  · exact hpos a ha
  · exact le_rfl

theorem Balanced.charge {acc : Account} (h : Balanced owner size acc held) (a : α)
    (hpos : 0 < size a) (hheld : ∀ b ∈ held, 0 ≤ size b) :
    Balanced owner size (acc.charge (owner a) (size a)) (a ::ₘ held) where
  total := by
    rw [Multiset.map_cons,Multiset.sum_cons,← h.total,add_comm]
    rfl
  share k := by
    rw [Account.share_charge,h.share,owed,owed,Multiset.map_cons,Multiset.sum_cons,add_comm]
    simp only [eq_comm]
  sum := by
    simp only [Account.charge,GoMap.sumValues_insert,h.sum,Account.share]
    ring
  proper := by
    refine h.proper.insert ?_
    have hshare : 0 ≤ acc.share (owner a) := by
      rw [h.share]
      exact owed_nonneg hheld _
    omega

theorem Balanced.refund {acc : Account} {a : α} (h : Balanced owner size acc (a ::ₘ held)) :
    Balanced owner size (acc.refund (owner a) (size a)) held where
  total := by
    have htotal := h.total
    rw [Multiset.map_cons,Multiset.sum_cons] at htotal
    simp only [Account.refund]
    omega
  share k := by
    have hshare := h.share k
    rw [owed,Multiset.map_cons,Multiset.sum_cons] at hshare
    rw [Account.share_refund,hshare,owed]
    by_cases hk : k = owner a
    · subst hk
      simp
    · rw [if_neg hk,if_neg (Ne.symm hk)]
      ring
  sum := by
    simp only [Account.refund]
    split_ifs with hzero
    · rw [GoMap.sumValues_erase,h.sum]
      simp only [Account.share] at hzero
      omega
    · rw [GoMap.sumValues_insert,h.sum,Account.share]
      ring
  proper := by
    simp only [Account.refund]
    split
    · exact h.proper.erase _
    · exact h.proper.insert (by assumption)

theorem Balanced.settled {acc : Account} (h : Balanced owner size acc (0 : Multiset α)) :
    acc.total = 0 ∧ acc.shares = ∅ := by
  refine ⟨by simpa using h.total,AList.ext_iff.mpr ?_⟩
  refine List.eq_nil_iff_forall_not_mem.mpr ?_
  rintro ⟨k,v⟩ hmem
  have hlookup : acc.shares.lookup k = some v := AList.mem_lookup_iff.mpr hmem
  have hshare := h.share k
  rw [Account.share,hlookup] at hshare
  exact h.proper k v hlookup (by simpa [owed] using hshare)

end Balance

end Quota
