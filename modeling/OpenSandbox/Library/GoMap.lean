import Mathlib.Data.List.AList
import Mathlib.Tactic

abbrev GoMap (V : Type) := AList fun _ : String => V

structure MapOrder where
  arrange : List String → List String
  perm : ∀ keys, (arrange keys).Perm keys

def MapOrder.asStored : MapOrder := ⟨id,fun keys => List.Perm.refl keys⟩

namespace GoMap

open List AList

variable {V : Type}

def valuesIn (ord : MapOrder) (m : GoMap V) : List V :=
  (ord.arrange m.keys).filterMap m.lookup

def Entries (P : String → V → Prop) (m : GoMap V) : Prop := ∀ k v, m.lookup k = some v → P k v

theorem entries_empty (P : String → V → Prop) : Entries P (∅ : GoMap V) := by
  intro k v h
  rw [lookup_empty] at h
  cases h

variable {m : GoMap V} {k : String} {v : V}

theorem Entries.insert {P : String → V → Prop} (h : Entries P m) (hv : P k v) :
    Entries P (AList.insert k v m) := by
  intro k' v' hk
  by_cases hne : k' = k
  · subst hne
    rw [lookup_insert] at hk
    cases hk
    exact hv
  · rw [lookup_insert_ne hne] at hk
    exact h k' v' hk

theorem Entries.erase {P : String → V → Prop} (h : Entries P m) (k : String) :
    Entries P (AList.erase k m) := by
  intro k' v' hk
  by_cases hne : k' = k
  · subst hne
    rw [lookup_erase] at hk
    cases hk
  · rw [lookup_erase_ne hne] at hk
    exact h k' v' hk

theorem lookup_erased (m : GoMap V) (k k' : String) :
    (m.erase k).lookup k' = if k' = k then none else m.lookup k' := by
  split_ifs with h
  · subst h
    exact lookup_erase k' m
  · exact lookup_erase_ne h

theorem lookup_inserted (m : GoMap V) (k k' : String) (v : V) :
    (AList.insert k v m).lookup k' = if k' = k then some v else m.lookup k' := by
  split_ifs with h
  · subst h
    exact lookup_insert m
  · exact lookup_insert_ne h

theorem mem_keys_of_lookup (h : m.lookup k = some v) : k ∈ m.keys := by
  have hmem : k ∈ m := lookup_isSome.mp (by rw [h]; rfl)
  exact mem_keys.mp hmem

instance (P : String → V → Prop) [∀ k v, Decidable (P k v)] (m : GoMap V) :
    Decidable (∀ k v, m.lookup k = some v → P k v) :=
  decidable_of_iff (∀ k ∈ m.keys, ∀ v ∈ m.lookup k, P k v)
    ⟨fun h k v hk => h k (mem_keys_of_lookup hk) v hk,fun h k _ => h k⟩

def changeValue (f : String → V → V) (entry : Sigma fun _ : String => V) :
    Sigma fun _ : String => V := ⟨entry.1,f entry.1 entry.2⟩

def mapValues (f : String → V → V) (m : GoMap V) : GoMap V where
  entries := m.entries.map (changeValue f)
  nodupKeys := by
    have hkeys : (m.entries.map (changeValue f)).keys = m.entries.keys := by
      simp [List.keys,changeValue,Function.comp_def]
    change (List.keys _).Nodup
    rw [hkeys]
    exact m.keys_nodup

theorem lookup_mapValues (f : String → V → V) (m : GoMap V) (k : String) :
    (m.mapValues f).lookup k = (m.lookup k).map (f k) := by
  change dlookup k (m.entries.map (changeValue f)) = (dlookup k m.entries).map (f k)
  induction m.entries with
  | nil => rfl
  | cons entry rest ih =>
    obtain ⟨k',v⟩ := entry
    by_cases hk : k = k'
    · subst hk
      simp [changeValue]
    have hskip {l : List (Sigma fun _ : String => V)} (w : V) :
        dlookup k (⟨k',w⟩ :: l) = dlookup k l := dlookup_cons_ne l ⟨k',w⟩ hk
    rwa [map_cons,changeValue,hskip,hskip]

variable {ord : MapOrder}

theorem mem_arrange (h : m.lookup k = some v) : k ∈ ord.arrange m.keys := by
  rw [(ord.perm m.keys).mem_iff,AList.mem_keys.symm,← AList.lookup_isSome,h]
  rfl

theorem mem_valuesIn : v ∈ valuesIn ord m ↔ ∃ k, m.lookup k = some v := by
  constructor
  · intro h
    obtain ⟨k,_,hk⟩ := mem_filterMap.mp h
    exact ⟨k,hk⟩
  · rintro ⟨k,hk⟩
    exact mem_filterMap.mpr ⟨k,mem_arrange hk,hk⟩

theorem forall_of_pairwise_valuesIn {R : V → V → Prop} [Std.Symm R]
    (h : (valuesIn ord m).Pairwise R) {k' : String} {v' : V} (hk : m.lookup k = some v)
    (hk' : m.lookup k' = some v') (hne : k ≠ k') : R v v' := by
  rw [valuesIn,pairwise_filterMap] at h
  have hsymm : Std.Symm fun k k' =>
      ∀ v, m.lookup k = some v → ∀ v', m.lookup k' = some v' → R v v' :=
    ⟨fun _ _ hR v hv v' hv' => symm (hR v' hv' v hv)⟩
  exact h.forall (mem_arrange hk) (mem_arrange hk') hne v hk v' hk'

end GoMap
