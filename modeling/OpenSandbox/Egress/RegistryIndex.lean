import OpenSandbox.Egress.Registry

namespace OpenSandbox.Registry

open Netip Policy SecondaryIndex Option Function MemoryRegistry Index

structure Indexing (K : Type) [DecidableEq K] where
  proj : SubjectKey → Option K
  own : MemoryRegistry → K → Option Subject
  own_addIndex : ∀ r e, own (r.addIndex e) = Index.add (own r) e.subject (proj e.key)
  own_dropIndex : ∀ r e, own (r.dropIndex e) = Index.drop (own r) (proj e.key)
  own_store : ∀ r s e, own (r.store s e) = own r
  own_setAlwaysRules : ∀ r d a, own (r.setAlwaysRules d a) = own r

def ipIndexing : Indexing Addr :=
  ⟨SubjectKey.ipKey,MemoryRegistry.byIP,fun _ _ => rfl,fun _ _ => rfl,fun _ _ _ => rfl,
    fun _ _ _ => rfl⟩

def netnsIndexing : Indexing String :=
  ⟨SubjectKey.netnsKey,MemoryRegistry.byNetns,fun _ _ => rfl,fun _ _ => rfl,fun _ _ _ => rfl,
    fun _ _ _ => rfl⟩

namespace Indexing

variable {K : Type} [DecidableEq K] (I : Indexing K)

def holds (r : MemoryRegistry) (s : Subject) : Option K :=
  (r.bySubject s).bind fun e => I.proj e.key

def view (r : MemoryRegistry) : Index Subject K := ⟨I.holds r,I.own r⟩

theorem holds_store (r : MemoryRegistry) (s : Subject) (e : Option Entry) :
    I.holds (r.store s e) = Function.update (I.holds r) s (e.bind fun e => I.proj e.key) := by
  funext t
  by_cases h : t = s
  · subst h; simp [holds,store]
  · simp [holds,store,h]

theorem holds_addIndex (r : MemoryRegistry) (e : Entry) : I.holds (r.addIndex e) = I.holds r := rfl

theorem holds_dropIndex (r : MemoryRegistry) (e : Entry) :
    I.holds (r.dropIndex e) = I.holds r := rfl

theorem view_enroll (r : MemoryRegistry) (s : Subject) (key : SubjectKey) (fence : Fencing) :
    I.view (r.enroll s key fence) =
      ⟨Function.update (I.holds r) s (I.proj key),Index.add (I.own r) s (I.proj key)⟩ := by
  simp only [view,enroll,holds_addIndex,holds_store,I.own_addIndex,I.own_store]
  rfl

variable {r : MemoryRegistry} {s : Subject} {e : Entry}

theorem holds_some (he : r.bySubject s = some e) : I.holds r s = I.proj e.key := by
  simp [holds,he]

theorem view_rekey {key : SubjectKey} (he : r.bySubject s = some e) (hs : e.subject = s)
    (hk : e.key ≠ key) : I.view (r.rekey s e key) = (I.view r).move s (I.proj key) := by
  have hne : keyEquals e.key key = false := by
    rw [← Bool.not_eq_true,keyEquals_iff]; exact hk
  simp only [view,rekey,hne,Bool.false_eq_true,if_false,holds_addIndex,holds_store,holds_dropIndex,
    I.own_addIndex,I.own_store,I.own_dropIndex,move,I.holds_some he,hs,bind_some]

theorem view_rekey_same : r.rekey s e e.key = r := by
  rw [rekey,if_pos ((keyEquals_iff _ _).mpr rfl)]

section

variable (key : SubjectKey) (fence : Fencing)

theorem view_reenroll (he : r.bySubject s = some e) (hs : e.subject = s) :
    I.view ((r.rekey s e key).enroll s key fence) = (I.view r).move s (I.proj key) := by
  rw [view_enroll]
  by_cases hk : e.key = key
  · subst hk
    simp only [view_rekey_same,Index.move,view,I.holds_some he,Index.add_drop_same]
  have hv := I.view_rekey he hs hk
  have hh : I.holds (r.rekey s e key) = ((I.view r).move s (I.proj key)).holds :=
    congrArg Index.holds hv
  have ho : I.own (r.rekey s e key) = ((I.view r).move s (I.proj key)).owner :=
    congrArg Index.owner hv
  rw [hh,ho]
  simp only [Index.move,Index.add_add_same,update_idem]

theorem view_rebound (he : r.bySubject s = some e) :
    I.view (((r.dropIndex e).store s none).enroll s key fence) =
      (I.view r).move s (I.proj key) := by
  rw [view_enroll]
  simp only [holds_store,holds_dropIndex,I.own_store,I.own_dropIndex,move,view,I.holds_some he,update_idem]

theorem view_first (he : r.bySubject s = none) :
    I.view (r.enroll s key fence) = (I.view r).move s (I.proj key) := by
  have hold : I.holds r s = none := by simp [holds,he]
  rw [view_enroll]
  simp only [move,view,hold,drop]

end

theorem view_unregister (r : MemoryRegistry) (s : Subject) :
    I.view (r.unregister s).2 = (I.view r).move s none := by
  cases he : r.bySubject s with
  | none =>
    have hold : I.holds r s = none := by simp [holds,he]
    simp only [unregister,he,view,move,hold,add,drop]
    rw [← hold,update_eq_self]
  | some e =>
    simp only [unregister,he,view,holds_store,holds_dropIndex,I.own_store,
      I.own_dropIndex,move,I.holds_some he,add,bind_none]

theorem view_applyPolicy {r' : MemoryRegistry} {pol : Option NetworkPolicy}
    (h : r.applyPolicy s pol = .ok r') : I.view r' = I.view r := by
  unfold applyPolicy at h
  split at h
  · cases h
  next e he =>
  cases h
  simp only [view,holds_store,I.own_store,bind_some,activate]
  rw [← I.holds_some he,update_eq_self]

theorem view_setAlwaysRules (r : MemoryRegistry) (deny allow : List EgressRule) :
    I.view (r.setAlwaysRules deny allow) = I.view r := by
  have hh : I.holds (r.setAlwaysRules deny allow) = I.holds r := by
    funext t
    cases he : r.bySubject t with
    | none => simp [holds,setAlwaysRules,he]
    | some e =>
      by_cases hu : e.user.isSome <;> simp [holds,setAlwaysRules,he,hu]
  rw [view,hh,I.own_setAlwaysRules]
  rfl

end Indexing

def Located (r : MemoryRegistry) : Prop := ∀ s e, r.bySubject s = some e → e.subject = s

open MemoryRegistry

theorem Indexing.view_observe {K : Type} [DecidableEq K] (I : Indexing K) {r : MemoryRegistry}
    (hl : Located r) (s : Subject) (key : SubjectKey) (fence : Fencing) :
    I.view (r.observe s key fence).2 = (I.view r).move s (I.proj key) ∨
      I.view (r.observe s key fence).2 = I.view r ∧ I.holds r s = I.proj key := by
  cases he : r.bySubject s with
  | none => left; simpa [observe,he] using I.view_first key fence he
  | some e =>
    have hs := hl s e he
    by_cases hf : e.fence.matches fence = true
    · by_cases ha : e.state = .active
      · by_cases hk : e.key = key
        · right
          subst hk
          simp [observe,he,hf,ha,Indexing.view_rekey_same,Indexing.holds]
        · left; simpa [observe,he,hf,ha] using I.view_rekey he hs hk
      · left; simpa [observe,he,hf,ha] using I.view_reenroll key fence he hs
    · left; simpa [observe,he,hf] using I.view_rebound key fence he

end OpenSandbox.Registry
