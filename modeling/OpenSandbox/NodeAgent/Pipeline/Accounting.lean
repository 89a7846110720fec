import OpenSandbox.NodeAgent.Pipeline.Budget

namespace OpenSandbox.NodeAgent.Pipeline

open Quota List Multiset

namespace State

structure Numbered (s : State) : Prop where
  nodup : (s.admitted.map (·.position)).Nodup
  below : ∀ a ∈ s.admitted, a.position < s.source.length
  current : ∀ i e, s.run = .admitting i e →
    0 < s.source.length ∧ ∀ a ∈ s.admitted, a.position < s.source.length - 1

structure Accounted (cfg : Config) (s : State) : Prop where
  balanced : Balanced (·.sandboxID) (·.bytes) s.account s.held
  positive : ∀ a ∈ s.held, 0 < a.bytes
  bounded : s.globalBytes ≤ cfg.memoryBudgetBytes
  shares : ∀ id, s.account.share id ≤ cfg.perSandboxQueueBytes
  ledger : (s.admitted : Multiset Admitted) = s.released + s.held
  numbered : Numbered s

def outstanding (s : State) : List Admitted :=
  s.admitted.filter fun a => a.position ∉ s.released.map (·.position)

variable {s t : State}

theorem Numbered.frame (h : Numbered s) (hadmitted : t.admitted = s.admitted)
    (hsource : t.source = s.source)
    (hrun : ∀ i e, t.run = .admitting i e → s.run = .admitting i e) : Numbered t where
  nodup := by rw [hadmitted]; exact h.nodup
  below := by rw [hadmitted,hsource]; exact h.below
  current i e he := by rw [hadmitted,hsource]; exact h.current i e (hrun i e he)

theorem Numbered.receive (h : Numbered s) {event : Event} (hadmitted : t.admitted = s.admitted)
    (hsource : t.source = s.source ++ [event]) : Numbered t where
  nodup := by rw [hadmitted]; exact h.nodup
  below a ha := by
    rw [hadmitted] at ha
    have hbelow := h.below a ha
    rw [hsource,length_append]
    omega
  current i e _ := by
    rw [hadmitted,hsource,length_append,length_singleton]
    exact ⟨Nat.succ_pos _,h.below⟩

theorem Numbered.reserve (h : Numbered s) {a : Admitted} {i : Nat} {e : Event}
    (hrun : s.run = .admitting i e) (hposition : a.position = s.source.length - 1)
    (hadmitted : t.admitted = s.admitted ++ [a]) (hsource : t.source = s.source)
    (hdone : ∀ i e, t.run ≠ .admitting i e) : Numbered t where
  nodup := by
    rw [hadmitted,List.map_append,List.map_singleton]
    refine List.nodup_append.mpr ⟨h.nodup,List.nodup_singleton _,?_⟩
    intro p hp q hq hpq
    obtain ⟨b,hb,rfl⟩ := List.mem_map.mp hp
    have hbelow := (h.current i e hrun).2 b hb
    have hq := List.mem_singleton.mp hq
    omega
  below b hb := by
    rw [hadmitted] at hb
    rw [hsource]
    rcases List.mem_append.mp hb with hb | hb
    · exact h.below b hb
    · have hpos := (h.current i e hrun).1
      rw [List.mem_singleton.mp hb,hposition]
      omega
  current j f hf := absurd hf (hdone j f)

theorem accounted_initial (cfg : Config) (stored : List FinalizeIntent) :
    Accounted cfg (initial stored) where
  balanced := balanced_empty
  positive a ha := by cases ha
  bounded := cfg.budget_pos.le
  shares _ := cfg.share_pos.le
  ledger := rfl
  numbered := ⟨nodup_nil,nofun,nofun⟩

theorem Accounted.step {cfg : Config} (h : Accounted cfg s) (hbooks : Books cfg s t) :
    Accounted cfg t := by
  cases hbooks with
  | same hframe hheld =>
    have htotal : t.globalBytes = s.globalBytes := congrArg Account.total hframe.account
    exact {
      balanced := by rw [hframe.account,hheld]; exact h.balanced
      positive := by rw [hheld]; exact h.positive
      bounded := by rw [htotal]; exact h.bounded
      shares := by rw [hframe.account]; exact h.shares
      ledger := by rw [hframe.admitted,hframe.released,hheld]; exact h.ledger
      numbered := h.numbered.frame hframe.admitted hframe.source hframe.run }
  | received event haccount hadmitted hreleased hsource hheld =>
    have htotal : t.globalBytes = s.globalBytes := congrArg Account.total haccount
    exact {
      balanced := by rw [haccount,hheld]; exact h.balanced
      positive := by rw [hheld]; exact h.positive
      bounded := by rw [htotal]; exact h.bounded
      shares := by rw [haccount]; exact h.shares
      ledger := by rw [hadmitted,hreleased,hheld]; exact h.ledger
      numbered := h.numbered.receive hadmitted hsource }
  | reserved a hrun hposition hbytes hfits haccount hadmitted hreleased hsource hdone hheld =>
    obtain ⟨i,e,hrun⟩ := hrun
    have htotal : t.globalBytes = s.globalBytes + a.bytes := congrArg Account.total haccount
    simp only [fits,Bool.and_eq_true,decide_eq_true_eq] at hfits
    exact {
      balanced := by
        rw [haccount,hheld]
        exact h.balanced.charge a hbytes fun b hb => (h.positive b hb).le
      positive := by
        rw [hheld]
        intro b hb
        rcases mem_cons.mp hb with rfl | hb
        · exact hbytes
        · exact h.positive b hb
      bounded := by rw [htotal]; exact hfits.1
      shares := by
        intro id
        rw [haccount,Account.share_charge]
        split_ifs with hid
        · rw [hid]
          exact hfits.2
        · rw [add_zero]
          exact h.shares id
      ledger := by
        rw [hadmitted,hreleased,hheld,← coe_add,h.ledger,coe_singleton,← singleton_add]
        abel
      numbered := h.numbered.reserve hrun hposition hadmitted hsource hdone }
  | refunded a hbytes haccount hadmitted hreleased hsource hrun hheld =>
    have htotal : t.globalBytes = s.globalBytes - a.bytes := congrArg Account.total haccount
    have ha : 0 < a.bytes := h.positive a (hheld ▸ mem_cons_self a _)
    exact {
      balanced := by
        rw [haccount]
        exact (hheld ▸ h.balanced).refund
      positive := fun b hb => h.positive b (hheld ▸ mem_cons_of_mem hb)
      bounded := by
        have hbounded := h.bounded
        omega
      shares := by
        intro id
        have hshares := h.shares id
        rw [haccount,Account.share_refund]
        split <;> omega
      ledger := by
        rw [hadmitted,hreleased,h.ledger,hheld,← coe_add,coe_singleton,← singleton_add]
        abel
      numbered := h.numbered.frame hadmitted hsource hrun }

theorem Accounted.outstanding {cfg : Config} (h : Accounted cfg s) :
    (s.outstanding : Multiset Admitted) = s.held := by
  have hnodup : (s.released.map (·.position) + s.held.map (·.position) : Multiset Nat).Nodup := by
    have hnodup := coe_nodup.mpr h.numbered.nodup
    rwa [← map_coe,h.ledger,map_add,map_coe] at hnodup
  have hdisjoint := (nodup_add.mp hnodup).2.2
  rw [State.outstanding,← filter_coe,h.ledger,filter_add,
    Multiset.filter_eq_nil.mpr,zero_add,Multiset.filter_eq_self.mpr]
  · intro a ha hmem
    exact disjoint_left.mp hdisjoint hmem (mem_map_of_mem _ ha)
  · intro a ha hmem
    exact hmem (mem_map_of_mem ha)

end State

end OpenSandbox.NodeAgent.Pipeline
