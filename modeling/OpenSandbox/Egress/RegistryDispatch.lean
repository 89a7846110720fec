import OpenSandbox.Library.Runs
import OpenSandbox.Egress.RegistrySound

namespace OpenSandbox.Registry

open Netip Policy SecondaryIndex MemoryRegistry Option

variable (r : MemoryRegistry) (s : Subject)

def HoldsIP (ip : Addr) : Prop :=
  ∃ e, r.bySubject s = some e ∧ e.key.sourceIP = ip ∧ ip.isValid = true

theorem holds_iff (ip : Addr) : ipIndexing.holds r s = some ip ↔ HoldsIP r s ip := by
  unfold Indexing.holds HoldsIP
  rw [bind_eq_some_iff]
  exact exists_congr fun e => and_congr_right fun _ => ipKey_eq_some

def SubjectKey.ofIP (ip : Addr) : SubjectKey := ⟨"",ip,0,""⟩

theorem resolve_ofIP {ip : Addr} (h : ip.isValid = true) : r.resolve (.ofIP ip) = r.byIP ip := by
  simp [resolve,SubjectKey.ofIP,SubjectKey.ipKey,SubjectKey.netnsKey,h]

def DispatchComplete : Prop :=
  ∀ s ip, HoldsIP r s ip → (∀ t, t ≠ s → ¬ HoldsIP r t ip) → r.resolve (.ofIP ip) = some s

theorem dispatchComplete_iff : DispatchComplete r ↔ (ipIndexing.view r).Complete := by
  refine forall₂_congr fun s ip => ?_
  constructor
  · rintro h ⟨hs,hsole⟩
    have hh := (holds_iff r s ip).mp hs
    obtain ⟨-,-,-,hv⟩ := id hh
    have hr := h hh fun t ht hho => hsole t ht ((holds_iff r t ip).mpr hho)
    rwa [resolve_ofIP r hv] at hr
  · rintro h hh hsole
    obtain ⟨-,-,-,hv⟩ := id hh
    rw [resolve_ofIP r hv]
    exact h ⟨(holds_iff r s ip).mpr hh,fun t ht hho => hsole t ht ((holds_iff r t ip).mp hho)⟩

def Leaves (ip : Addr) : Op → Prop
  | .register s' key _ _ => s = s' ∧ HoldsIP r s ip ∧ key.sourceIP ≠ ip
  | .unregister s' => s = s' ∧ HoldsIP r s ip
  | _ => False

def Strands (op : Op) : Prop :=
  ∃ s ip, Leaves r s ip op ∧
    ∃ t, t ≠ s ∧ HoldsIP r t ip ∧ ∀ u, u ≠ s → u ≠ t → ¬ HoldsIP r u ip

theorem abandons_iff (new : Option SubjectKey) :
    (ipIndexing.view r).Abandons s (new.bind SubjectKey.ipKey) ↔
      ∃ ip, HoldsIP r s ip ∧ (∀ key, new = some key → key.sourceIP ≠ ip) ∧
        ∃ t, t ≠ s ∧ HoldsIP r t ip ∧ ∀ u, u ≠ s → u ≠ t → ¬ HoldsIP r u ip := by
  refine exists_congr fun ip => ?_
  simp only [Indexing.view,holds_iff,Ne]
  refine and_congr_right fun hs => and_congr_left fun _ => ?_
  obtain ⟨-,-,-,hv⟩ := hs
  rw [bind_eq_some_iff]
  constructor
  · rintro h key rfl hk
    exact h ⟨key,rfl,ipKey_eq_some.mpr ⟨hk,hv⟩⟩
  · rintro h ⟨key,hnew,hk⟩
    exact h key hnew (ipKey_eq_some.mp hk).1

theorem strands_register (key : SubjectKey) (fence : Fencing) (enforce : Except String Unit) :
    Strands r (.register s key fence enforce) ↔ (ipIndexing.view r).Abandons s key.ipKey := by
  have ha := abandons_iff r s (some key)
  simp only [bind_some,some.injEq,forall_eq'] at ha
  rw [ha]
  constructor
  · rintro ⟨_,ip,⟨rfl,hs,hk⟩,ht⟩
    exact ⟨ip,hs,hk,ht⟩
  · rintro ⟨ip,hs,hk,ht⟩
    exact ⟨s,ip,⟨rfl,hs,hk⟩,ht⟩

theorem strands_unregister : Strands r (.unregister s) ↔ (ipIndexing.view r).Abandons s none := by
  have ha := abandons_iff r s none
  simp only [bind_none,reduceCtorEq,false_imp_iff,implies_true,true_and] at ha
  rw [ha]
  constructor
  · rintro ⟨_,ip,⟨rfl,hs⟩,ht⟩
    exact ⟨ip,hs,ht⟩
  · rintro ⟨ip,hs,ht⟩
    exact ⟨s,ip,⟨rfl,hs⟩,ht⟩

structure Dispatching (r : MemoryRegistry) : Prop where
  sound : Sound r
  complete : (ipIndexing.view r).Complete

theorem complete_step {r : MemoryRegistry} {op : Op} (h : Dispatching r) (hs : ¬ Strands r op) :
    (ipIndexing.view (r.step op)).Complete := by
  cases op with
  | register s key fence enforce =>
    rw [step,registerAndEnforce_registry]
    rcases ipIndexing.view_observe h.sound.located s key fence with hv | ⟨hv,-⟩
    · rw [hv]
      exact Index.complete_move h.complete fun ha => hs ((strands_register ..).mpr ha)
    · rw [hv]; exact h.complete
  | applyPolicy s pol =>
    rw [step]
    cases ha : r.applyPolicy s pol with
    | error e => exact h.complete
    | ok r' => rw [ipIndexing.view_applyPolicy ha]; exact h.complete
  | setAlwaysRules deny allow =>
    rw [step,Indexing.view_setAlwaysRules]
    exact h.complete
  | unregister s =>
    rw [step,Indexing.view_unregister]
    exact Index.complete_move h.complete fun ha => hs ((strands_unregister ..).mpr ha)

theorem not_complete_step {r : MemoryRegistry} {op : Op} (h : Dispatching r) (hs : Strands r op) :
    ¬ (ipIndexing.view (r.step op)).Complete := by
  cases op with
  | register s key fence enforce =>
    have ha := (strands_register ..).mp hs
    rw [step,registerAndEnforce_registry]
    rcases ipIndexing.view_observe h.sound.located s key fence with hv | ⟨-,hk⟩
    · rw [hv]; exact Index.not_complete_move ha
    · obtain ⟨ip,hip,hne,-⟩ := ha
      exact absurd (hk.symm.trans hip) hne
  | applyPolicy s pol | setAlwaysRules deny allow => obtain ⟨_,_,hl,-⟩ := hs; cases hl
  | unregister s =>
    rw [step,Indexing.view_unregister]
    exact Index.not_complete_move ((strands_unregister ..).mp hs)

def StepsTo (op : Op) (r' : MemoryRegistry) : Prop := r' = r.step op

theorem dispatch_complete_iff (deny allow : List EgressRule) (ops : List Op) :
    Runs.Always StepsTo DispatchComplete (newRegistry deny allow) ops ↔
      Runs.Guarded StepsTo (fun r op => ¬ Strands r op) (newRegistry deny allow) ops := by
  refine Runs.always_iff_guarded
    (fun r (h : Dispatching r) => (dispatchComplete_iff r).mpr h.complete) ?_ ?_ ?_ ops
  · rintro r op _ h hs rfl
    exact ⟨sound_step h.sound op,complete_step h hs⟩
  · intro r op _ h _ hs
    refine ⟨r.step op,rfl,fun hc => ?_⟩
    exact not_complete_step h (not_not.mp hs) ((dispatchComplete_iff _).mp hc)
  · refine ⟨sound_newRegistry deny allow,?_⟩
    rintro s ip ⟨hs,-⟩
    cases hs

theorem dispatch_lost_on_ip_reuse :
    ¬ ∀ deny allow ops, Runs.Always StepsTo DispatchComplete (newRegistry deny allow) ops := by
  intro hall
  let old : Subject := fromSandboxUID "a"
  let new : Subject := fromSandboxUID "b"
  let ip : Addr := .v4 0x0A000005
  have hc := hall [] [] [.register old ⟨"/ns/a",ip,0,""⟩ ⟨"a",1,1⟩ (.ok ()),
    .register new ⟨"/ns/b",ip,0,""⟩ ⟨"b",1,1⟩ (.ok ()),.unregister old]
  have hlast := ((hc.2 _ rfl).2 _ rfl).2 _ rfl
  have hr := hlast new ip ⟨newEntry new ⟨"/ns/b",ip,0,""⟩ ⟨"b",1,1⟩,by decide,rfl,rfl⟩ ?_
  · revert hr
    decide
  rintro t ht ⟨e,he,-⟩
  have hne : old ≠ new := by decide
  by_cases hto : t = old <;>
    simp [step,registerAndEnforce,observe,newRegistry,enroll,store,addIndex,unregister,
      dropIndex,hto,ht,hne,hne.symm] at he

end OpenSandbox.Registry
