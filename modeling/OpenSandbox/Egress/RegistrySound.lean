import OpenSandbox.Egress.RegistryIndex

namespace OpenSandbox.Registry

open Netip Policy SecondaryIndex MemoryRegistry Option Function

def PolicySound (deny allow : List EgressRule) (e : Entry) : Prop :=
  (e.state = .denying ∧ e.user = none ∧ e.effective = none) ∨
    (e.state = .active ∧ e.user.isSome ∧
      e.effective = some (mergeAlwaysOverlay e.user deny allow))

structure Sound (r : MemoryRegistry) : Prop where
  located : Located r
  ip : (ipIndexing.view r).Sound
  netns : (netnsIndexing.view r).Sound
  policy : ∀ s e, r.bySubject s = some e → PolicySound r.alwaysDeny r.alwaysAllow e

theorem sound_newRegistry (deny allow : List EgressRule) : Sound (newRegistry deny allow) := by
  constructor <;> intro a b h <;> cases h

variable {r : MemoryRegistry}

theorem Indexing.sound_observe {K : Type} [DecidableEq K] (I : Indexing K) (hl : Located r)
    (h : (I.view r).Sound) (s : Subject) (key : SubjectKey) (fence : Fencing) :
    (I.view (r.observe s key fence).2).Sound := by
  rcases I.view_observe hl s key fence with hv | ⟨hv,-⟩
  · rw [hv]; exact Index.sound_move h s _
  · rw [hv]; exact h

section

variable (h : Sound r)

include h

theorem sound_observe (s : Subject) (key : SubjectKey) (fence : Fencing) :
    Sound (r.observe s key fence).2 := by
  obtain ⟨hd,ha⟩ := always_observe r s key fence
  have hentry : ∀ t e, (r.observe s key fence).2.bySubject t = some e →
      e.subject = t ∧ PolicySound r.alwaysDeny r.alwaysAllow e := by
    intro t e het
    rcases bySubject_observe r s key fence with ⟨e₀,he₀,-,-,-,-,hb⟩ | ⟨-,-,hb⟩
    · rw [hb,update_apply] at het
      split_ifs at het with hts
      · cases het
        exact ⟨by rw [hts]; exact h.located s e₀ he₀,h.policy s e₀ he₀⟩
      · exact ⟨h.located t e het,h.policy t e het⟩
    · rw [hb,update_apply] at het
      split_ifs at het with hts
      · cases het
        exact ⟨hts.symm,.inl ⟨rfl,rfl,rfl⟩⟩
      · exact ⟨h.located t e het,h.policy t e het⟩
  constructor
  · exact fun t e het => (hentry t e het).1
  · exact ipIndexing.sound_observe h.located h.ip s key fence
  · exact netnsIndexing.sound_observe h.located h.netns s key fence
  · rw [hd,ha]; exact fun t e het => (hentry t e het).2

theorem sound_applyPolicy {r' : MemoryRegistry} {s : Subject} {pol : Option NetworkPolicy}
    (ha : r.applyPolicy s pol = .ok r') : Sound r' := by
  have hip := ipIndexing.view_applyPolicy ha
  have hnetns := netnsIndexing.view_applyPolicy ha
  unfold MemoryRegistry.applyPolicy at ha
  split at ha
  · cases ha
  next e he =>
  cases ha
  have hentry : ∀ t e', (r.store s (some (r.activate e (pol.getD defaultDenyPolicy)))).bySubject t
      = some e' → e'.subject = t ∧ PolicySound r.alwaysDeny r.alwaysAllow e' := by
    intro t e' het
    simp only [store,update_apply] at het
    split_ifs at het with hts
    · cases het
      exact ⟨by rw [hts]; exact h.located s e he,.inr ⟨rfl,rfl,rfl⟩⟩
    · exact ⟨h.located t e' het,h.policy t e' het⟩
  exact ⟨fun t e' het => (hentry t e' het).1,by rw [hip]; exact h.ip,
    by rw [hnetns]; exact h.netns,fun t e' het => (hentry t e' het).2⟩

theorem sound_setAlwaysRules (deny allow : List EgressRule) :
    Sound (r.setAlwaysRules deny allow) := by
  have hentry : ∀ t e, (r.setAlwaysRules deny allow).bySubject t = some e →
      ∃ e₀, r.bySubject t = some e₀ ∧ e.subject = e₀.subject ∧ e.key = e₀.key ∧
        PolicySound deny allow e := by
    intro t e het
    simp only [setAlwaysRules,map_eq_some_iff] at het
    obtain ⟨e₀,he₀,rfl⟩ := het
    refine ⟨e₀,he₀,by split <;> rfl,by split <;> rfl,?_⟩
    rcases h.policy t e₀ he₀ with ⟨hs,hu,heff⟩ | ⟨hs,hu,-⟩
    · simp [hu,PolicySound,hs,heff]
    · simp [hu,PolicySound,hs]
  refine ⟨fun t e het => ?_,by rw [Indexing.view_setAlwaysRules]; exact h.ip,
    by rw [Indexing.view_setAlwaysRules]; exact h.netns,fun t e het => ?_⟩
  · obtain ⟨e₀,he₀,hs,-⟩ := hentry t e het
    rw [hs]; exact h.located t e₀ he₀
  · obtain ⟨-,-,-,-,hp⟩ := hentry t e het
    exact hp

theorem sound_unregister (s : Subject) : Sound (r.unregister s).2 := by
  have hentry : ∀ t e, (r.unregister s).2.bySubject t = some e → r.bySubject t = some e := by
    intro t e het
    unfold unregister at het
    split at het
    · exact het
    simp only [store,dropIndex,update_apply] at het
    split_ifs at het
    exact het
  have hrules : (r.unregister s).2.alwaysDeny = r.alwaysDeny ∧
      (r.unregister s).2.alwaysAllow = r.alwaysAllow := by
    unfold unregister
    split <;> exact ⟨rfl,rfl⟩
  refine ⟨fun t e het => h.located t e (hentry t e het),?_,?_,?_⟩
  · rw [Indexing.view_unregister]; exact Index.sound_move h.ip s none
  · rw [Indexing.view_unregister]; exact Index.sound_move h.netns s none
  · rw [hrules.1,hrules.2]; exact fun t e het => h.policy t e (hentry t e het)

theorem sound_step (op : Op) : Sound (r.step op) := by
  cases op with
  | register s key fence enforce =>
    rw [step,registerAndEnforce_registry]
    exact sound_observe h s key fence
  | applyPolicy s pol =>
    rw [step]
    cases ha : r.applyPolicy s pol with
    | error e => exact h
    | ok r' => exact sound_applyPolicy h ha
  | setAlwaysRules deny allow => exact sound_setAlwaysRules h deny allow
  | unregister s => exact sound_unregister h s

theorem sound_run (ops : List Op) : Sound (ops.foldl MemoryRegistry.step r) := by
  induction ops generalizing r with
  | nil => exact h
  | cons op ops ih => exact ih (sound_step h op)

end

theorem ipKey_eq_some {key : SubjectKey} {ip : Addr} :
    key.ipKey = some ip ↔ key.sourceIP = ip ∧ ip.isValid = true := by
  unfold SubjectKey.ipKey
  split
  · next h =>
    rw [some.injEq]
    exact ⟨fun he => ⟨he,he ▸ h⟩,fun he => he.1⟩
  next h =>
  simp only [reduceCtorEq,false_iff]
  rintro ⟨rfl,hv⟩
  exact h hv

theorem netnsKey_eq_some {key : SubjectKey} {path : String} :
    key.netnsKey = some path ↔ key.netNSPath = path ∧ path ≠ "" := by
  unfold SubjectKey.netnsKey
  split
  · next h =>
    rw [some.injEq]
    exact ⟨fun he => ⟨he,he ▸ h⟩,fun he => he.1⟩
  next h =>
  simp only [reduceCtorEq,false_iff]
  rintro ⟨rfl,hv⟩
  exact h hv

structure DispatchSound (r : MemoryRegistry) : Prop where
  byIP : ∀ ip s, r.byIP ip = some s → ∃ e, r.bySubject s = some e ∧ e.key.sourceIP = ip
  byNetns : ∀ path s, r.byNetns path = some s →
    ∃ e, r.bySubject s = some e ∧ e.key.netNSPath = path
  effective_nil : ∀ s e, r.bySubject s = some e → (e.effective = none ↔ e.state ≠ .active)
  effective_active : ∀ s e, r.bySubject s = some e → e.state = .active →
    e.effective = some (mergeAlwaysOverlay e.user r.alwaysDeny r.alwaysAllow)

theorem Sound.dispatch (h : Sound r) : DispatchSound r := by
  refine ⟨fun ip s hs => ?_,fun path s hs => ?_,fun s e he => ?_,fun s e he ha => ?_⟩
  · obtain ⟨e,he,hk⟩ := bind_eq_some_iff.mp (h.ip ip s hs)
    exact ⟨e,he,(ipKey_eq_some.mp hk).1⟩
  · obtain ⟨e,he,hk⟩ := bind_eq_some_iff.mp (h.netns path s hs)
    exact ⟨e,he,(netnsKey_eq_some.mp hk).1⟩
  · rcases h.policy s e he with ⟨hst,-,heff⟩ | ⟨hst,-,heff⟩ <;> simp [hst,heff]
  · rcases h.policy s e he with ⟨hst,-,-⟩ | ⟨-,-,heff⟩
    · rw [hst] at ha; cases ha
    · exact heff

theorem registry_dispatch_sound (deny allow : List EgressRule) (ops : List Op) :
    DispatchSound (ops.foldl MemoryRegistry.step (newRegistry deny allow)) :=
  (sound_run (sound_newRegistry deny allow) ops).dispatch

end OpenSandbox.Registry
