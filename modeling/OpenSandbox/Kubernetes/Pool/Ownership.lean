import OpenSandbox.Kubernetes.Pool.Eviction

namespace OpenSandbox.Kubernetes.Pool

open List

def ActiveFor (sandboxes : GoMap Sandbox) (name pod : String) : Prop :=
  ∃ sb, sandboxes.lookup name = some sb ∧ sb.attached = true ∧ sb.active pod

def Exact (store : Store) (sandboxes : GoMap Sandbox) : Prop :=
  ∀ pod name, store.lookup pod = some name → ActiveFor sandboxes name pod

theorem recover_exact {sandboxes : GoMap Sandbox} {recovery : List Sandbox}
    (h : Listing sandboxes recovery) : Exact (recover recovery) sandboxes := by
  intro pod name hpod
  obtain ⟨sb,hmem,rfl,ha⟩ := recover_known recovery hpod
  obtain ⟨hsb,hatt⟩ := h.current sb hmem
  exact ⟨sb,hsb,hatt,ha⟩

variable {views rest : List Sandbox} {plan : Plan} {store : Store} {w w' : World} {view : Sandbox}

theorem Exact.allocate (hs : Setting views plan store)
    (h : Allocating views plan store w (view :: rest)) (hp : planned plan view.name ≠ [])
    (hsync : AllocationSync w view (planned plan view.name) .ok w')
    (he : Exact w.store w.sandboxes) : Exact w'.store w'.sandboxes := by
  cases hsync with
  | ok hstore hsandboxes _ =>
    obtain ⟨hlook,hatt⟩ := h.current view mem_cons_self
    have hreleased := (hs.fresh view (h.known view mem_cons_self) hp).1
    intro pod name hpod
    by_cases hne : name = view.name
    · subst hne
      refine ⟨view.allocatedTo (planned plan view.name),?_,hatt,?_,?_⟩
      · rw [hsandboxes,if_pos rfl]
      · rw [hstore,lookup_updateAllocation] at hpod
        split at hpod
        · assumption
        · split at hpod
          · cases hpod
          · exact absurd hpod ‹_›
      · intro hr
        rw [show (view.allocatedTo (planned plan view.name)).released = [] from hreleased] at hr
        cases hr
    · obtain ⟨sb,hsb,hsbatt,ha⟩ := he pod name ((h.store_other hs hp (.inl hstore) hne).mp hpod)
      refine ⟨sb,?_,hsbatt,ha⟩
      rwa [hsandboxes,if_neg hne]

variable {input : Input}

theorem Exact.release {cur : Sandbox} (hcur : w.sandboxes.lookup view.name = some cur)
    (hsync : ReleaseSync w view cur (input.recycledFor view) .ok w')
    (he : Exact w.store w.sandboxes) : Exact w'.store w'.sandboxes := by
  cases hsync with
  | ok hstore hsandboxes _ =>
    intro pod name hpod
    rw [hstore,lookup_releaseAllocation] at hpod
    split_ifs at hpod with hnot
    obtain ⟨sb,hsb,hatt,ha⟩ := he pod name hpod
    by_cases hne : name = view.name
    · subst hne
      rw [hcur] at hsb
      cases hsb
      refine ⟨view.releasedTo (input.recycledFor view) cur,?_,hatt,ha.1,hnot⟩
      rw [hsandboxes,if_pos rfl]
    · refine ⟨sb,?_,hatt,ha⟩
      rwa [hsandboxes,if_neg hne]

def Input.Answered (input : Input) : Prop :=
  ∀ view ∈ input.views, input.allocOutcome view.name = .ok ∧ input.releaseOutcome view.name = .ok

instance (sandboxes : GoMap Sandbox) (name pod : String) :
    Decidable (ActiveFor sandboxes name pod) := by
  unfold ActiveFor
  infer_instance

variable {name pod : String}

instance (input : Input) : Decidable input.Answered := by unfold Input.Answered; infer_instance

variable {s : State}

theorem Exact.reconcilePool (htidy : Tidy s input) (hanswered : input.Answered)
    (hfresh : input.Fresh s.sandboxes) (hcover : Cover (s.allocation input.recovery) s.sandboxes)
    (hshaped : Shaped s.sandboxes) (he : Exact (s.allocation input.recovery) s.sandboxes) :
    Exact (s.reconcilePool input).store (s.reconcilePool input).sandboxes := by
  obtain ⟨hsched,hexact⟩ := scheduled_run (P := fun w => Exact w.store w.sandboxes) htidy hfresh
    hcover hshaped he (by
      intro w view rest w' h hp hsync hw
      rw [(hanswered view (h.known view mem_cons_self)).1] at hsync
      exact hw.allocate (htidy.setting hfresh) h hp hsync)
  unfold State.reconcilePool
  split
  · exact hexact
  obtain ⟨hrel,hexact⟩ := released_run (P := fun w => Exact w.store w.sandboxes) hfresh hsched
    hexact (by
      intro w view rest cur w' h hp hcur _ hsync hw
      rw [(hanswered view (h.known view mem_cons_self)).2] at hsync
      exact hw.release hcur hsync)
  intro pod name hpod
  rw [lookup_releaseAllocation] at hpod
  split_ifs at hpod
  exact hexact pod name hpod

def Undisturbed : Action → Prop
  | .reconcile input => input.Answered
  | .vanish _ | .detach _ | .restart | .schedule _ => False
  | _ => True

instance (a : Action) : Decidable (Undisturbed a) := by unfold Undisturbed; induction a using Action.casesOn <;> infer_instance

def Orderly (s : State) (a : Action) : Prop :=
  Undisturbed a ∧ ∀ input, a = .reconcile input → Tidy s input

def Action.reconciled : Action → Option Input
  | .reconcile input => some input
  | _ => none

instance (s : State) (a : Action) : Decidable (Orderly s a) :=
  decidable_of_iff (Undisturbed a ∧ ∀ input, a.reconciled = some input → Tidy s input)
    (by cases a <;> simp [Orderly,Action.reconciled])

structure Owned (s : State) : Prop extends Covered s where
  exact : s.recovered = true → Exact s.store s.sandboxes
  untouched : s.recovered = false → ∀ name sb, s.sandboxes.lookup name = some sb → sb.alloc = []

theorem Owned.initial : Owned State.initial where
  toCovered := Covered.initial
  exact := nofun
  untouched := by
    intro _ name sb hsb
    cases hsb

theorem keeps_active {t : State} {a : Action} (ha : a.edits = true) (hok : Undisturbed a)
    (hshaped : Shaped s.sandboxes) (hstep : step s a = some t)
    (h : ActiveFor s.sandboxes name pod) : ActiveFor t.sandboxes name pod := by
  obtain ⟨sb,hsb,hatt,hactive⟩ := h
  have hedit : ∀ (target : String) (change : Sandbox → Sandbox),
      (∀ sb, (change sb).attached = sb.attached ∧ (change sb).alloc = sb.alloc ∧
        (change sb).released = sb.released) →
      ActiveFor (s.edit target change).sandboxes name pod := by
    intro target change hchange
    obtain ⟨hc,hca,hcr⟩ := hchange sb
    by_cases hne : name = target
    · refine ⟨{ change sb with version := sb.version + 1 },?_,hc.trans hatt,?_⟩
      · rw [State.edit,lookup_patch,if_pos hne,← hne,hsb]
        rfl
      · rwa [Sandbox.active,hca,hcr]
    · refine ⟨sb,?_,hatt,hactive⟩
      rwa [State.edit,lookup_patch,if_neg hne]
  revert hstep
  fun_cases Pool.step s a <;> intro hstep <;> cases hstep
  · rename_i target replicas hnew
    refine ⟨sb,?_,hatt,hactive⟩
    rw [GoMap.lookup_inserted,if_neg]
    · exact hsb
    · rintro rfl
      rw [hsb] at hnew
      exact hnew rfl
  · exact hedit _ _ fun _ => ⟨rfl,rfl,rfl⟩
  · exact hedit _ _ fun _ => ⟨rfl,rfl,rfl⟩
  · exact hedit _ _ fun _ => ⟨rfl,rfl,rfl⟩
  · rename_i target gone hgone hfree
    refine ⟨sb,?_,hatt,hactive⟩
    rw [State.remove,GoMap.lookup_erased,if_neg]
    · exact hsb
    rintro rfl
    rw [hsb] at hgone
    cases hgone
    exact hshaped.held name sb hsb hatt hfree.2 pod hactive
  · cases hok
  · cases hok
  all_goals cases ha

theorem Owned.unshared (h : Owned s) {recovery : List Sandbox}
    (hlist : Listing s.sandboxes recovery) : s.recovered = true ∨ Unshared recovery := by
  cases hrec : s.recovered with
  | true => exact .inl rfl
  | false =>
    refine .inr fun view hv other _ _ pod hpod => ?_
    rw [h.untouched hrec view.name view (hlist.current view hv).1] at hpod
    cases hpod

theorem Owned.reconcile (h : Owned s) (htidy : Tidy s input) (hanswered : input.Answered)
    (hfresh : input.Fresh s.sandboxes) :
    Owned (s.reconcilePool input) ∧ (s.reconcilePool input).recovered = true := by
  have hun := h.unshared hfresh.recovery
  have he : Exact (s.allocation input.recovery) s.sandboxes := by
    unfold State.allocation
    split_ifs with hrec
    · exact h.exact hrec
    · exact recover_exact hfresh.recovery
  have hcover := h.allocation hfresh.recovery hun
  refine ⟨⟨h.toCovered.reconcile htidy hun hfresh,fun _ => ?_,fun hno => ?_⟩,
    reconcilePool_recovered⟩
  · exact he.reconcilePool htidy hanswered hfresh hcover h.shaped
  · rw [reconcilePool_recovered] at hno
    cases hno

theorem Owned.step {t : State} {a : Action} (h : Owned s) (hok : Orderly s a)
    (hstep : step s a = some t) : Owned t := by
  by_cases ha : a.edits = true
  · have hcalm := step_calm ha hstep
    refine ⟨⟨hcalm.shaped h.shaped,fun hrec => hcalm.cover (h.cover ?_)⟩,fun hrec => ?_,
      fun hrec => ?_⟩
    · rwa [← hcalm.recovered]
    · rw [hcalm.recovered] at hrec
      intro pod name hpod
      rw [hcalm.store] at hpod
      exact keeps_active ha hok.1 h.shaped hstep (h.exact hrec pod name hpod)
    · rw [hcalm.recovered] at hrec
      intro name sb' hsb'
      rcases hcalm.kept name sb' hsb' with ⟨_,uid,replicas,rfl⟩ | ⟨sb,hsb,htame⟩
      · rfl
      · rw [htame.alloc]
        exact h.untouched hrec name sb hsb
  cases a with
  | restart | schedule recovery => cases hok.1
  | reconcile input =>
    simp only [Pool.step] at hstep
    split_ifs at hstep with hfresh
    cases hstep
    exact (h.reconcile (hok.2 input rfl) hok.1 hfresh).1
  | _ => exact absurd rfl ha

theorem Reachable.owned (h : Reachable Orderly s) : Owned s := by
  refine @Runs.Reach.invariant _ _ _ _ _ Owned ?_ ?_ s h
  · rintro s rfl
    exact Owned.initial
  · intro s a t hs hok hstep
    exact hs.step hok hstep

theorem Owned.exclusive (h : Owned s) {other : String} (hname : ActiveFor s.sandboxes name pod)
    (hother : ActiveFor s.sandboxes other pod) : name = other := by
  obtain ⟨sb,hsb,hatt,ha⟩ := hname
  obtain ⟨sb',hsb',hatt',ha'⟩ := hother
  cases hrec : s.recovered with
  | true =>
    have h1 := h.cover hrec name sb pod hsb hatt ha
    have h2 := h.cover hrec other sb' pod hsb' hatt' ha'
    rw [h1] at h2
    exact Option.some.inj h2
  | false =>
    have hnil := ha.1
    rw [h.untouched hrec name sb hsb] at hnil
    cases hnil

theorem pods_owned_exclusively {s : State} (h : Reachable Orderly s) :
    (∀ pod name other, ActiveFor s.sandboxes name pod → ActiveFor s.sandboxes other pod →
      name = other) ∧
    ∀ input t, Orderly s (.reconcile input) → step s (.reconcile input) = some t →
      ∀ pod name, t.store.lookup pod = some name ↔ ActiveFor t.sandboxes name pod := by
  refine ⟨fun pod name other => h.owned.exclusive,?_⟩
  intro input t hok hstep pod name
  simp only [step] at hstep
  split_ifs at hstep with hfresh
  cases hstep
  obtain ⟨howned,hrec⟩ := h.owned.reconcile (hok.2 input rfl) hok.1 hfresh
  refine ⟨howned.exact hrec pod name,?_⟩
  rintro ⟨sb,hsb,hatt,ha⟩
  exact howned.cover hrec name sb pod hsb hatt ha

theorem pods_owned_exclusively_reused : ∃ s, Reachable Orderly s ∧ ActiveFor s.sandboxes "b" "p" ∧
      (∀ pod name other, ActiveFor s.sandboxes name pod → ActiveFor s.sandboxes other pod →
        name = other) ∧
      ∀ input t, Orderly s (.reconcile input) → step s (.reconcile input) = some t →
        ∀ pod name, t.store.lookup pod = some name ↔ ActiveFor t.sandboxes name pod := by
  obtain ⟨s,hs,hactive⟩ : ∃ s ∈ rerun Orderly
      [.act (.create "a" 1),.reconcile [readyPod "p"],.act (.requestRelease "a" ["p"]),
        .reconcile [readyPod "p"],.act (.create "b" 1),.reconcile [readyPod "p"]],
      ActiveFor s.sandboxes "b" "p" := by
    decide
  have hreach := rerun_reachable hs
  exact ⟨s,hreach,hactive,pods_owned_exclusively hreach⟩

theorem pod_owned_twice :
    ∃ s, Reachable (fun _ a => Undisturbed a) s ∧ ActiveFor s.sandboxes "b" "p" ∧
      ActiveFor s.sandboxes "c" "p" := by
  obtain ⟨s,hs,hb,hc⟩ : ∃ s ∈ rerun (fun _ a => Undisturbed a)
      [.act (.create "a" 2),.reconcile [readyPod "p",readyPod "q"],.act (.requestRelease "a" ["p"]),
        .reconcile [readyPod "p",readyPod "q"],.act (.create "b" 1),.reconcile [readyPod "p",
        readyPod "q"],.act (.requestRelease "a" ["p","q"]),.reconcile [readyPod "p",readyPod "q"],
        .act (.create "c" 1),.reconcile [readyPod "p",readyPod "q"]],
      ActiveFor s.sandboxes "b" "p" ∧ ActiveFor s.sandboxes "c" "p" := by
    decide
  exact ⟨s,rerun_reachable hs,hb,hc⟩

end OpenSandbox.Kubernetes.Pool
