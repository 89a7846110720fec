import OpenSandbox.Kubernetes.Pool.Ownership

namespace OpenSandbox.Kubernetes.Pool

open List

variable {input : Input}

theorem scheduled_unplanned {s : State} {name : String} (h : planned (s.plan input) name = []) :
    (s.scheduled input).sandboxes.lookup name = s.sandboxes.lookup name := by
  refine World.doAllocate_induction
    (I := fun w _ => w.sandboxes.lookup name = s.sandboxes.lookup name) ?_ ?_ rfl
  · intro w view rest _ hw
    exact hw
  intro w view rest hp hw
  rw [syncSandboxAllocation_other]
  · exact hw
  · rintro rfl
    exact hp h

def Sandbox.settled (view : Sandbox) (input : Input) : Sandbox :=
  if input.recycledFor view = [] then view
  else view.releasedTo (input.recycledFor view) view

theorem doRelease_settled {w : World} {views : List Sandbox} {view : Sandbox}
    (hnames : (views.map Sandbox.name).Nodup) (hv : view ∈ views)
    (hok : ∀ v ∈ views, input.releaseOutcome v.name = .ok)
    (hlook : w.sandboxes.lookup view.name = some view) :
    (World.doRelease input w views).sandboxes.lookup view.name = some (view.settled input) := by
  suffices h : ([].map Sandbox.name).Nodup ∧ (∀ v ∈ ([] : List Sandbox), v ∈ views) ∧
      (World.doRelease input w views).sandboxes.lookup view.name =
        some (if view ∈ ([] : List Sandbox) then view else view.settled input) by
    have hend := h.2.2
    rwa [if_neg not_mem_nil] at hend
  refine World.doRelease_induction
    (I := fun w rest => (rest.map Sandbox.name).Nodup ∧ (∀ v ∈ rest, v ∈ views) ∧
      w.sandboxes.lookup view.name = some (if view ∈ rest then view else view.settled input)) ?_ ?_
    ⟨hnames,fun _ h => h,by rw [if_pos hv]; exact hlook⟩
  · rintro w v rest hnone ⟨hnd,hsub,hw⟩
    refine ⟨(nodup_cons.mp hnd).2,fun x hx => hsub x (mem_cons_of_mem v hx),?_⟩
    rw [hw]
    by_cases heq : view = v
    · subst heq
      have hself : view.settled input = view := by rw [Sandbox.settled,if_pos hnone]
      simp [hself]
    · simp [heq]
  rintro w v rest hsome ⟨hnd,hsub,hw⟩
  refine ⟨(nodup_cons.mp hnd).2,fun x hx => hsub x (mem_cons_of_mem v hx),?_⟩
  by_cases heq : view = v
  · subst heq
    have hnot : view ∉ rest := fun hx => name_ne_of_distinct hnd hx rfl
    rw [if_pos mem_cons_self] at hw
    have hsync := syncSandboxReleased_sync hw (input.releaseOutcome view.name)
      (input.recycledFor view)
    rw [hok view (hsub view mem_cons_self)] at hsync ⊢
    rw [if_neg hnot,Sandbox.settled,if_neg hsome]
    cases hsync with
    | ok _ hsandboxes _ => rw [hsandboxes,if_pos rfl]
  · have hne : view.name ≠ v.name := by
      intro hname
      exact heq (inj_on_of_nodup_map hnames hv (hsub v mem_cons_self) hname)
    rw [syncSandboxReleased_other _ _ _ _ hne,hw]
    simp [heq]

theorem reconcile_settled {s t : State} (hanswered : input.Answered)
    (hstep : step s (.reconcile input) = some t) {view : Sandbox} (hv : view ∈ input.views)
    (hdel : view.deleting = true) : t.sandboxes.lookup view.name = some (view.settled input) := by
  simp only [step] at hstep
  split_ifs at hstep with hfresh
  cases hstep
  have hplan : planned (s.plan input) view.name = [] := by
    by_contra hp
    have hwant : view.wanting := wanting_of_planned hfresh.views.names hv hp
    have hnot := hwant.1
    rw [hdel] at hnot
    cases hnot
  have hworks : s.allocateFailed input = false := by
    rw [State.allocateFailed,any_eq_false]
    intro v hmem
    have hmem := hfresh.allocOrder.mem_iff.mp hmem
    simp [(hfresh.views.current v hmem).1,(hanswered v hmem).1]
  unfold State.reconcilePool
  rw [if_neg (by simp [hworks])]
  refine doRelease_settled ?_ (hfresh.releaseOrder.mem_iff.mpr hv) ?_ ?_
  · exact (hfresh.releaseOrder.map Sandbox.name).nodup_iff.mpr hfresh.views.names
  · exact fun v hmem => (hanswered v (hfresh.releaseOrder.mem_iff.mp hmem)).2
  · rw [State.recycledWorld,scheduled_unplanned hplan]
    exact (hfresh.views.current view hv).1

theorem finalizer_removed_iff {s t : State} {input : Input} (hanswered : input.Answered)
    (hstep : step s (.reconcile input) = some t) {view cur : Sandbox} (hv : view ∈ input.views)
    (hdel : view.deleting = true) (hfin : view.finalizer = true)
    (hcur : t.sandboxes.lookup view.name = some cur)
    (hall : ∀ pod ∈ cur.alloc, pod ∈ cur.released) :
    cur.finalizer = false ↔ ∃ pod ∈ view.alloc, pod ∉ view.released := by
  rw [reconcile_settled hanswered hstep hv hdel,Option.some.injEq] at hcur
  subst hcur
  unfold Sandbox.settled at hall ⊢
  split at hall
  · rename_i hnone
    rw [if_pos hnone,hfin]
    refine ⟨nofun,?_⟩
    rintro ⟨pod,hpod,hnot⟩
    exact absurd (hall pod hpod) hnot
  rename_i hsome
  rw [if_neg hsome]
  refine ⟨fun _ => ?_,fun _ => ?_⟩
  · obtain ⟨pod,hpod⟩ := exists_mem_of_ne_nil _ hsome
    have hmem : pod ∈ (getSandboxRequest view).toRelease := (mem_filter.mp hpod).1
    rw [getSandboxRequest,if_pos hdel] at hmem
    obtain ⟨halloc,hnot⟩ := mem_filter.mp hmem
    exact ⟨pod,halloc,of_decide_eq_true hnot⟩
  · have hreleased : allReleased view (view.released ++ input.recycledFor view) = true := by
      rw [allReleased,hdel,Bool.true_and,all_eq_true]
      intro pod hpod
      exact decide_eq_true (hall pod hpod)
    simp [Sandbox.releasedTo,setReleased,hreleased,hfin]

def doomedSandbox : Sandbox :=
  { name := "a"
    uid := 0
    version := 2
    attached := true
    deleting := true
    replicas := 1
    alloc := ["p"]
    release := []
    released := []
    finalizer := true }

def freedSandbox : Sandbox :=
  { doomedSandbox with
    version := 3
    released := ["p"]
    finalizer := false }

theorem finalizer_removed_iff_releasing : ∃ s t, Reachable (fun _ a => Undisturbed a) s ∧
      step s (.reconcile (s.input [readyPod "p"])) = some t ∧
      t.sandboxes.lookup "a" = some freedSandbox ∧
      (freedSandbox.finalizer = false ↔
        ∃ pod ∈ doomedSandbox.alloc, pod ∉ doomedSandbox.released) := by
  obtain ⟨s,hs,hanswered,hview,t,ht,hcur⟩ : ∃ s ∈ rerun (fun _ a => Undisturbed a)
        [.act (.create "a" 1),.reconcile [readyPod "p"],.act (.delete "a")],
        (s.input [readyPod "p"]).Answered ∧ doomedSandbox ∈ (s.input [readyPod "p"]).views ∧
          ∃ t ∈ step s (.reconcile (s.input [readyPod "p"])),
            t.sandboxes.lookup "a" = some freedSandbox := by
    decide
  exact ⟨s,t,rerun_reachable hs,ht,hcur,
    finalizer_removed_iff hanswered ht hview rfl rfl hcur (by decide)⟩

theorem finalizer_never_removed : ∃ s t cur, Reachable (fun _ a => Undisturbed a) s ∧
      step s (.reconcile (s.input [readyPod "p"])) = some t ∧
      t.sandboxes.lookup "a" = some cur ∧ cur.deleting = true ∧
      (∀ pod ∈ cur.alloc, pod ∈ cur.released) ∧ cur.finalizer = true := by
  obtain ⟨s,hs,t,ht,cur,hcur,hflags⟩ : ∃ s ∈ rerun (fun _ a => Undisturbed a)
        [.act (.create "a" 1),.reconcile [readyPod "p"],.act (.requestRelease "a" ["p"]),
          .reconcile [readyPod "p"],.act (.delete "a")],
        ∃ t ∈ step s (.reconcile (s.input [readyPod "p"])), ∃ cur ∈ t.sandboxes.lookup "a",
          cur.deleting = true ∧ (∀ pod ∈ cur.alloc, pod ∈ cur.released) ∧ cur.finalizer = true := by
    decide
  exact ⟨s,t,cur,rerun_reachable hs,ht,hcur,hflags⟩

end OpenSandbox.Kubernetes.Pool
