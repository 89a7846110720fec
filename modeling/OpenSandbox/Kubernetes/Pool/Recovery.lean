import OpenSandbox.Kubernetes.Pool.Ownership

namespace OpenSandbox.Kubernetes.Pool

open List

def SendsActive (store : Store) (sandboxes : List Sandbox) : Prop :=
  ∀ pod name, store.lookup pod = some name ↔ ∃ sb ∈ sandboxes, sb.name = name ∧ sb.active pod

theorem recovery_exact_iff {sandboxes : List Sandbox} (hnames : (sandboxes.map Sandbox.name).Nodup)
    (hunique : ∀ sb ∈ sandboxes, ∀ other ∈ sandboxes, ∀ pod, sb.active pod → other.active pod →
      other.name = sb.name) :
    (∀ order : List Sandbox, order.Perm sandboxes → SendsActive (recover order) sandboxes) ↔
      ∀ sb ∈ sandboxes, ∀ other ∈ sandboxes, other.name ≠ sb.name →
        ∀ pod, sb.active pod → pod ∉ other.alloc := by
  constructor
  · intro hexact sb hsb other hother hne pod ha halloc
    have horder : (sandboxes.erase other ++ [other]).Perm sandboxes :=
      (perm_append_singleton _ _).trans (perm_cons_erase hother).symm
    have hlookup := (hexact _ horder pod sb.name).mpr ⟨sb,hsb,rfl,ha⟩
    have hreleased : pod ∈ other.released := by
      by_contra hkept
      exact hne (hunique sb hsb other hother pod ha ⟨halloc,hkept⟩)
    rw [recover,foldl_append,foldl_cons,foldl_nil,lookup_recoverSandbox,
      if_pos halloc,if_pos hreleased] at hlookup
    cases hlookup
  · intro hunshared order horder pod name
    constructor
    · intro hlookup
      obtain ⟨sb,hsb,hname,ha⟩ := recover_known order hlookup
      exact ⟨sb,horder.subset hsb,hname,ha⟩
    · rintro ⟨sb,hsb,rfl,ha⟩
      refine recover_active (horder.symm.subset hsb) ha (fun other hother hne => ?_)
        ((horder.map _).nodup_iff.mpr hnames)
      exact hunshared sb hsb other (horder.subset hother) hne pod ha

def holding (name : String) (alloc released : List String) : Sandbox :=
  { Sandbox.created name 0 1 with alloc, released }

theorem recovery_exact_iff_kept :
    SendsActive (recover [holding "b" ["q"] [],holding "a" ["p"] ["p"]])
      [holding "a" ["p"] ["p"],holding "b" ["q"] []] := by
  refine (recovery_exact_iff (by decide) ?_).mpr ?_ _ (.swap ..)
  · simp [Sandbox.active,holding]
  · simp [Sandbox.active,holding]

theorem recovery_loses_moved_pod :
    (recover [holding "b" ["p"] [],holding "a" ["p"] ["p"]]).lookup "p" = none ∧
      (recover [holding "a" ["p"] ["p"],holding "b" ["p"] []]).lookup "p" = some "b" := by
  decide

def failedSync (store : Store) (view : Sandbox) (pods : List String) : Store :=
  updateAllocation (updateAllocation store view.name pods) view.name view.alloc

theorem syncSandboxAllocation_failed (w : World) (view : Sandbox) (pods : List String) :
    (w.syncSandboxAllocation .failed view pods).store =
      failedSync w.store view (view.alloc ++ pods) := by
  rw [World.syncSandboxAllocation,World.outcomeOf,ite_self]
  rfl

theorem rollback_restores_iff (store : Store) (view : Sandbox) (pods : List String) :
    (∀ pod, (failedSync store view pods).lookup pod = store.lookup pod) ↔
      (∀ pod, pod ∈ view.alloc ↔ store.lookup pod = some view.name) ∧
        ∀ pod ∈ pods, pod ∉ view.alloc → store.lookup pod = none := by
  simp only [failedSync,lookup_updateAllocation]
  constructor
  · intro h
    refine ⟨fun pod => ⟨fun hold => ?_,fun hstored => ?_⟩,fun pod hpod hnew => ?_⟩
    · rw [← h pod,if_pos hold]
    · by_contra hnew
      have hpod := h pod
      by_cases hin : pod ∈ pods <;> simp [hnew,hin,hstored] at hpod
    · have hfresh := h pod
      simpa [hnew,hpod] using hfresh.symm
  · rintro ⟨hstored,hfresh⟩ pod
    by_cases hold : pod ∈ view.alloc
    · rw [if_pos hold,(hstored pod).mp hold]
    · have hother := mt (hstored pod).mpr hold
      by_cases hpod : pod ∈ pods
      · simp [hold,hpod,hfresh pod hpod hold]
      · simp [hold,hpod,hother]

theorem rollback_revives_released_pod :
    ∃ s view, Reachable (fun _ _ => True) s ∧ s.sandboxes.lookup "a" = some view ∧
      s.store.lookup "p" = none ∧ (failedSync s.store view ["p","q"]).lookup "p" = some "a" := by
  obtain ⟨s,hs,hview,hbefore,hafter⟩ : ∃ s ∈ rerun (fun _ _ => True)
      [.act (.create "a" 1),.reconcile [readyPod "p"],.act (.requestRelease "a" ["p"]),
        .reconcile [readyPod "p"]],
      (s.sandboxes.lookup "a").isSome = true ∧ s.store.lookup "p" = none ∧
        (s.sandboxes.lookup "a").bind (fun view =>
          (failedSync s.store view ["p","q"]).lookup "p") = some "a" := by
    decide
  obtain ⟨view,hview⟩ := Option.isSome_iff_exists.mp hview
  rw [hview] at hafter
  exact ⟨s,view,rerun_reachable hs,hview,hbefore,hafter⟩

end OpenSandbox.Kubernetes.Pool
