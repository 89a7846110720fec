import OpenSandbox.Kubernetes.Pool.Cover

namespace OpenSandbox.Kubernetes.Pool

open List

@[mk_iff] structure Tidy (s : State) (input : Input) : Prop where
  wanting : ∀ view ∈ input.views, view.wanting → view.released = []
  releasing : ∀ view ∈ input.views, (getSandboxRequest view).toRelease ≠ [] →
    ∀ pod ∈ view.released, (s.allocation input.recovery).lookup pod = none ∧
      pod ∉ input.pods.map Pod.name
  answered : ∀ view ∈ input.views, input.allocOutcome view.name ≠ .lost

instance (s : State) (input : Input) : Decidable (Tidy s input) :=
  decidable_of_iff' _ (tidy_iff s input)

variable {s : State} {input : Input}

theorem available_nodup {store seen : Store} {pods : List Pod} (h : (pods.map Pod.name).Nodup) :
    (availablePods store (handleEviction seen pods)).Nodup := by
  have hsub : (((handleEviction seen pods).filter fun pod =>
      pod.ready && (store.lookup pod.name).isNone).map Pod.name).Sublist (pods.map Pod.name) :=
    (filter_sublist.trans filter_sublist).map Pod.name
  exact h.sublist hsub

variable {name : String}

theorem plan_free {pod : String} (h : pod ∈ planned (s.plan input) name) :
    pod ∈ input.pods.map Pod.name ∧ (s.allocation input.recovery).lookup pod = none := by
  obtain ⟨p,hp,rfl⟩ := mem_map.mp (planned_available h)
  obtain ⟨hmem,hfree⟩ := mem_filter.mp hp
  rw [Bool.and_eq_true,Option.isNone_iff_eq_none] at hfree
  exact ⟨mem_map_of_mem (mem_filter.mp hmem).1,hfree.2⟩

theorem Tidy.setting (h : Tidy s input) (hfresh : input.Fresh s.sandboxes) :
    Setting input.views (s.plan input) (s.allocation input.recovery) where
  names := hfresh.views.names
  disjoint := by
    intro name other pod hne hpod
    exact planned_disjoint (available_nodup hfresh.pods) hne hpod
  fresh := by
    intro view hv hp
    have hwant : view.wanting := wanting_of_planned hfresh.views.names hv hp
    exact ⟨h.wanting view hv hwant,hwant.1⟩
  clear := by
    intro view hv hrel pod hpod
    obtain ⟨hnone,hnot⟩ := h.releasing view hv hrel pod hpod
    exact ⟨hnone,fun name hplanned => hnot (plan_free hplanned).1⟩

def State.unallocated (s : State) (input : Input) : World :=
  { store := s.allocation input.recovery, sandboxes := s.sandboxes, log := s.log }

theorem Listing.named {sandboxes : GoMap Sandbox} {views : List Sandbox}
    (h : Listing sandboxes views) {sb : Sandbox} (hsb : sandboxes.lookup name = some sb)
    (hatt : sb.attached = true) : name ∈ views.map Sandbox.name := by
  refine h.every name ?_ (by simp [hsb,hatt])
  exact GoMap.mem_keys_of_lookup hsb

theorem Listing.mem {sandboxes : GoMap Sandbox} {views : List Sandbox} (h : Listing sandboxes views)
    {sb : Sandbox} (hsb : sandboxes.lookup name = some sb) (hatt : sb.attached = true) :
    sb ∈ views ∧ sb.name = name := by
  obtain ⟨view,hv,rfl⟩ := mem_map.mp (h.named hsb hatt)
  have hlook := (h.current view hv).1
  rw [hsb] at hlook
  cases hlook
  exact ⟨hv,rfl⟩

theorem allocating_start (hfresh : input.Fresh s.sandboxes)
    (hs : Setting input.views (s.plan input) (s.allocation input.recovery))
    (hcover : Cover (s.allocation input.recovery) s.sandboxes) (hshaped : Shaped s.sandboxes) :
    Allocating input.views (s.plan input) (s.allocation input.recovery) (s.unallocated input)
      input.allocOrder where
  cover := hcover
  shaped := hshaped
  listed := fun _ _ hsb hatt => hfresh.views.named hsb hatt
  strangers := fun _ _ _ hpod => hpod
  clear := fun view hv hrel pod hpod => (hs.clear view hv hrel pod hpod).1
  known := fun _ hv => hfresh.allocOrder.mem_iff.mp hv
  distinct := (hfresh.allocOrder.map Sandbox.name).nodup_iff.mpr hfresh.views.names
  current := fun view hv => hfresh.views.current view (hfresh.allocOrder.mem_iff.mp hv)
  free := fun _ _ _ hpod => (plan_free hpod).2
  grown := fun view hv => ⟨view,(hfresh.views.current view hv).1,Grown.refl view⟩

theorem scheduled_run {P : World → Prop} (htidy : Tidy s input) (hfresh : input.Fresh s.sandboxes)
    (hcover : Cover (s.allocation input.recovery) s.sandboxes) (hshaped : Shaped s.sandboxes)
    (hstart : P (s.unallocated input))
    (hsync : ∀ w view rest w', Allocating input.views (s.plan input)
        (s.allocation input.recovery) w (view :: rest) → planned (s.plan input) view.name ≠ [] →
      AllocationSync w view (planned (s.plan input) view.name) (input.allocOutcome view.name) w' →
      P w → P w') :
    Allocating input.views (s.plan input) (s.allocation input.recovery) (s.scheduled input) [] ∧
      P (s.scheduled input) := by
  have hs := htidy.setting hfresh
  refine World.doAllocate_induction
    (I := fun w rest => Allocating input.views (s.plan input) (s.allocation input.recovery)
      w rest ∧ P w) ?_ ?_ ⟨allocating_start hfresh hs hcover hshaped,hstart⟩
  · rintro w view rest _ ⟨h,hextra⟩
    exact ⟨h.skip,hextra⟩
  rintro w view rest hp ⟨h,hextra⟩
  have hlook := (h.current view mem_cons_self).1
  have hstep := syncSandboxAllocation_sync hlook (input.allocOutcome view.name)
    (planned (s.plan input) view.name)
  have hkept := htidy.answered view (h.known view mem_cons_self)
  exact ⟨h.sync hs hp hkept hstep,hsync w view rest _ h hp hstep hextra⟩

theorem releasing_start (hfresh : input.Fresh s.sandboxes)
    (h : Allocating input.views (s.plan input) (s.allocation input.recovery)
      (s.scheduled input) []) :
    Releasing input.views (s.allocation input.recovery) (s.recycledWorld input)
      input.releaseOrder :=
  { h with
    known := fun _ hv => hfresh.releaseOrder.mem_iff.mp hv
    distinct := (hfresh.releaseOrder.map Sandbox.name).nodup_iff.mpr hfresh.views.names
    attached := fun view hv =>
      (hfresh.views.current view (hfresh.releaseOrder.mem_iff.mp hv)).2
    grown := fun view hv => h.grown view (hfresh.releaseOrder.mem_iff.mp hv) }

theorem released_run {P : World → Prop} (hfresh : input.Fresh s.sandboxes)
    (h : Allocating input.views (s.plan input) (s.allocation input.recovery) (s.scheduled input) [])
    (hstart : P (s.recycledWorld input))
    (hsync : ∀ w view rest cur w', Releasing input.views (s.allocation input.recovery) w
        (view :: rest) → input.recycledFor view ≠ [] →
      w.sandboxes.lookup view.name = some cur → Grown view cur →
      ReleaseSync w view cur (input.recycledFor view) (input.releaseOutcome view.name) w' →
      P w → P w') :
    Releasing input.views (s.allocation input.recovery) (s.releasedWorld input) [] ∧
      P (s.releasedWorld input) := by
  refine World.doRelease_induction
    (I := fun w rest => Releasing input.views (s.allocation input.recovery) w rest ∧ P w)
    ?_ ?_ ⟨releasing_start hfresh h,hstart⟩
  · rintro w view rest _ ⟨h,hextra⟩
    exact ⟨h.skip,hextra⟩
  rintro w view rest hp ⟨h,hextra⟩
  obtain ⟨cur,hcur,hgrown⟩ := h.grown view mem_cons_self
  have hstep := syncSandboxReleased_sync hcur (input.releaseOutcome view.name)
    (input.recycledFor view)
  exact ⟨h.sync hp hcur hgrown hstep,hsync w view rest cur _ h hp hcur hgrown hstep hextra⟩

theorem Releasing.orphans
    (h : Releasing input.views (s.allocation input.recovery) (s.releasedWorld input) []) :
    Cover (releaseAllocation (s.releasedWorld input).store (s.orphanPods input))
      (s.releasedWorld input).sandboxes := by
  intro name sb pod hsb hatt ha
  have hbefore := h.cover name sb pod hsb hatt ha
  rw [lookup_releaseAllocation,if_neg]
  · exact hbefore
  intro hpod
  obtain ⟨⟨other,pod⟩,hentry,rfl⟩ := mem_map.mp hpod
  obtain ⟨hother,hnot⟩ := mem_orphans (mem_filter.mp hentry).1
  have hkept := h.strangers pod other hnot hother
  rw [hbefore] at hkept
  cases hkept
  exact hnot (h.listed name sb hsb hatt)

theorem Tidy.reconcilePool (htidy : Tidy s input) (hfresh : input.Fresh s.sandboxes)
    (hcover : Cover (s.allocation input.recovery) s.sandboxes) (hshaped : Shaped s.sandboxes) :
    Cover (s.reconcilePool input).store (s.reconcilePool input).sandboxes ∧
      Shaped (s.reconcilePool input).sandboxes := by
  obtain ⟨hsched,-⟩ := scheduled_run (P := fun _ => True) htidy hfresh hcover hshaped trivial
    (fun _ _ _ _ _ _ _ _ => trivial)
  unfold State.reconcilePool
  split
  · exact ⟨hsched.cover,hsched.shaped⟩
  · obtain ⟨hrel,-⟩ := released_run (P := fun _ => True) hfresh hsched trivial
      (fun _ _ _ _ _ _ _ _ _ _ _ => trivial)
    exact ⟨hrel.orphans,hrel.shaped⟩

theorem reconcilePool_recovered : (s.reconcilePool input).recovered = true := by
  unfold State.reconcilePool
  split <;> rfl

end OpenSandbox.Kubernetes.Pool
