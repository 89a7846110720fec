import OpenSandbox.Kubernetes.Pool.Phases

namespace OpenSandbox.Kubernetes.Pool

open List Bool

def Cover (store : Store) (sandboxes : GoMap Sandbox) : Prop :=
  ∀ name sb pod, sandboxes.lookup name = some sb → sb.attached = true → sb.active pod →
    store.lookup pod = some name

structure Shaped (sandboxes : GoMap Sandbox) : Prop where
  held : ∀ name sb, sandboxes.lookup name = some sb → sb.attached = true → sb.finalizer = false →
    ∀ pod, ¬ sb.active pod
  owned : ∀ name sb, sandboxes.lookup name = some sb → ∀ pod ∈ sb.release, pod ∈ sb.alloc

structure Grown (view cur : Sandbox) : Prop where
  attached : cur.attached = view.attached
  deleting : cur.deleting = view.deleting
  release : cur.release = view.release
  released : cur.released = view.released
  alloc : ∀ pod ∈ view.alloc, pod ∈ cur.alloc
  settled : view.deleting = true → cur.alloc = view.alloc

theorem Grown.refl (view : Sandbox) : Grown view view :=
  ⟨rfl,rfl,rfl,rfl,fun _ h => h,fun _ => rfl⟩

variable {cur : Sandbox} {pod : String}

theorem Grown.active {view : Sandbox} (h : Grown view cur) (ha : view.active pod) :
    cur.active pod := by
  refine ⟨h.alloc pod ha.1,?_⟩
  rw [h.released]
  exact ha.2

variable {input : Input}

theorem Grown.recycled {view : Sandbox} (h : Grown view cur)
    (howned : ∀ p ∈ cur.release, p ∈ cur.alloc) (hpod : pod ∈ input.recycledFor view) :
    cur.active pod := by
  have hmem : pod ∈ (getSandboxRequest view).toRelease := (mem_filter.mp hpod).1
  unfold getSandboxRequest at hmem
  split at hmem
  · obtain ⟨ha,hr⟩ := mem_filter.mp hmem
    exact h.active ⟨ha,of_decide_eq_true hr⟩
  obtain ⟨ha,hr⟩ := mem_filter.mp hmem
  refine ⟨howned pod (h.release ▸ ha),?_⟩
  rw [h.released]
  exact of_decide_eq_true hr

structure Setting (views : List Sandbox) (plan : Plan) (store : Store) : Prop where
  names : (views.map Sandbox.name).Nodup
  disjoint : ∀ name other pod, name ≠ other → pod ∈ planned plan name → pod ∉ planned plan other
  fresh : ∀ view ∈ views, planned plan view.name ≠ [] →
    view.released = [] ∧ view.deleting = false
  clear : ∀ view ∈ views, (getSandboxRequest view).toRelease ≠ [] → ∀ pod ∈ view.released,
    store.lookup pod = none ∧ ∀ name, pod ∉ planned plan name

structure Phase (views : List Sandbox) (store : Store) (w : World) : Prop where
  cover : Cover w.store w.sandboxes
  shaped : Shaped w.sandboxes
  listed : ∀ name sb, w.sandboxes.lookup name = some sb → sb.attached = true →
    name ∈ views.map Sandbox.name
  strangers : ∀ pod name, name ∉ views.map Sandbox.name → store.lookup pod = some name →
    w.store.lookup pod = some name
  clear : ∀ view ∈ views, (getSandboxRequest view).toRelease ≠ [] → ∀ pod ∈ view.released,
    w.store.lookup pod = none

structure Allocating (views : List Sandbox) (plan : Plan) (store : Store) (w : World)
    (rest : List Sandbox) : Prop extends Phase views store w where
  known : ∀ view ∈ rest, view ∈ views
  distinct : (rest.map Sandbox.name).Nodup
  current : ∀ view ∈ rest, w.sandboxes.lookup view.name = some view ∧ view.attached = true
  free : ∀ view ∈ rest, ∀ pod ∈ planned plan view.name, w.store.lookup pod = none
  grown : ∀ view ∈ views, ∃ cur, w.sandboxes.lookup view.name = some cur ∧ Grown view cur

structure Releasing (views : List Sandbox) (store : Store) (w : World)
    (rest : List Sandbox) : Prop extends Phase views store w where
  known : ∀ view ∈ rest, view ∈ views
  distinct : (rest.map Sandbox.name).Nodup
  attached : ∀ view ∈ rest, view.attached = true
  grown : ∀ view ∈ rest, ∃ cur, w.sandboxes.lookup view.name = some cur ∧ Grown view cur

theorem name_ne_of_distinct {view other : Sandbox} {rest : List Sandbox}
    (h : ((view :: rest).map Sandbox.name).Nodup) (ho : other ∈ rest) :
    other.name ≠ view.name := by
  intro heq
  rw [map_cons,nodup_cons] at h
  exact h.1 (heq ▸ mem_map_of_mem ho)

variable {views rest : List Sandbox} {plan : Plan} {store : Store} {w w' : World} {view : Sandbox}

theorem Allocating.skip (h : Allocating views plan store w (view :: rest)) :
    Allocating views plan store w rest :=
  { h with
    known := fun v hv => h.known v (mem_cons_of_mem view hv)
    distinct := (nodup_cons.mp h.distinct).2
    current := fun v hv => h.current v (mem_cons_of_mem view hv)
    free := fun v hv => h.free v (mem_cons_of_mem view hv) }

theorem Releasing.skip (h : Releasing views store w (view :: rest)) :
    Releasing views store w rest where
  toPhase := h.toPhase
  known := fun v hv => h.known v (mem_cons_of_mem view hv)
  distinct := (nodup_cons.mp h.distinct).2
  attached := fun v hv => h.attached v (mem_cons_of_mem view hv)
  grown := fun v hv => h.grown v (mem_cons_of_mem view hv)

section

variable (hs : Setting views plan store) (h : Allocating views plan store w (view :: rest))
  (hp : planned plan view.name ≠ [])

include hs h hp

theorem Allocating.own {pod : String} (ha : pod ∈ view.alloc) : w.store.lookup pod = some view.name := by
  obtain ⟨hlook,hatt⟩ := h.current view mem_cons_self
  have hreleased := (hs.fresh view (h.known view mem_cons_self) hp).1
  exact h.cover view.name view pod hlook hatt ⟨ha,by simp [hreleased]⟩

variable {name : String}

theorem Allocating.store_other
    (hstore : let allocated :=
        updateAllocation w.store view.name (view.alloc ++ planned plan view.name)
      w'.store = allocated ∨ w'.store = updateAllocation allocated view.name view.alloc)
    (hne : name ≠ view.name) :
    w'.store.lookup pod = some name ↔ w.store.lookup pod = some name := by
  by_cases ha : pod ∈ view.alloc
  · have hown := h.own hs hp ha
    rcases hstore with hstore | hstore <;> simp [hstore,lookup_updateAllocation,ha,hown]
  by_cases hq : pod ∈ planned plan view.name
  · have hfree := h.free view mem_cons_self pod hq
    rcases hstore with hstore | hstore <;>
      simp [hstore,lookup_updateAllocation,ha,hq,hfree,Ne.symm hne]
  · by_cases hv : w.store.lookup pod = some view.name <;> rcases hstore with hstore | hstore <;>
      simp [hstore,lookup_updateAllocation,ha,hq,hv,Ne.symm hne]

theorem Allocating.written
    (hsandboxes : ∀ name, w'.sandboxes.lookup name =
      if name = view.name then some cur else w.sandboxes.lookup name)
    (hgrown : Grown view cur) (hheld : cur.finalizer = false → ∀ pod, ¬ cur.active pod)
    (hcover : ∀ pod, cur.active pod → w'.store.lookup pod = some view.name)
    (hother : ∀ {pod name : String}, name ≠ view.name →
      (w'.store.lookup pod = some name ↔ w.store.lookup pod = some name))
    (hnone : ∀ {pod : String}, pod ∉ view.alloc → pod ∉ planned plan view.name →
      w.store.lookup pod = none → w'.store.lookup pod = none) :
    Allocating views plan store w' rest := by
  have hview := h.known view mem_cons_self
  obtain ⟨hlook,hatt⟩ := h.current view mem_cons_self
  have hstill {pod : String} (hbefore : w.store.lookup pod = none)
      (hq : pod ∉ planned plan view.name) : w'.store.lookup pod = none := by
    refine hnone (fun ha => ?_) hq hbefore
    rw [h.own hs hp ha] at hbefore
    cases hbefore
  refine ⟨⟨?_,⟨?_,?_⟩,?_,?_,?_⟩,fun v hv => h.known v (mem_cons_of_mem view hv),
    (nodup_cons.mp h.distinct).2,?_,?_,?_⟩
  · intro name sb pod hn hsb ha
    rw [hsandboxes] at hn
    split_ifs at hn with hname
    · cases hn
      rw [hname]
      exact hcover pod ha
    · exact (hother hname).mpr (h.cover name sb pod hn hsb ha)
  · intro name sb hn hsb hf
    rw [hsandboxes] at hn
    split at hn
    · cases hn
      exact hheld hf
    · exact h.shaped.held name sb hn hsb hf
  · intro name sb hn pod hpod
    rw [hsandboxes] at hn
    split at hn
    · cases hn
      rw [hgrown.release] at hpod
      exact hgrown.alloc pod (h.shaped.owned view.name view hlook pod hpod)
    · exact h.shaped.owned name sb hn pod hpod
  · intro name sb hn hsb
    rw [hsandboxes] at hn
    split_ifs at hn with hname
    · rw [hname]
      exact h.listed view.name view hlook hatt
    · exact h.listed name sb hn hsb
  · intro pod name hname hpod
    have hne : name ≠ view.name := by
      rintro rfl
      exact hname (mem_map_of_mem hview)
    exact (hother hne).mpr (h.strangers pod name hname hpod)
  · intro v hv hrel pod hpod
    exact hstill (h.clear v hv hrel pod hpod) ((hs.clear v hv hrel pod hpod).2 view.name)
  · intro v hv
    rw [hsandboxes,if_neg (name_ne_of_distinct h.distinct hv)]
    exact h.current v (mem_cons_of_mem view hv)
  · intro v hv pod hpod
    have hne := name_ne_of_distinct h.distinct hv
    exact hstill (h.free v (mem_cons_of_mem view hv) pod hpod)
      (hs.disjoint v.name view.name pod hne hpod)
  · intro v hv
    rw [hsandboxes]
    split_ifs with hname
    · cases inj_on_of_nodup_map hs.names hv hview hname
      exact ⟨cur,rfl,hgrown⟩
    · exact h.grown v hv

theorem Allocating.sync {outcome : SyncOutcome} (hkeep : outcome ≠ .lost)
    (hsync : AllocationSync w view (planned plan view.name) outcome w') :
    Allocating views plan store w' rest := by
  obtain ⟨hlook,hatt⟩ := h.current view mem_cons_self
  obtain ⟨hreleased,hdeleting⟩ := hs.fresh view (h.known view mem_cons_self) hp
  cases hsync with
  | ok hstore hsandboxes _ =>
    refine h.written hs hp hsandboxes ?_ ?_ ?_ (h.store_other hs hp (.inl hstore)) ?_
    · refine ⟨rfl,rfl,rfl,rfl,fun pod hpod => mem_append_left _ hpod,fun hd => ?_⟩
      rw [hdeleting] at hd
      cases hd
    · intro hf
      simp [Sandbox.allocatedTo,setAllocation] at hf
    · intro pod ha
      have hmem : pod ∈ view.alloc ++ planned plan view.name := ha.1
      rw [hstore,lookup_updateAllocation,if_pos hmem]
    · intro pod ha hq hnone
      simp [hstore,lookup_updateAllocation,ha,hq,hnone]
  | failed hstore hsandboxes _ =>
    refine h.written hs hp ?_ (Grown.refl view) (h.shaped.held view.name view hlook hatt) ?_
      (h.store_other hs hp (.inr hstore)) ?_
    · intro name
      rw [hsandboxes]
      split_ifs with hname
      · rw [hname,hlook]
      · rfl
    · intro pod ha
      simp [hstore,lookup_updateAllocation,ha.1]
    · intro pod ha hq hnone
      simp [hstore,lookup_updateAllocation,ha,hq,hnone]
  | lost => exact absurd rfl hkeep

end

variable (h : Releasing views store w (view :: rest))

include h

theorem Releasing.view_active
    (hpod : pod ∈ input.recycledFor view) : w.store.lookup pod = some view.name := by
  obtain ⟨cur,hcur,hgrown⟩ := h.grown view mem_cons_self
  refine h.cover view.name cur pod hcur ?_ ?_
  · rw [hgrown.attached]
    exact h.attached view mem_cons_self
  · exact hgrown.recycled (h.shaped.owned view.name cur hcur) hpod

variable (hp : input.recycledFor view ≠ [])

include hp

theorem Releasing.erased (hpod : pod ∈ view.released ++ input.recycledFor view)
    (hname : w.store.lookup pod = some name) : name = view.name := by
  rcases mem_append.mp hpod with hr | hr
  · have hrel : (getSandboxRequest view).toRelease ≠ [] := by
      intro hnil
      exact hp (by simp [Input.recycledFor,Input.succeeded,hnil])
    have hnone := h.clear view (h.known view mem_cons_self) hrel pod hr
    rw [hname] at hnone
    cases hnone
  · have hown := h.view_active hr
    rw [hname] at hown
    exact Option.some.inj hown

theorem Releasing.written (hcur : w.sandboxes.lookup view.name = some cur) (hgrown : Grown view cur)
    (hstore : w'.store = releaseAllocation w.store (view.released ++ input.recycledFor view) ∨
      w'.store = w.store)
    (hsandboxes : ∀ name, w'.sandboxes.lookup name = if name = view.name then
      some (view.releasedTo (input.recycledFor view) cur) else w.sandboxes.lookup name) :
    Releasing views store w' rest := by
  have hatt : cur.attached = true := by
    rw [hgrown.attached]
    exact h.attached view mem_cons_self
  have hkept : ∀ {pod name : String}, w.store.lookup pod = some name →
      (pod ∈ view.released ++ input.recycledFor view → False) →
      w'.store.lookup pod = some name := by
    intro pod name hpod hnot
    rcases hstore with hstore | hstore
    · rwa [hstore,lookup_releaseAllocation,if_neg hnot]
    · rwa [hstore]
  have hnone : ∀ {pod : String}, w.store.lookup pod = none → w'.store.lookup pod = none := by
    intro pod hpod
    rcases hstore with hstore | hstore
    · rw [hstore,lookup_releaseAllocation,hpod,ite_self]
    · rwa [hstore]
  have hshrunk : ∀ {pod : String}, (view.releasedTo (input.recycledFor view) cur).active pod →
      cur.active pod ∧ pod ∉ view.released ++ input.recycledFor view := by
    intro pod ha
    refine ⟨⟨ha.1,fun hr => ha.2 ?_⟩,ha.2⟩
    rw [hgrown.released] at hr
    exact mem_append_left _ hr
  refine ⟨⟨?_,⟨?_,?_⟩,?_,?_,?_⟩,fun v hv => h.known v (mem_cons_of_mem view hv),
    (nodup_cons.mp h.distinct).2,fun v hv => h.attached v (mem_cons_of_mem view hv),?_⟩
  · intro name sb pod hn hsb ha
    rw [hsandboxes] at hn
    split_ifs at hn with hname
    · cases hn
      obtain ⟨hactive,hnot⟩ := hshrunk ha
      rw [hname]
      exact hkept (h.cover view.name cur pod hcur hatt hactive) hnot
    · have hbefore := h.cover name sb pod hn hsb ha
      exact hkept hbefore fun hpod => hname (h.erased hp hpod hbefore)
  · intro name sb hn hsb hf pod ha
    rw [hsandboxes] at hn
    split at hn
    · cases hn
      obtain ⟨hactive,hnot⟩ := hshrunk ha
      rcases and_eq_false_iff.mp hf with hf | hf
      · exact h.shaped.held view.name cur hcur hatt hf pod hactive
      simp only [allReleased,not_eq_false',and_eq_true,all_eq_true,decide_eq_true_eq] at hf
      obtain ⟨⟨hdel,hall⟩,_⟩ := hf
      have halloc : pod ∈ view.alloc := by
        rw [← hgrown.settled hdel]
        exact hactive.1
      exact hnot (hall pod halloc)
    · exact h.shaped.held name sb hn hsb hf pod ha
  · intro name sb hn pod hpod
    rw [hsandboxes] at hn
    split at hn
    · cases hn
      exact h.shaped.owned view.name cur hcur pod hpod
    · exact h.shaped.owned name sb hn pod hpod
  · intro name sb hn hsb
    rw [hsandboxes] at hn
    split_ifs at hn with hname
    · rw [hname]
      exact h.listed view.name cur hcur hatt
    · exact h.listed name sb hn hsb
  · intro pod name hname hpod
    have hbefore := h.strangers pod name hname hpod
    refine hkept hbefore fun hmem => hname ?_
    rw [h.erased hp hmem hbefore]
    exact mem_map_of_mem (h.known view mem_cons_self)
  · intro v hv hrel pod hpod
    exact hnone (h.clear v hv hrel pod hpod)
  · intro v hv
    rw [hsandboxes,if_neg (name_ne_of_distinct h.distinct hv)]
    exact h.grown v (mem_cons_of_mem view hv)

theorem Releasing.sync (hcur : w.sandboxes.lookup view.name = some cur) (hgrown : Grown view cur)
    {outcome : SyncOutcome} (hsync : ReleaseSync w view cur (input.recycledFor view) outcome w') :
    Releasing views store w' rest := by
  cases hsync with
  | ok hstore hsandboxes _ => exact h.written hp hcur hgrown (.inl hstore) hsandboxes
  | failed => exact h.skip
  | lost hstore hsandboxes _ => exact h.written hp hcur hgrown (.inr hstore) hsandboxes

end OpenSandbox.Kubernetes.Pool
