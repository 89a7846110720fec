import OpenSandbox.Kubernetes.Pool.Eviction

namespace OpenSandbox.Kubernetes.Pool

open List Option

structure Kept (sb sb' : Sandbox) : Prop where
  uid : sb'.uid = sb.uid
  replicas : sb.replicas ≤ sb'.replicas
  alloc : ∀ pod ∈ sb.alloc, pod ∈ sb'.alloc
  fits : sb.alloc.length ≤ sb.replicas → sb'.alloc.length ≤ sb'.replicas

theorem Kept.refl (sb : Sandbox) : Kept sb sb := ⟨rfl,Nat.le_refl _,fun _ h => h,id⟩

theorem Kept.trans {a b c : Sandbox} (h : Kept a b) (h' : Kept b c) : Kept a c :=
  ⟨h'.uid.trans h.uid,h.replicas.trans h'.replicas,fun pod hp => h'.alloc pod (h.alloc pod hp),
    fun hf => h'.fits (h.fits hf)⟩

def KeptAll (before after : GoMap Sandbox) : Prop :=
  ∀ name sb', after.lookup name = some sb' → ∃ sb, before.lookup name = some sb ∧ Kept sb sb'

theorem KeptAll.refl (m : GoMap Sandbox) : KeptAll m m := fun _ sb h => ⟨sb,h,Kept.refl sb⟩

theorem KeptAll.trans {a b c : GoMap Sandbox} (h : KeptAll a b) (h' : KeptAll b c) :
    KeptAll a c := by
  intro name sb'' hsb''
  obtain ⟨sb',hsb',hk'⟩ := h' name sb'' hsb''
  obtain ⟨sb,hsb,hk⟩ := h name sb' hsb'
  exact ⟨sb,hsb,hk.trans hk'⟩

theorem KeptAll.patch (m : GoMap Sandbox) (name : String) (change : Sandbox → Sandbox)
    (h : ∀ sb, m.lookup name = some sb → Kept sb { change sb with version := sb.version + 1 }) :
    KeptAll m (Pool.patch m name change) := by
  intro name' sb' hsb'
  rw [lookup_patch] at hsb'
  split_ifs at hsb' with hname
  · obtain ⟨sb,hsb,rfl⟩ := map_eq_some_iff.mp hsb'
    exact ⟨sb,hname ▸ hsb,h sb hsb⟩
  · exact ⟨sb',hsb',Kept.refl sb'⟩

def Seen (sandboxes : GoMap Sandbox) (view : Sandbox) : Prop :=
  ∀ cur, sandboxes.lookup view.name = some cur → cur.uid = view.uid ∧ cur.alloc = view.alloc

variable {s : State} {input : Input}

theorem allocation_kept {w : World} {view : Sandbox}
    (hnames : (input.views.map Sandbox.name).Nodup) (hv : view ∈ input.views)
    (hp : planned (s.plan input) view.name ≠ []) (hseen : Seen w.sandboxes view)
    (hold : ∀ cur, w.sandboxes.lookup view.name = some cur → cur.uid = view.uid →
      view.replicas ≤ cur.replicas) (outcome : SyncOutcome) :
    KeptAll w.sandboxes
      (w.syncSandboxAllocation outcome view (planned (s.plan input) view.name)).sandboxes := by
  rcases syncSandboxAllocation_sandboxes w outcome view (planned (s.plan input) view.name)
    with h | h
  · rw [h]
    exact KeptAll.refl _
  rw [h]
  refine KeptAll.patch _ _ _ fun cur hcur => ?_
  obtain ⟨huid,halloc⟩ := hseen cur hcur
  have hreplicas := hold cur hcur huid
  have hwant : view.wanting := wanting_of_planned hnames hv hp
  have hlen : (planned (s.plan input) view.name).length ≤ view.replicas - view.alloc.length := by
    have hle : (planned (s.plan input) view.name).length ≤ _ := planned_length hnames hv
    rwa [getSandboxRequest_supplement,hwant.1] at hle
  refine ⟨rfl,Nat.le_refl _,fun pod hpod => ?_,fun _ => ?_⟩
  · exact mem_append_left _ (halloc ▸ hpod)
  change (view.alloc ++ planned (s.plan input) view.name).length ≤ cur.replicas
  have hshort := hwant.2
  rw [length_append]
  omega

theorem released_kept (s : State) (input : Input) :
    KeptAll (s.scheduled input).sandboxes (s.releasedWorld input).sandboxes := by
  refine World.doRelease_induction
    (I := fun w _ => KeptAll (s.scheduled input).sandboxes w.sandboxes) ?_ ?_ (KeptAll.refl _)
  · intro w view rest _ hw
    exact hw
  intro w view rest _ hw
  rcases syncSandboxReleased_sandboxes w (input.releaseOutcome view.name) view
    (input.recycledFor view) with h | h
  · rwa [h]
  · rw [h]
    refine hw.trans (KeptAll.patch _ _ _ fun sb _ => ?_)
    exact ⟨rfl,Nat.le_refl _,fun _ hp => hp,id⟩

section Reconcile

variable (hnames : (input.views.map Sandbox.name).Nodup)
  (horder : input.allocOrder.Perm input.views)
  (hseen : ∀ view ∈ input.views, view.wanting → Seen s.sandboxes view)
  (hold : ∀ view ∈ input.views, ∀ cur, s.sandboxes.lookup view.name = some cur →
    cur.uid = view.uid → view.replicas ≤ cur.replicas)

include hnames horder hseen hold

theorem scheduled_kept : KeptAll s.sandboxes (s.scheduled input).sandboxes := by
  refine (World.doAllocate_induction
    (I := fun w rest => (rest.map Sandbox.name).Nodup ∧ (∀ view ∈ rest, view ∈ input.views) ∧
      (∀ view ∈ rest, w.sandboxes.lookup view.name = s.sandboxes.lookup view.name) ∧
      KeptAll s.sandboxes w.sandboxes) ?_ ?_
    ⟨(horder.map Sandbox.name).nodup_iff.mpr hnames,fun _ hv => horder.mem_iff.mp hv,
      fun _ _ => rfl,KeptAll.refl _⟩).2.2.2
  · rintro w view rest _ ⟨hnd,hsub,hsame,hkept⟩
    exact ⟨(nodup_cons.mp hnd).2,fun v hv => hsub v (mem_cons_of_mem view hv),
      fun v hv => hsame v (mem_cons_of_mem view hv),hkept⟩
  rintro w view rest hp ⟨hnd,hsub,hsame,hkept⟩
  have hv := hsub view mem_cons_self
  have hlook := hsame view mem_cons_self
  refine ⟨(nodup_cons.mp hnd).2,fun v hv => hsub v (mem_cons_of_mem view hv),
    fun v hv => ?_,hkept.trans (allocation_kept hnames hv hp ?_ ?_ _)⟩
  · rw [syncSandboxAllocation_other _ _ _ _ (name_ne_of_distinct hnd hv)]
    exact hsame v (mem_cons_of_mem view hv)
  · intro cur hcur
    rw [hlook] at hcur
    exact hseen view hv (wanting_of_planned hnames hv hp) cur hcur
  · intro cur hcur
    rw [hlook] at hcur
    exact hold view hv cur hcur

theorem reconcilePool_kept : KeptAll s.sandboxes (s.reconcilePool input).sandboxes := by
  have hsched := scheduled_kept hnames horder hseen hold
  unfold State.reconcilePool
  split
  · exact hsched
  · exact hsched.trans (released_kept s input)

end Reconcile

def Current (l : Lagged) : Action → Prop
  | .setReplicas name replicas =>
    ∀ sb, l.state.sandboxes.lookup name = some sb → sb.replicas ≤ replicas
  | .reconcile input => ∀ view ∈ input.views, view.wanting → Seen l.state.sandboxes view
  | _ => True

inductive Grew (s t : State) : Prop
  | kept : t.nextUid = s.nextUid → KeptAll s.sandboxes t.sandboxes → Grew s t
  | created (name replicas) : t.nextUid = s.nextUid + 1 → (∀ other, t.sandboxes.lookup other =
        if other = name then some (Sandbox.created name s.nextUid replicas)
        else s.sandboxes.lookup other) → Grew s t

theorem KeptAll.remove (s : State) (name : String) :
    KeptAll s.sandboxes (s.remove name).sandboxes := by
  intro name' sb' hsb'
  rw [State.remove,GoMap.lookup_erased] at hsb'
  split_ifs at hsb'
  exact ⟨sb',hsb',Kept.refl sb'⟩

variable {l : Lagged} {t : State}

theorem edit_grew {a : Action} (ha : a.edits = true) (hok : Current l a)
    (h : Pool.step l.state a = some t) : Grew l.state t := by
  have hedit : ∀ {name : String} {change : Sandbox → Sandbox},
      (∀ sb, Kept sb { change sb with version := sb.version + 1 }) →
      Grew l.state (l.state.edit name change) :=
    fun hkept => .kept rfl (KeptAll.patch _ _ _ fun sb _ => hkept sb)
  revert h
  fun_cases Pool.step l.state a <;> intro h <;> cases h
  · exact .created _ _ rfl fun other => GoMap.lookup_inserted _ _ _ _
  · refine .kept rfl (KeptAll.patch _ _ _ fun sb hsb => ?_)
    have hle := hok sb hsb
    exact ⟨rfl,hle,fun _ hp => hp,fun hf => hf.trans hle⟩
  · exact hedit fun _ => ⟨rfl,Nat.le_refl _,fun _ hp => hp,id⟩
  · exact hedit fun _ => ⟨rfl,Nat.le_refl _,fun _ hp => hp,id⟩
  · exact .kept rfl (KeptAll.remove _ _)
  · exact .kept rfl (KeptAll.remove _ _)
  · exact hedit fun _ => ⟨rfl,Nat.le_refl _,fun _ hp => hp,id⟩
  all_goals cases ha

structure Aged (l : Lagged) : Prop where
  past : ∀ view ∈ l.past, view.uid < l.state.nextUid
  live : ∀ name cur, l.state.sandboxes.lookup name = some cur →
    cur.uid < l.state.nextUid ∧ cur.alloc.length ≤ cur.replicas
  older : ∀ view ∈ l.past, ∀ name cur, l.state.sandboxes.lookup name = some cur →
    cur.uid = view.uid → view.replicas ≤ cur.replicas
  distinct : ∀ name other cur cur', l.state.sandboxes.lookup name = some cur →
    l.state.sandboxes.lookup other = some cur' → cur.uid = cur'.uid → name = other

theorem Aged.initial : Aged Lagged.initial where
  past := nofun
  live := nofun
  older := nofun
  distinct := nofun

theorem recorded_value {m : GoMap Sandbox} {sb : Sandbox}
    (h : sb ∈ m.entries.map Sigma.snd) : ∃ name, m.lookup name = some sb := by
  obtain ⟨⟨name,value⟩,hentry,rfl⟩ := mem_map.mp h
  exact ⟨name,AList.mem_lookup_iff.mpr hentry⟩

theorem Aged.record (views : List Sandbox) (hpast : ∀ view ∈ l.past, view.uid < t.nextUid)
    (hlive : ∀ name cur, t.sandboxes.lookup name = some cur →
      cur.uid < t.nextUid ∧ cur.alloc.length ≤ cur.replicas)
    (holder : ∀ view ∈ l.past, ∀ name cur, t.sandboxes.lookup name = some cur →
      cur.uid = view.uid → view.replicas ≤ cur.replicas)
    (hdistinct : ∀ name other cur cur', t.sandboxes.lookup name = some cur →
      t.sandboxes.lookup other = some cur' → cur.uid = cur'.uid → name = other) :
    Aged (l.record t views) := by
  refine ⟨forall_mem_append.mpr ⟨hpast,fun view hview => ?_⟩,hlive,
    forall_mem_append.mpr ⟨holder,fun view hview name cur hcur huid => ?_⟩,hdistinct⟩
  · obtain ⟨name,hname⟩ := recorded_value hview
    exact (hlive name view hname).1
  · obtain ⟨other,hother⟩ := recorded_value hview
    obtain rfl := hdistinct name other cur view hcur hother huid
    have hlook : t.sandboxes.lookup name = some cur := hcur
    rw [hother] at hlook
    cases hlook
    exact Nat.le_refl _

theorem Aged.grow (h : Aged l) (hgrew : Grew l.state t) (views : List Sandbox) :
    Aged (l.record t views) := by
  cases hgrew with
  | kept huid hkept =>
    refine Aged.record views (fun view hview => ?_) (fun name cur hcur => ?_)
      (fun view hview name cur hcur heq => ?_) (fun name other cur cur' hcur hcur' heq => ?_)
    · rw [huid]
      exact h.past view hview
    · obtain ⟨sb,hsb,hk⟩ := hkept name cur hcur
      obtain ⟨hlt,hfits⟩ := h.live name sb hsb
      exact ⟨by rw [huid,hk.uid]; exact hlt,hk.fits hfits⟩
    · obtain ⟨sb,hsb,hk⟩ := hkept name cur hcur
      exact (h.older view hview name sb hsb (hk.uid ▸ heq)).trans hk.replicas
    · obtain ⟨sb,hsb,hk⟩ := hkept name cur hcur
      obtain ⟨sb',hsb',hk'⟩ := hkept other cur' hcur'
      exact h.distinct name other sb sb' hsb hsb' (by rw [← hk.uid,← hk'.uid,heq])
  | created fresh replicas huid hlook =>
    have hcases : ∀ {name cur}, t.sandboxes.lookup name = some cur →
        (name = fresh ∧ cur = Sandbox.created fresh l.state.nextUid replicas) ∨
          l.state.sandboxes.lookup name = some cur := by
      intro name cur hcur
      rw [hlook] at hcur
      split_ifs at hcur with hname
      · cases hcur
        exact .inl ⟨hname,rfl⟩
      · exact .inr hcur
    refine Aged.record views (fun view hview => ?_) (fun name cur hcur => ?_)
      (fun view hview name cur hcur heq => ?_) (fun name other cur cur' hcur hcur' heq => ?_)
    · rw [huid]
      exact Nat.lt_succ_of_lt (h.past view hview)
    · rcases hcases hcur with ⟨_,rfl⟩ | hbefore
      · exact ⟨by rw [huid]; exact Nat.lt_succ_self _,Nat.zero_le _⟩
      · obtain ⟨hlt,hfits⟩ := h.live name cur hbefore
        exact ⟨by rw [huid]; exact Nat.lt_succ_of_lt hlt,hfits⟩
    · rcases hcases hcur with ⟨_,rfl⟩ | hbefore
      · have hlt := h.past view hview
        rw [← heq] at hlt
        exact absurd hlt (Nat.lt_irrefl _)
      · exact h.older view hview name cur hbefore heq
    rcases hcases hcur with ⟨rfl,rfl⟩ | hbefore
    · rcases hcases hcur' with ⟨rfl,_⟩ | hbefore'
      · rfl
      · have hlt := (h.live other cur' hbefore').1
        rw [← heq] at hlt
        exact absurd hlt (Nat.lt_irrefl _)
    · rcases hcases hcur' with ⟨_,rfl⟩ | hbefore'
      · have hlt := (h.live name cur hbefore).1
        rw [heq] at hlt
        exact absurd hlt (Nat.lt_irrefl _)
      · exact h.distinct name other cur cur' hbefore hbefore' heq

theorem step_grew {l' : Lagged} {a : Action} (h : Aged l) (hok : Current l a)
    (hstep : l.step a = some l') : ∃ t views, Grew l.state t ∧ l' = l.record t views := by
  have hedit : a.edits = true → (Pool.step l.state a).map (fun t => l.record t []) = some l' →
      ∃ t views, Grew l.state t ∧ l' = l.record t views := by
    intro ha hmap
    obtain ⟨t,ht,rfl⟩ := map_eq_some_iff.mp hmap
    exact ⟨t,[],edit_grew ha hok ht,rfl⟩
  cases a with
  | reconcile input =>
    simp only [Lagged.step] at hstep
    split_ifs at hstep with hread
    obtain ⟨_,hviews,_,horder,_⟩ := hread
    cases hstep
    refine ⟨_,_,.kept ?_ (reconcilePool_kept hviews.1 horder hok ?_),rfl⟩
    · unfold State.reconcilePool
      split <;> rfl
    · intro view hv cur hcur huid
      exact h.older view (hviews.2 view hv).1 view.name cur hcur huid
  | schedule recovery =>
    simp only [Lagged.step] at hstep
    split_ifs at hstep
    cases hstep
    refine ⟨_,_,?_,rfl⟩
    exact .kept rfl (KeptAll.refl _)
  | restart =>
    cases hstep
    refine ⟨_,_,?_,rfl⟩
    exact .kept rfl (KeptAll.refl _)
  | create name replicas | setReplicas name replicas | requestRelease name pods | delete name
  | collect name | vanish name | detach name => exact hedit rfl hstep

theorem LaggedRun.aged (h : LaggedRun Current l) : Aged l := by
  refine @Runs.Reach.invariant _ _ _ _ _ Aged ?_ ?_ l h
  · rintro l rfl
    exact Aged.initial
  · intro l a l' hl hok hstep
    obtain ⟨t,views,hgrew,rfl⟩ := step_grew hl hok hstep
    exact hl.grow hgrew views

theorem Grew.keeps (h : Aged l) (hgrew : Grew l.state t) {name : String} {sb sb' : Sandbox}
    (hsb : l.state.sandboxes.lookup name = some sb) (hsb' : t.sandboxes.lookup name = some sb')
    (huid : sb'.uid = sb.uid) {pod : String} (hpod : pod ∈ sb.alloc) : pod ∈ sb'.alloc := by
  cases hgrew with
  | kept _ hkept =>
    obtain ⟨before,hbefore,hk⟩ := hkept name sb' hsb'
    rw [hsb] at hbefore
    cases hbefore
    exact hk.alloc pod hpod
  | created fresh replicas _ hlook =>
    rw [hlook] at hsb'
    split at hsb'
    · cases hsb'
      have hlt := (h.live name sb hsb).1
      rw [← huid] at hlt
      exact absurd hlt (Nat.lt_irrefl _)
    · rw [hsb] at hsb'
      cases hsb'
      exact hpod

theorem allocation_kept_when_seen {l : Lagged} (h : LaggedRun Current l) :
    (∀ name sb, l.state.sandboxes.lookup name = some sb → sb.alloc.length ≤ sb.replicas) ∧
    ∀ a l', Current l a → l.step a = some l' → ∀ name sb sb',
      l.state.sandboxes.lookup name = some sb → l'.state.sandboxes.lookup name = some sb' →
      sb'.uid = sb.uid → ∀ pod, sb.active pod → pod ∈ sb'.alloc := by
  refine ⟨fun name sb hsb => (h.aged.live name sb hsb).2,?_⟩
  intro a l' hok hstep name sb sb' hsb hsb' huid pod ha
  obtain ⟨t,views,hgrew,rfl⟩ := step_grew h.aged hok hstep
  exact hgrew.keeps h.aged hsb hsb' huid ha.1

instance (l : Lagged) (a : Action) : Decidable (Current l a) := by
  unfold Current Seen
  induction a using Action.casesOn <;> infer_instance

def oneView (pods : List Pod) (view : Sandbox) : Input :=
  { pods
    recovery := [view]
    views := [view]
    allocOrder := [view]
    allocOutcome := fun _ => .ok
    recycle := fun _ _ => ⟨false,true,false⟩
    releaseOrder := [view]
    releaseOutcome := fun _ => .ok }

def grantedView (version replicas : Nat) : Sandbox :=
  { Sandbox.created "a" 0 replicas with
    version
    alloc := ["p"]
    finalizer := true }

theorem allocation_kept_when_seen_stale :
    ∃ l sb, LaggedRun Current l ∧ l.state.sandboxes.lookup "a" = some sb ∧
      (sb.active "p" ∧ sb.active "q") ∧
      (∀ name sb, l.state.sandboxes.lookup name = some sb → sb.alloc.length ≤ sb.replicas) ∧
      ∀ a l', Current l a → l.step a = some l' → ∀ name sb sb',
        l.state.sandboxes.lookup name = some sb → l'.state.sandboxes.lookup name = some sb' →
        sb'.uid = sb.uid → ∀ pod, sb.active pod → pod ∈ sb'.alloc := by
  obtain ⟨l,hl,sb,hsb,ha⟩ :
      ∃ l ∈ Runs.follow (fun l a => if Current l a then Lagged.step l a else none)
        Lagged.initial [.create "a" 1,.reconcile (oneView [readyPod "p"]
          (Sandbox.created "a" 0 1)),.setReplicas "a" 2,
          .reconcile (oneView [readyPod "p",readyPod "q"] (grantedView 1 1)),
          .reconcile (oneView [readyPod "p",readyPod "q"] (grantedView 2 2))],
        ∃ sb ∈ l.state.sandboxes.lookup "a", sb.active "p" ∧ sb.active "q" := by
    decide
  have hreach : LaggedRun Current l := Runs.Reach.follow_checked (.start rfl) hl
  exact ⟨l,sb,hreach,hsb,ha,allocation_kept_when_seen hreach⟩

theorem allocation_dropped_by_stale_read :
    ∃ l a l' sb sb', LaggedRun (fun _ _ => True) l ∧ l.step a = some l' ∧
      l.state.sandboxes.lookup "a" = some sb ∧ l'.state.sandboxes.lookup "a" = some sb' ∧
      sb'.uid = sb.uid ∧ sb.active "p" ∧ "p" ∉ sb'.alloc := by
  obtain ⟨l,hl,l',hl',sb,hsb,sb',hsb',hkept⟩ :
      ∃ l ∈ Runs.follow Lagged.step Lagged.initial [.create "a" 2,.reconcile (oneView
          [readyPod "p"] (Sandbox.created "a" 0 2))],
        ∃ l' ∈ l.step (.reconcile (oneView [readyPod "p",readyPod "q"] (Sandbox.created "a" 0 2))),
        ∃ sb ∈ l.state.sandboxes.lookup "a", ∃ sb' ∈ l'.state.sandboxes.lookup "a",
          sb'.uid = sb.uid ∧ sb.active "p" ∧ "p" ∉ sb'.alloc := by
    decide
  have hreach : LaggedRun (fun _ _ => True) l := .follow (.start rfl) (fun _ _ _ => trivial) hl
  exact ⟨l,_,l',sb,sb',hreach,hl',hsb,hsb',hkept⟩

end OpenSandbox.Kubernetes.Pool
