import OpenSandbox.Kubernetes.BatchSandbox.TaskRelease

namespace OpenSandbox.Kubernetes.BatchSandbox

open List Option

namespace State

def Candidate (s : State) (pod : Pod) : Prop :=
  pod.name ∈ s.api.alloc ∨ pod.label = s.api.name ∨ pod.name = s.api.name ++ "-0"

def Own (s : State) (pod : Pod) : Prop :=
  if s.api.poolRef ≠ "" then pod.name ∈ s.api.alloc ∧ pod.name ∉ s.api.release
  else pod.owned = true

def AllOwn (s : State) : Prop := ∀ pod ∈ s.pods, s.Candidate pod → s.Own pod

def Capturing (s : State) : Prop := ∃ snap, s.snapshot = some snap ∧ snap.active = true

instance (s : State) (pod : Pod) : Decidable (s.Candidate pod) :=
  inferInstanceAs (Decidable (_ ∨ _))

instance (s : State) (pod : Pod) : Decidable (s.Own pod) := by unfold Own; infer_instance

instance (s : State) : Decidable s.AllOwn := inferInstanceAs (Decidable (∀ _ ∈ _, _ → _))

instance (s : State) : Decidable s.Capturing := by unfold Capturing; infer_instance

end State

variable {s t : State}

theorem sourcePod_candidate {pod : Pod} (h : s.sourcePod = some pod) :
    pod ∈ s.pods ∧ s.Candidate pod := by
  simp only [State.sourcePod,orElse_eq_orElse,orElse_eq_or,or_eq_some_iff] at h
  rcases h with h | ⟨-,h | ⟨-,h⟩⟩
  · obtain ⟨name,hname,hfound⟩ := mem_filterMap.mp (mem_of_find?_eq_some h)
    have heq : pod.name = name := by simpa using find?_some hfound
    exact ⟨mem_of_find?_eq_some hfound,.inl (heq ▸ hname)⟩
  · have hfound := find?_some h
    rw [Bool.and_eq_true,beq_iff_eq] at hfound
    exact ⟨mem_of_find?_eq_some h,.inr (.inl hfound.1)⟩
  · have hfound := find?_some h
    rw [Bool.and_eq_true,beq_iff_eq] at hfound
    exact ⟨mem_of_find?_eq_some h,.inr (.inr hfound.1)⟩

theorem State.Own.listed (hnames : (s.pods.map Pod.name).Nodup) {pod : Pod} (hpod : pod ∈ s.pods)
    (hown : s.Own pod) (order : List String) : pod ∈ listPods s.api s.pods order := by
  rw [mem_listPods]
  unfold State.Own at hown
  split_ifs at hown ⊢ with hpool
  · obtain ⟨found,hfound⟩ := isSome_iff_exists.mp
      (find?_isSome (p := fun p : Pod => decide (p.name = pod.name)).mpr
        ⟨pod,hpod,decide_eq_true rfl⟩)
    have heq : found.name = pod.name := by simpa using find?_some hfound
    obtain rfl := inj_on_of_nodup_map hnames (mem_of_find?_eq_some hfound) hpod heq
    exact ⟨hown,hfound⟩
  · exact ⟨hpod,hown⟩

def OwnSource (s : State) : Action → Prop
  | .run _ => s.pc = .createSnapshot → s.AllOwn
  | .editPool _ => ¬ s.Capturing
  | .poolPod name label _ => s.Capturing →
      name ∉ s.api.alloc ∧ label ≠ s.api.name ∧ name ≠ s.api.name ++ "-0"
  | .allocate name => s.Capturing → name ∉ s.api.release
  | _ => True

instance (s : State) (a : Action) : Decidable (OwnSource s a) := by
  unfold OwnSource
  induction a using Action.casesOn <;> infer_instance

def Pc.waits : Pc → Bool
  | .idle | .addFinalizer | .syncPause _ => true
  | _ => false

structure Sourced (s : State) : Prop where
  staged : s.Staged
  names : (s.pods.map Pod.name).Nodup
  waiting : s.Capturing → s.api.status.phase = .pausing ∧ s.pc.waits = true
  own : s.Capturing → s.AllOwn

theorem createPods_names {b : Sandbox} {template : List Container} {rejected : List String}
    {indexes : List Nat} {made : List Pod} (h : ((s.pods ++ made).map Pod.name).Nodup) :
    ((s.pods ++ (s.createPods b template rejected made indexes).1).map Pod.name).Nodup := by
  induction indexes generalizing made with
  | nil => exact h
  | cons index rest ih =>
    rw [State.createPods]
    split
    · exact h
    dsimp only
    split_ifs with hused
    · exact h
    · refine ih ?_
      rw [← append_assoc,map_append,map_singleton,← concat_eq_append]
      exact h.concat (not_or.mp hused).2

theorem State.Makes.names {input : Input} {b : Sandbox} {made : List Pod}
    (hmade : s.Makes input b made) (h : (s.pods.map Pod.name).Nodup) :
    ((s.pods ++ made).map Pod.name).Nodup := by
  rw [← append_nil s.pods] at h
  obtain rfl | ⟨_,template,done,_,hcreate⟩ := hmade
  · exact h
  · have hnames := @createPods_names s b template input.rejected
      (missingIndexes b (sortedPods b s.pods input.order)) [] h
    rwa [hcreate] at hnames

theorem map_names {g : Pod → Pod} (hg : ∀ pod, (g pod).name = pod.name) (pods : List Pod) :
    (pods.map g).map Pod.name = pods.map Pod.name := by
  rw [List.map_map]
  exact map_congr_left fun pod _ => hg pod

theorem Turn.names {input : Input} (h : Turn s input t) (hs : (s.pods.map Pod.name).Nodup) :
    (t.pods.map Pod.name).Nodup := by
  cases h with
  | scaled _ hmade | unscaled _ hmade => exact hmade.names hs
  | @deletePod b name rest _ =>
    rwa [State.goto,State.deletePod,map_names fun pod => by split <;> rfl]
  | resumePatch =>
    rw [State.goto,State.patchResume]
    split <;> exact hs
  | _ => exact hs

theorem Hop.waits {pc pc' : Pc} (h : Hop s pc pc') (hpc : pc.waits = true) (hcap : s.Capturing)
    (hphase : s.api.status.phase = .pausing) : pc'.waits = true := by
  obtain ⟨snap,hsnap,hactive⟩ := hcap
  have hrunning {found : Snapshot} {phase : SnapshotPhase} (hfound : s.snapshot = some found)
      (hended : found.phase = phase) (hphase : phase = .succeed ∨ phase = .failed) : False := by
    cases hsnap.symm.trans hfound
    rw [Snapshot.active,hended] at hactive
    rcases hphase with rfl | rfl <;> cases hactive
  cases h with
  | stop => rfl
  | start =>
    have hbegins := reconcile_begins s.api
    generalize beginReconcile s.api = pc at hbegins ⊢
    cases hbegins with
    | rest h => obtain rfl | rfl := h <;> rfl
    | sync => rfl
    | resume hresuming => cases hresuming.symm.trans hphase
    | pause hne | reject hne | clear hne | scale _ hne => exact absurd hphase hne
  | syncMissing hnone => cases hnone.symm.trans hsnap
  | syncSucceed hfound hended => exact (hrunning hfound hended (.inl rfl)).elim
  | syncFailed hfound hended => exact (hrunning hfound hended (.inr rfl)).elim
  | _ => cases hpc

theorem Turn.captures {input : Input} (h : Turn s input t) (ht : t.Capturing) :
    s.Capturing ∨ s.pc = .createSnapshot := by
  cases h with
  | createSnapshot hpc => exact .inr hpc
  | pauseDelete | cleanupDelete =>
    obtain ⟨snap,hsnap,hactive⟩ := ht
    obtain ⟨old,hold,rfl⟩ := map_eq_some_iff.mp hsnap
    exact .inl ⟨old,hold,hactive⟩
  | resumePatch =>
    rw [State.Capturing,State.goto,State.patchResume] at ht
    split at ht <;> exact .inl ht
  | _ => exact .inl ht

theorem Turn.waiting {input : Input} (h : Turn s input t) (hs : Sourced s) (hcap : s.Capturing) :
    (t.api.status.phase = .pausing ∧ t.pc.waits = true) ∧ t.AllOwn := by
  obtain ⟨hphase,hwaits⟩ := hs.waiting hcap
  have hown := hs.own hcap
  cases h with
  | hop hop => exact ⟨⟨hphase,hop.waits hwaits hcap hphase⟩,hown⟩
  | addFinalizer => exact ⟨⟨hphase,rfl⟩,hown⟩
  | _ => simp_all [Pc.waits]

theorem Turn.sourced {input : Input} (h : Turn s input t) (hs : Sourced s)
    (hok : s.pc = .createSnapshot → s.AllOwn) : Sourced t := by
  have hnext (ht : t.Capturing) :
      (t.api.status.phase = .pausing ∧ t.pc.waits = true) ∧ t.AllOwn := by
    by_cases hcap : s.Capturing
    · exact h.waiting hs hcap
    have hpc := (h.captures ht).resolve_left hcap
    have hphase := hs.staged.here hpc
    have hown := hok hpc
    cases h with
    | hop hop => exact absurd ht hcap
    | createSnapshot => exact ⟨⟨hphase,rfl⟩,hown⟩
    | _ => simp_all
  exact ⟨h.staged hs.staged,h.names hs.names,fun ht => (hnext ht).1,fun ht => (hnext ht).2⟩

structure Kin (s t : State) : Prop where
  name : t.api.name = s.api.name
  poolRef : t.api.poolRef = s.api.poolRef
  alloc : t.api.alloc = s.api.alloc
  release : t.api.release = s.api.release
  pods : ∀ p' ∈ t.pods, ∃ p ∈ s.pods, p'.name = p.name ∧ p'.label = p.label ∧ p'.owned = p.owned

theorem State.AllOwn.kin (h : s.AllOwn) (hk : Kin s t) : t.AllOwn := by
  intro p' hp' hcandidate
  obtain ⟨p,hp,hname,hlabel,howned⟩ := hk.pods p' hp'
  rw [State.Candidate,hname,hlabel,hk.alloc,hk.name] at hcandidate
  have hown := h p hp hcandidate
  rw [State.Own] at hown ⊢
  rwa [hname,howned,hk.alloc,hk.release,hk.poolRef]

theorem Sourced.kin (h : Sourced s) (hmove : t.Staged) (hnames : (t.pods.map Pod.name).Nodup)
    (hcap : t.Capturing → s.Capturing) (hphase : t.api.status.phase = s.api.status.phase)
    (hpc : s.pc.waits = true → t.pc.waits = true) (hk : Kin s t) : Sourced t :=
  ⟨hmove,hnames,fun ht => ⟨hphase.trans (h.waiting (hcap ht)).1,hpc (h.waiting (hcap ht)).2⟩,
    fun ht => (h.own (hcap ht)).kin hk⟩

theorem kin_same {p : Pod} (hp : p ∈ s.pods) :
    ∃ q ∈ s.pods, p.name = q.name ∧ p.label = q.label ∧ p.owned = q.owned := ⟨p,hp,rfl,rfl,rfl⟩

theorem Sourced.map (h : Sourced s) (chosen : Pod → Prop) [DecidablePred chosen] {g : Pod → Pod}
    (hg : ∀ p, (g p).name = p.name ∧ (g p).label = p.label ∧ (g p).owned = p.owned) :
    Sourced { s with pods := s.pods.map fun p => if chosen p then g p else p } := by
  have hsame (p : Pod) : (if chosen p then g p else p).name = p.name ∧
      (if chosen p then g p else p).label = p.label ∧
      (if chosen p then g p else p).owned = p.owned := by
    split
    · exact hg p
    · exact ⟨rfl,rfl,rfl⟩
  refine h.kin h.staged ?_ id rfl id
    ⟨rfl,rfl,rfl,rfl,forall_mem_map.mpr fun p hp => ⟨p,hp,hsame p⟩⟩
  rw [map_names fun p => (hsame p).1]
  exact h.names

theorem Move.sourced {a : Action} (h : Move s a t) (hs : Sourced s) (hok : OwnSource s a) :
    Sourced t := by
  have hstaged := h.staged hs.staged
  cases h with
  | turn hturn => exact hturn.sourced hs hok
  | fail =>
    refine hs.kin hstaged hs.names id rfl (fun hwaits => ?_)
      ⟨rfl,rfl,rfl,rfl,fun _ => kin_same⟩
    change (onFailure s.pc).waits = true
    revert hwaits
    cases s.pc with
    | idle | addFinalizer | syncPause => exact fun _ => rfl
    | _ => exact nofun
  | restart =>
    exact hs.kin hstaged hs.names id rfl (fun _ => rfl) ⟨rfl,rfl,rfl,rfl,fun _ => kin_same⟩
  | editPause | editOther | editTemplate | deleteSandbox =>
    exact hs.kin hstaged hs.names id rfl id ⟨rfl,rfl,rfl,rfl,fun _ => kin_same⟩
  | editPool => exact ⟨hstaged,hs.names,fun ht => absurd ht hok,fun ht => absurd ht hok⟩
  | resolveSnapshot hsnap hactive _ =>
    exact hs.kin hstaged hs.names (fun _ => ⟨_,hsnap,hactive⟩) rfl id
      ⟨rfl,rfl,rfl,rfl,fun _ => kin_same⟩
  | commitSucceed | commitFail | snapshotGone =>
    refine ⟨hstaged,hs.names,?_,?_⟩ <;> rintro ⟨snap,hsnap,hactive⟩ <;> cases hsnap <;>
      cases hactive
  | podReport | poolDelete => exact hs.map _ fun _ => ⟨rfl,rfl,rfl⟩
  | podGone =>
    exact hs.kin hstaged (hs.names.sublist (filter_sublist.map _)) id rfl id
      ⟨rfl,rfl,rfl,rfl,fun _ hp => kin_same (mem_filter.mp hp).1⟩
  | @poolPod name label containers hfree =>
    refine ⟨hstaged,?_,hs.waiting,fun ht => ?_⟩
    · rw [map_append,map_singleton,← concat_eq_append]
      refine hs.names.concat fun hmem => ?_
      obtain ⟨pod,hpod,hname⟩ := mem_map.mp hmem
      exact any_eq_false.mp hfree pod hpod (beq_iff_eq.mpr hname)
    · obtain ⟨halloc,hlabel,hname⟩ := hok ht
      refine forall_mem_append.mpr ⟨hs.own ht,forall_mem_singleton.mpr ?_⟩
      rintro (hin | hin | hin)
      · exact absurd hin halloc
      · exact absurd hin hlabel
      · exact absurd hin hname
  | @allocate name hpool _ _ =>
    refine ⟨hstaged,hs.names,hs.waiting,fun ht pod hpod hcandidate => ?_⟩
    have hown (hold : s.Candidate pod) : pod.name ∈ s.api.alloc ∧ pod.name ∉ s.api.release := by
      have h := hs.own ht pod hpod hold
      rwa [State.Own,if_pos hpool] at h
    refine (if_pos hpool).mpr ?_
    rcases hcandidate with hin | hin
    · rcases mem_append.mp hin with hin | hin
      · exact ⟨mem_append_left _ hin,(hown (.inl hin)).2⟩
      · obtain rfl := mem_singleton.mp hin
        exact ⟨mem_append_right _ mem_cons_self,hok ht⟩
    · exact ⟨mem_append_left _ (hown (.inr hin)).1,(hown (.inr hin)).2⟩

theorem created_sourced (h : Created s) : Sourced s := by
  have hnone : ¬ s.Capturing := by
    rintro ⟨snap,hsnap,_⟩
    cases h.snapshot.symm.trans hsnap
  refine ⟨?_,h.names,fun hcap => absurd hcap hnone,fun hcap => absurd hcap hnone⟩
  rw [State.Staged,h.pc]
  trivial

theorem Reachable.sourced (h : Reachable OwnSource s) : Sourced s :=
  h.invariant Sourced (fun _ hs => created_sourced hs)
    (fun _ _ _ hs hok hmove => hmove.sourced hs hok) fun _ hs =>
      ⟨hs.staged,hs.names,hs.waiting,hs.own⟩

theorem source_pod_listed {s : State} (h : Reachable OwnSource s) (hcap : s.Capturing) {pod : Pod}
    (hsource : s.sourcePod = some pod) (order : List String) :
    pod ∈ listPods s.api s.pods order := by
  obtain ⟨hpod,hcandidate⟩ := sourcePod_candidate hsource
  exact (h.sourced.own hcap pod hpod hcandidate).listed h.sourced.names hpod order

def pausedAgain (recycled : List Action) : List Action :=
  .editOther (some 1) [] .retain false :: .allocate "pool-a" :: turns 9 ++
    .editPause (some true) :: turns 6 ++ .resolveSnapshot :: .commitSucceed none :: turns 8 ++
    recycled ++ .editPause (some false) :: turns 10 ++
    .podReport 2 ⟨true,"10.0.0.2",true,true,[]⟩ :: turns 19 ++
    .snapshotGone :: .editPause (some true) :: turns 5

theorem source_pod_listed_again :
    ∃ s, Reachable OwnSource s ∧ s.Capturing ∧ s.api.alloc = ["pool-a"] ∧
      ∃ pod, s.sourcePod = some pod ∧ pod.name = "sb-0" ∧ pod ∈ listPods s.api s.pods [] := by
  obtain ⟨s,hs,hcap,halloc,pod,hpod,hname⟩ :
      ∃ s ∈ Runs.follow (fun s a => if OwnSource s a then s.step a else none)
        (pooledSandbox .retain) (pausedAgain [.poolDelete "pool-a",.podGone 0]),
        s.Capturing ∧ s.api.alloc = ["pool-a"] ∧ ∃ pod ∈ s.sourcePod, pod.name = "sb-0" := by
    decide
  have hreach : Reachable OwnSource s :=
    Runs.Reach.follow_checked (.start (pooledSandbox_created _)) hs
  exact ⟨s,hreach,hcap,halloc,pod,hpod,hname,source_pod_listed hreach hcap hpod []⟩

theorem second_pause_reads_pool_pod :
    ∃ s, Reachable (fun _ _ => True) s ∧ s.Capturing ∧
      ∃ pod, s.sourcePod = some pod ∧ ∀ order, pod ∉ listPods s.api s.pods order := by
  obtain ⟨s,hs,hcap,hpool,pod,hpod,howned⟩ :
      ∃ s ∈ Runs.follow State.step (pooledSandbox .retain) (pausedAgain []),
        s.Capturing ∧ s.api.poolRef = "" ∧ ∃ pod ∈ s.sourcePod, pod.owned = false := by
    decide
  refine ⟨s,.follow (.start (pooledSandbox_created _)) (fun _ _ _ => trivial) hs,hcap,pod,hpod,
    fun order => ?_⟩
  rw [mem_listPods,if_neg (not_not.mpr hpool),howned]
  exact fun h => nomatch h.2

end OpenSandbox.Kubernetes.BatchSandbox
