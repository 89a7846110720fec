import OpenSandbox.Kubernetes.BatchSandbox.Custody

namespace OpenSandbox.Kubernetes.BatchSandbox

open List Option

def State.core (s : State) : Core :=
  { fleet := ⟨s.api.poolRef,s.api.template,s.api.replicas,s.api.alloc,s.pods,s.nextUid⟩
    phase := s.api.status.phase
    snapshot := s.snapshot
    history := s.history
    lineage := s.lineage }

variable {s : State}

theorem mem_ownPods {p : Pod} : p ∈ s.ownPods ↔ p ∈ s.pods ∧ s.core.fleet.Own p := by
  rw [State.ownPods]
  split_ifs with hpool
  · have hpool' : s.core.fleet.poolRef ≠ "" := hpool
    rw [Pooled.own hpool',mem_filter,contains_iff_mem]
    rfl
  · have hpool' : s.core.fleet.poolRef = "" := not_not.mp hpool
    rw [Plain.own hpool',mem_filter]

structure Copies (c : Core) (b : Sandbox) : Prop where
  poolRef : b.poolRef = c.fleet.poolRef
  template : b.template = c.fleet.template
  replicas : b.replicas = some 1
  alloc : ∀ name ∈ b.alloc, name ∈ c.fleet.alloc

def Ended (c : Core) (phase : SnapshotPhase) : Prop :=
  c.phase = .pausing ∧ ∃ snap, c.snapshot = some snap ∧ snap.phase = phase

structure Settled (c : Core) (b : Sandbox) : Prop extends Copies c b where
  phase : c.phase ≠ .pausing
  own : b.status.phase ≠ .pausing
  restores : b.status.phase ≠ .paused → c.Restores

structure Resumes (c : Core) (b : Sandbox) : Prop extends Copies c b where
  phase : c.phase = .resuming
  own : b.status.phase = .resuming

structure ViewOk (c : Core) (view : RuntimeView) : Prop where
  phase : c.phase ≠ .pausing
  pausing : view.status.phase ≠ .pausing
  set : view.status.phase ≠ .unset
  restores : view.status.phase ≠ .paused → c.Restores
  alive : view.status.phase = .succeed → c.Alive

def PcKept (c : Core) : Pc → Prop
  | .pauseReject _ _ => False
  | .pauseCheck _ | .pauseDelete => c.phase ≠ .pausing
  | .pauseClear _ _ | .pauseAck _ _ => c.snapshot = none
  | .stopTasks _ | .createSnapshot => c.phase = .pausing
  | .resumeClear _ | .resumeAck _ => c.phase ≠ .pausing
  | .syncPause b => Copies c b ∧ c.phase = .pausing
  | .pauseFind _ _ => Ended c .failed
  | .pauseFailed _ phase _ => Ended c .failed ∧ phase ≠ .pausing
  | .complete b => Copies c b ∧ Ended c .succeed
  | .detach _ t => c.fleet.poolRef ≠ "" ∧ t ≠ [] ∧ c.phase = .pausing ∧
      ∃ snap, c.snapshot = some snap ∧ snap.phase = .succeed ∧ ∀ x ∈ t, x.name ∈ snap.containers
  | .deletePods _ names => c.fleet.poolRef = "" ∧ Ended c .succeed ∧
      ∀ p ∈ c.fleet.pods, c.fleet.Own p → p.deleting = false → p.name ∈ names
  | .finishPause _ => c.fleet.poolRef = "" ∧ Ended c .succeed ∧
      ∀ p ∈ c.fleet.pods, c.fleet.Own p → p.deleting = true
  | .continueResume b => Resumes c b
  | .resumeProbe b | .resumeReady b => Resumes c b ∧ c.snapshot = none
  | .resumeReadyClear b | .podFailedClear b => Settled c b
  | .rollback b _ => Resumes c b
  | .rollbackReport b _ => Settled c b
  | .resumePatch b uid names => Resumes c b ∧ c.fleet.poolRef = "" ∧
      ∀ snap, c.snapshot = some snap → snap.phase = .succeed → snap.deleting = false →
        snap.uid = uid ∧ snap.containers = names
  | .scale b => Settled c b
  | .runTasks _ _ view | .releasePods _ view _ _ | .cleanupTasks _ view _ | .patchEndpoints _ view
  | .persist _ view => ViewOk c view
  | .cleanup | .cleanupDelete => c.phase ≠ .pausing ∧ c.Alive
  | _ => True

structure Later (c c' : Core) : Prop where
  poolRef : c'.fleet.poolRef = c.fleet.poolRef
  template : c'.fleet.template = c.fleet.template
  alloc : ∀ name ∈ c.fleet.alloc, name ∈ c'.fleet.alloc
  phase : c'.phase = c.phase
  none : c.snapshot = none → c'.snapshot = none
  ended : c.phase = .pausing → ∀ snap, c.snapshot = some snap →
    snap.phase = .succeed ∨ snap.phase = .failed → c'.snapshot = some snap
  back : c.phase ≠ .pausing → ∀ snap, c'.snapshot = some snap → c.snapshot = some snap
  alive : c.Alive → c'.Alive
  pods : c.fleet.poolRef = "" → ∀ p' ∈ c'.fleet.pods, c'.fleet.Own p' →
    ∃ p ∈ c.fleet.pods, c.fleet.Own p ∧ p'.name = p.name ∧
      (p'.deleting = false → p.deleting = false)

variable {c c' : Core} {b : Sandbox}

theorem Copies.later (h : Copies c b) (hl : Later c c') : Copies c' b :=
  ⟨h.poolRef.trans hl.poolRef.symm,h.template.trans hl.template.symm,h.replicas,
    fun name hname => hl.alloc name (h.alloc name hname)⟩

theorem Ended.later {phase : SnapshotPhase} (h : Ended c phase)
    (hphase : phase = .succeed ∨ phase = .failed) (hl : Later c c') : Ended c' phase := by
  obtain ⟨hpausing,snap,hsnap,hsame⟩ := h
  exact ⟨hl.phase.trans hpausing,snap,hl.ended hpausing snap hsnap (hsame ▸ hphase),hsame⟩

theorem Core.Restores.later (h : c.Restores) (hphase : c.phase ≠ .pausing) (hl : Later c c') :
    c'.Restores := by
  intro snap hsnap hsucceed hdel
  rw [hl.template]
  exact h snap (hl.back hphase snap hsnap) hsucceed hdel

theorem Settled.later (h : Settled c b) (hl : Later c c') : Settled c' b :=
  ⟨h.toCopies.later hl,hl.phase.symm ▸ h.phase,h.own,fun hp => (h.restores hp).later h.phase hl⟩

theorem Resumes.later (h : Resumes c b) (hl : Later c c') : Resumes c' b :=
  ⟨h.toCopies.later hl,hl.phase.trans h.phase,h.own⟩

theorem Resumes.steady (h : Resumes c b) : c.phase ≠ .pausing := by
  rw [h.phase]
  decide

variable {view : RuntimeView}

theorem ViewOk.later (h : ViewOk c view) (hl : Later c c') : ViewOk c' view :=
  ⟨hl.phase.symm ▸ h.phase,h.pausing,h.set,fun hp => (h.restores hp).later h.phase hl,
    fun hp => hl.alive (h.alive hp)⟩

variable {pc : Pc}

theorem PcKept.later (h : PcKept c pc) (hl : Later c c') : PcKept c' pc := by
  have hsteady (hp : c.phase ≠ .pausing) : c'.phase ≠ .pausing := hl.phase.symm ▸ hp
  have hpausing (hp : c.phase = .pausing) : c'.phase = .pausing := hl.phase.trans hp
  cases pc with
  | pauseReject b phase => exact h
  | pauseCheck | pauseDelete | resumeClear | resumeAck => exact hsteady h
  | pauseClear b found | pauseAck b found => exact hl.none h
  | stopTasks b | createSnapshot => exact hpausing h
  | syncPause b => exact ⟨h.1.later hl,hpausing h.2⟩
  | pauseFind b message => exact Ended.later h (.inr rfl) hl
  | pauseFailed b phase report => exact ⟨h.1.later (.inr rfl) hl,h.2⟩
  | complete b => exact ⟨h.1.later hl,h.2.later (.inl rfl) hl⟩
  | detach b t =>
    obtain ⟨hpool,ht,hphase,snap,hsnap,hsucceed,hnames⟩ := h
    exact ⟨hl.poolRef.symm ▸ hpool,ht,hpausing hphase,snap,
      hl.ended hphase snap hsnap (.inl hsucceed),hsucceed,hnames⟩
  | deletePods b names =>
    obtain ⟨hpool,hended,hnames⟩ := h
    refine ⟨hl.poolRef.trans hpool,hended.later (.inl rfl) hl,fun p' hp' hown hlive => ?_⟩
    obtain ⟨p,hp,hownp,hname,hdel⟩ := hl.pods hpool p' hp' hown
    rw [hname]
    exact hnames p hp hownp (hdel hlive)
  | finishPause b =>
    obtain ⟨hpool,hended,hgone⟩ := h
    refine ⟨hl.poolRef.trans hpool,hended.later (.inl rfl) hl,fun p' hp' hown => ?_⟩
    obtain ⟨p,hp,hownp,_,hdel⟩ := hl.pods hpool p' hp' hown
    by_contra hlive
    cases (hgone p hp hownp).symm.trans (hdel (Bool.eq_false_iff.mpr hlive))
  | continueResume | rollback => exact Resumes.later h hl
  | resumeProbe b | resumeReady b => exact ⟨h.1.later hl,hl.none h.2⟩
  | resumeReadyClear | podFailedClear | rollbackReport | scale => exact Settled.later h hl
  | resumePatch b uid names =>
    obtain ⟨hres,hpool,hsame⟩ := h
    exact ⟨hres.later hl,hl.poolRef.trans hpool,
      fun snap hsnap => hsame snap (hl.back hres.steady snap hsnap)⟩
  | runTasks | releasePods | cleanupTasks | patchEndpoints | persist => exact ViewOk.later h hl
  | cleanup | cleanupDelete => exact ⟨hsteady h.1,hl.alive h.2⟩
  | idle | addFinalizer | pauseReport report => trivial

theorem runtime_paused (pods : List Pod) (h : b.status.phase = .paused) :
    (acknowledgeView b (buildRuntimeView b pods)).status.phase = .paused := by
  have hbuilt : (buildRuntimeView b pods).status.phase = .paused := by
    change (applyRuntimePhase b (countPods b pods) pods).phase = .paused
    rwa [applyRuntimePhase,h]
  rw [acknowledgeView]
  split <;> exact hbuilt

theorem runtime_succeed {pods : List Pod} (h : b.status.phase ≠ .pausing)
    (hs : (acknowledgeView b (buildRuntimeView b pods)).status.phase = .succeed) :
    ∃ pod ∈ pods, pod.deleting = false ∧ pod.isPodReady = true := by
  have hbuilt : (applyRuntimePhase b (countPods b pods) pods).phase = .succeed := by
    rw [acknowledgeView] at hs
    split at hs <;> exact hs
  have hready : 0 < (countPods b pods).ready := by
    rcases (runtime_steered pods h).phase with hp | ⟨-,hready⟩ | hp | hp | ⟨hp,-⟩
    · cases hp.symm.trans hbuilt
    · exact hready
    all_goals cases hp.symm.trans hbuilt
  obtain ⟨pod,hpod,hcond⟩ := countP_pos_iff.mp hready
  rw [Bool.and_eq_true] at hcond
  exact ⟨pod,hpod,Bool.eq_false_of_not_eq_true' hcond.1,hcond.2⟩

theorem listPods_own (hcopy : Copies s.core b) {order : List String} {p : Pod}
    (hp : p ∈ listPods b s.pods order) : p ∈ s.pods ∧ s.core.fleet.Own p := by
  rw [mem_listPods] at hp
  split_ifs at hp with hpool
  · obtain ⟨⟨halloc,_⟩,hfind⟩ := hp
    have hpool' : s.core.fleet.poolRef ≠ "" := hcopy.poolRef ▸ hpool
    exact ⟨mem_of_find?_eq_some hfind,(Pooled.own hpool').mpr (hcopy.alloc _ halloc)⟩
  · have hpool' : s.core.fleet.poolRef = "" := hcopy.poolRef ▸ not_not.mp hpool
    exact ⟨hp.1,(Plain.own hpool').mpr hp.2⟩

theorem Settled.viewed (h : Settled s.core b) (hk : Custody s.core) (order : List String) :
    ViewOk s.core (acknowledgeView b (buildRuntimeView b (sortedPods b s.pods order))) := by
  have hview := acknowledged_viewed (sortedPods b s.pods order) h.own
  refine ⟨h.phase,hview.pausing,hview.set,fun hp => ?_,fun hs => ?_⟩
  · exact h.restores fun hpaused => hp (runtime_paused _ hpaused)
  obtain ⟨pod,hpod,hdel,hready⟩ := runtime_succeed h.own hs
  obtain ⟨hmem,hown⟩ := listPods_own h.toCopies (mem_sortedPods.mp hpod)
  rw [Pod.isPodReady,Bool.and_eq_true] at hready
  exact ⟨pod,hmem,hown,hdel,(hk.fleet.sane pod hmem).1 hready.1⟩

theorem afterScale_kept {pods : List Pod}
    (h : ViewOk c (acknowledgeView b (buildRuntimeView b pods))) :
    PcKept c (afterScale b pods) := by
  rw [afterScale]
  split <;> exact h

theorem begin_kept (hk : Custody s.core) : PcKept s.core (beginReconcile s.api) := by
  have hcopy : Copies s.core s.api := ⟨rfl,rfl,hk.fleet.single,fun _ h => h⟩
  have h := reconcile_begins s.api
  generalize beginReconcile s.api = pc at h ⊢
  cases h with
  | rest h => obtain rfl | rfl := h <;> trivial
  | resume hresuming => exact ⟨hcopy,hresuming,hresuming⟩
  | sync hpausing => exact ⟨hcopy,hpausing⟩
  | pause hpausing | clear hpausing => exact hpausing
  | reject _ hmany => exact absurd hcopy.replicas hmany
  | scale hresuming hpausing =>
    exact ⟨hcopy,hpausing,hpausing,fun hpaused => hk.template hpausing hpaused hresuming⟩

theorem ensureSnapshot_kept (b : Sandbox) (h : c.phase = .pausing) :
    PcKept c (ensureSnapshot b) := by
  rw [ensureSnapshot]
  split <;> exact h

theorem afterPersist_kept (h : c.phase ≠ .pausing)
    (halive : view.status.phase = .succeed → c.Alive) : PcKept c (State.afterPersist view) := by
  rw [State.afterPersist]
  split_ifs with hsucceed
  · exact ⟨h,halive hsucceed⟩
  · trivial

theorem Hop.kept {pc' : Pc} (hop : Hop s pc pc') (hk : Custody s.core) (h : PcKept s.core pc) :
    PcKept s.core pc' := by
  cases hop with
  | stop _ => trivial
  | start => exact begin_kept hk
  | pauseAbsent hnone => exact hnone
  | pauseStale | unusable | ready | stale | skipped => exact h
  | pauseFound hsnap _ hactive =>
    rw [not_or] at hactive
    exact absurd ((hk.shot _ hsnap).active hactive.2 hactive.1) h
  | @syncMissing b _ => exact ensureSnapshot_kept b h.2
  | syncSucceed hsnap hphase => exact ⟨h.1,h.2,_,hsnap,hphase⟩
  | syncFailed hsnap hphase => exact ⟨h.2,_,hsnap,hphase⟩
  | found hphase =>
    refine ⟨h,fun hp => ?_⟩
    rw [hp] at hphase
    rcases hphase with hp | hp <;> cases hp
  | @pooled b order pod rest hpool hlist =>
    obtain ⟨hcopy,hphase,snap,hsnap,hsucceed⟩ := h
    have hmem : pod ∈ listPods b s.pods order := by
      rw [hlist]
      exact mem_cons_self
    obtain ⟨hpod,hown⟩ := listPods_own hcopy hmem
    have hpool' : s.core.fleet.poolRef ≠ "" := hcopy.poolRef ▸ hpool
    have hnamed := ((hk.shot snap hsnap).named (.inr hsucceed)).2 hpool'
    exact ⟨hpool',(hk.fleet.sane pod hpod).2,hphase,snap,hsnap,hsucceed,hnamed.2 pod hpod hown⟩
  | deleted =>
    obtain ⟨hpool,hended,hnames⟩ := h
    refine ⟨hpool,hended,fun p hp hown => ?_⟩
    by_contra hlive
    exact absurd (hnames p hp hown (Bool.eq_false_iff.mpr hlive)) not_mem_nil
  | probe hnone => exact ⟨h,hnone⟩
  | @usable b snap hsnap hsucceed =>
    have hres : Resumes s.core b := h
    refine ⟨hres,?_,fun found hfound _ _ => ?_⟩
    · by_contra hpool
      have hphase := (hk.shot snap hsnap).attached hpool hsucceed
      cases hres.phase.symm.trans hphase
    · cases hsnap.symm.trans hfound
      exact ⟨rfl,rfl⟩
  | unready => exact h.1
  | counted =>
    have hview : ViewOk s.core _ := h
    exact { hview with }
  | unchanged _ => exact afterPersist_kept h.phase h.alive

theorem missing_single (pods : List Pod) (h : b.replicas = some 1) :
    missingIndexes b pods = [] ∨ missingIndexes b pods = [0] ∧ ∀ p ∈ pods, p.index ≠ 0 := by
  rw [missingIndexes,h]
  by_cases hany : (pods.any fun pod => pod.index == 0) = true
  · refine .inl (filter_eq_nil_iff.mpr fun i hi => ?_)
    have hzero : i = 0 := Nat.lt_one_iff.mp (mem_range.mp hi)
    rw [hzero,hany]
    decide
  · rw [Bool.not_eq_true] at hany
    refine .inr ⟨?_,fun p hp hindex => ?_⟩
    · change [0].filter _ = [0]
      rw [filter_cons_of_pos (by rw [hany]; rfl),filter_nil]
    · have hfalse := any_eq_false.mp hany p hp
      exact hfalse (beq_iff_eq.mpr hindex)

theorem createPods_single (s : State) (b : Sandbox) (t : List Container) (rejected : List String) :
    (s.createPods b t rejected [] [0]).1 = [] ∨ ∃ containers, s.patched b t 0 = some containers ∧
      (s.createPods b t rejected [] [0]).1 = [newPod b containers s.nextUid 0] := by
  rw [State.createPods]
  split
  · exact .inl rfl
  dsimp only
  split
  · exact .inl rfl
  · exact .inr ⟨_,‹_›,rfl⟩

def State.PatchKeeps (s : State) (b : Sandbox) : Prop :=
  ∀ t, b.template = some t → ∀ containers, s.patched b t 0 = some containers →
    containers ≠ [] ∧ restoredFrom containers = restoredFrom t

theorem Settled.joins {t containers : List Container} {order : List String}
    (h : Settled s.core b) (hk : Custody s.core) (hneeded : scaleNeeded b = true)
    (ht : b.template = some t) (hkeep : containers ≠ [] ∧ restoredFrom containers = restoredFrom t)
    (hmissing : ∀ p ∈ sortedPods b s.pods order, p.index ≠ 0) :
    Joins s.core (newPod b containers s.nextUid 0) := by
  rw [scaleNeeded,Bool.and_eq_true,beq_iff_eq,bne_iff_ne] at hneeded
  obtain ⟨hpool,hpaused⟩ := hneeded
  have hpool' : s.core.fleet.poolRef = "" := h.poolRef ▸ hpool
  have htemplate : s.core.fleet.template = some t := h.template.symm.trans ht
  refine ⟨rfl,⟨nofun,hkeep.1⟩,absurd hpool',fun _ _ => ⟨rfl,?_⟩,
    fun _ p hp hown => ?_,fun _ => ⟨hpool',h.phase⟩,fun _ snap hsnap hsucceed hdel => ?_⟩
  · rw [htemplate]
    exact nofun
  · have howned := (Plain.own hpool').mp hown
    refine hmissing p ?_ ((hk.fleet.plain hpool').index p hp howned).1
    rw [mem_sortedPods,mem_listPods,if_neg (not_not.mpr hpool)]
    exact ⟨hp,howned⟩
  · obtain ⟨t',ht',hrestored⟩ := h.restores hpaused snap hsnap hsucceed hdel
    cases htemplate.symm.trans ht'
    exact hkeep.2.trans hrestored

theorem Settled.grows {input : Input} {made : List Pod} (h : Settled s.core b)
    (hk : Custody s.core) (hmade : s.Makes input b made) (hkeep : s.PatchKeeps b) :
    made = [] ∨ ∃ q, made = [q] ∧ Joins s.core q := by
  obtain rfl | ⟨hneeded,t,done,ht,hcreate⟩ := hmade
  · exact .inl rfl
  obtain rfl : (s.createPods b t input.rejected []
    (missingIndexes b (sortedPods b s.pods input.order))).1 = made := congrArg Prod.fst hcreate
  rcases missing_single (sortedPods b s.pods input.order) h.replicas with hnil | ⟨hone,hmissing⟩
  · rw [hnil]
    exact .inl rfl
  rw [hone]
  refine (createPods_single s b t input.rejected).imp id ?_
  rintro ⟨containers,hpatch,heq⟩
  exact ⟨_,heq,h.joins hk hneeded ht (hkeep t ht containers hpatch) hmissing⟩

theorem ViewOk.append (h : ViewOk c view) (q : Pod) : ViewOk (c.append q) view := by
  refine { h with alive := fun hs => ?_ }
  obtain ⟨p,hp,hown,hdel,hstarted⟩ := h.alive hs
  exact ⟨p,mem_append_left _ hp,hown,hdel,hstarted⟩

variable {g : Pod → Pod}

theorem Preserves.ite (hg : Preserves g) (chosen : Pod → Prop) [DecidablePred chosen] :
    Preserves fun pod => if chosen pod then g pod else pod := by
  constructor <;> intro p <;> split_ifs
  exacts [hg.uid p,rfl,hg.name p,rfl,hg.owned p,rfl,hg.index p,rfl,hg.containers p,rfl,
    hg.started p,id,hg.running p,id,hg.deleting p,id]

theorem delete_preserves : Preserves fun pod => { pod with deleting := true } :=
  ⟨fun _ => rfl,fun _ => rfl,fun _ => rfl,fun _ => rfl,fun _ => rfl,fun _ h => h,
    fun _ h => h,fun _ h => nomatch h⟩

theorem from_map (pods : List Pod) : From g pods (pods.map g) :=
  forall_mem_map.mpr fun p hp => ⟨p,hp,rfl⟩

theorem Copies.acked (h : Copies c b) (phase : Phase) : Copies c (acked b phase) := { h with }

theorem Copies.rephase (h : Copies c b) (phase : Phase) : Copies (c.rephase phase) b := { h with }

def Kept (s : State) : Prop := Custody s.core ∧ PcKept s.core s.pc

theorem Kept.here (h : Kept s) (hpc : s.pc = pc) : PcKept s.core pc := hpc ▸ h.2

theorem ViewOk.patched {s t : State} {latest : Sandbox} {view : RuntimeView}
    (h : ViewOk s.core view) (hk : Custody s.core)
    (ht : t.core = s.core.rephase (s.api.status.mergePatch (mergedStatus latest view)).phase)
    (hpc : t.pc = State.afterPersist view) : Kept t := by
  rw [merged_phase s.api.status latest h.set] at ht
  rw [Kept,ht,hpc]
  exact ⟨hk.rephase h.phase h.pausing fun hp _ => h.restores hp,afterPersist_kept h.pausing h.alive⟩

theorem restores_of_none (h : c.snapshot = none) : c.Restores := by
  intro snap hsnap
  cases h.symm.trans hsnap

variable {t : State}

theorem Turn.kept {input : Input} (hturn : Turn s input t) (h : Kept s)
    (hok : s.pc = .pauseDelete → ∀ snap, s.snapshot = some snap → snap.phase = .succeed →
      s.core.Alive) (hkeep : ∀ b, s.pc = .scale b → s.PatchKeeps b) : Kept t := by
  have hk := h.1
  cases hturn with
  | hop hop => exact ⟨hk,hop.kept hk h.2⟩
  | addFinalizer | report => exact ⟨hk,trivial⟩
  | reject hpc => exact (h.here hpc).elim
  | pauseDelete hpc =>
    have hphase : s.core.phase ≠ .pausing := h.here hpc
    exact ⟨hk.dropSnapshot hphase (hok hpc),trivial⟩
  | pauseClear hpc | resumeClear hpc | resumeReadyClear hpc | podFailedClear hpc
  | rollbackReport hpc | releasePods hpc | cleanupTasks hpc | dropFinalizer hpc
  | patchEndpoints hpc =>
    have hnext := h.here hpc
    exact ⟨hk,hnext⟩
  | pauseAck hpc hnext =>
    have hnone : s.core.snapshot = none := h.here hpc
    refine ⟨hk.beginPause hnone,?_⟩
    rcases hnext with rfl | ⟨_,rfl⟩
    · trivial
    · exact ensureSnapshot_kept _ rfl
  | stopTasks hpc _ _ hnext =>
    have hphase : s.core.phase = .pausing := h.here hpc
    refine ⟨hk,?_⟩
    rcases hnext with rfl | rfl
    · exact hphase
    · trivial
  | createSnapshot hpc hnone =>
    exact ⟨hk.beginSnapshot hnone (h.here hpc) rfl rfl,trivial⟩
  | resumeAck hpc =>
    have hphase : s.core.phase ≠ .pausing := h.here hpc
    exact ⟨hk.rephase hphase nofun fun _ hne => absurd rfl hne,trivial⟩
  | pauseFailed hpc =>
    obtain ⟨⟨_,snap,hsnap,hfailed⟩,hnew⟩ := h.here hpc
    exact ⟨hk.failPause hsnap hfailed hnew,trivial⟩
  | detach hpc =>
    obtain ⟨hpool,ht,hphase,snap,hsnap,hsucceed,hnames⟩ := h.here hpc
    refine ⟨hk.detach hsnap hsucceed hphase hpool ht hnames,rfl,⟨hphase,snap,hsnap,hsucceed⟩,
      fun p hp hown => ?_⟩
    have howned : p.owned = true := (Plain.own rfl).mp hown
    cases ((hk.fleet.pooled hpool).unowned p hp).symm.trans howned
  | @unpooled b hpc hpool =>
    obtain ⟨hcopy,hended⟩ : Copies s.core b ∧ Ended s.core .succeed := h.here hpc
    have hpool' : s.core.fleet.poolRef = "" := hcopy.poolRef ▸ hpool
    refine ⟨hk,hpool',hended,fun p hp hown _ => mem_map_of_mem ?_⟩
    rw [mem_listPods,if_neg (not_not.mpr hpool)]
    exact ⟨hp,(Plain.own hpool').mp hown⟩
  | @deletePod b name rest hpc =>
    obtain ⟨hpool,⟨hphase,snap,hsnap,hsucceed⟩,hnames⟩ := h.here hpc
    refine ⟨hk.deletePods hsnap hsucceed hphase hpool
      (delete_preserves.ite (·.name = name)) (from_map _),
      hpool,⟨hphase,snap,hsnap,hsucceed⟩,fun p' hp' hown hlive => ?_⟩
    obtain ⟨p,hp,rfl⟩ := mem_map.mp hp'
    by_cases hname : p.name = name
    · rw [if_pos hname] at hlive
      cases hlive
    · rw [if_neg hname] at hown hlive ⊢
      have hmem := hnames p hp hown hlive
      exact (mem_cons.mp hmem).resolve_left hname
  | finishPause hpc =>
    obtain ⟨hpool,⟨hphase,snap,hsnap,hsucceed⟩,hgone⟩ := h.here hpc
    exact ⟨hk.finishPause hsnap hsucceed hphase hpool hgone,trivial⟩
  | @resumeReady b hpc =>
    obtain ⟨hres,hnone⟩ : Resumes s.core b ∧ s.core.snapshot = none := h.here hpc
    have hrestores := restores_of_none hnone
    exact ⟨hk.rephase hres.steady nofun fun _ _ => hrestores,
      (hres.toCopies.acked .succeed).rephase .succeed,nofun,nofun,fun _ => hrestores⟩
  | @rollback b report hpc =>
    have hres : Resumes s.core b := h.here hpc
    exact ⟨hk.rephase hres.steady nofun fun hne => absurd rfl hne,
      (hres.toCopies.acked .paused).rephase .paused,nofun,nofun,absurd rfl⟩
  | @resumePatch b uid names hpc =>
    obtain ⟨hres,hpool,hsame⟩ : Resumes s.core b ∧ s.core.fleet.poolRef = "" ∧
        ∀ snap, s.core.snapshot = some snap → snap.phase = .succeed → snap.deleting = false →
          snap.uid = uid ∧ snap.containers = names := h.here hpc
    have hcore : (s.patchResume uid names).core = s.core.restore uid names := by
      rw [State.patchResume]
      split_ifs with heq
      · have htemplate : s.api.template.map (replaceImages uid names) = s.api.template :=
          congrArg Sandbox.template heq
        have hpool' : s.api.poolRef = "" := hpool
        simp only [State.core,Core.restore,htemplate,hpool']
      · rfl
    have hnext := hk.restore hpool hres.phase uid names
    have hrestores := hk.restores hpool hsame
    rw [← hcore] at hnext hrestores
    have hphase : (s.patchResume uid names).core.phase = .resuming := by
      rw [hcore]
      exact hres.phase
    refine ⟨hnext,⟨rfl,rfl,hnext.fleet.single,fun _ hn => hn⟩,?_,?_,fun _ => hrestores⟩
    · change (s.patchResume uid names).core.phase ≠ .pausing
      rw [hphase]
      decide
    · change b.status.phase ≠ .pausing
      rw [hres.own]
      decide
  | @scaled b made creating hpc hmade =>
    have hsettled : Settled s.core b := h.here hpc
    have hview := hsettled.viewed hk input.order
    rcases hsettled.grows hk hmade (hkeep b hpc) with rfl | ⟨q,rfl,hjoins⟩
    · rw [grow_nil]
      exact ⟨hk,afterScale_kept hview⟩
    · exact ⟨hk.append hjoins,afterScale_kept (hview.append _)⟩
  | @unscaled b made creating hpc hmade =>
    have hsettled : Settled s.core b := h.here hpc
    rcases hsettled.grows hk hmade (hkeep b hpc) with rfl | ⟨q,rfl,hjoins⟩
    · rw [grow_nil]
      exact ⟨hk,trivial⟩
    · exact ⟨hk.append hjoins,trivial⟩
  | runTasks hpc _ _ hnext =>
    have hview := h.here hpc
    rcases hnext with rfl | rfl <;> exact ⟨hk,hview⟩
  | @persist b view hpc _ =>
    have hview : ViewOk s.core view := h.here hpc
    exact @ViewOk.patched s _ b view hview hk rfl rfl
  | @persistLatest b view hpc _ =>
    have hview : ViewOk s.core view := h.here hpc
    exact @ViewOk.patched s _ s.api view hview hk rfl rfl
  | cleanupDelete hpc =>
    obtain ⟨hphase,halive⟩ := h.here hpc
    exact ⟨hk.dropSnapshot hphase fun _ _ _ => halive,trivial⟩

def Careful (s : State) : Action → Prop
  | .run _ =>
    match s.pc with
    | .pauseDelete => ∀ snap, s.snapshot = some snap → snap.phase = .succeed →
      ∃ pod ∈ s.ownPods, pod.deleting = false ∧ pod.started = true
    | .scale b => s.PatchKeeps b
    | _ => True
  | .fail =>
    match s.pc with
    | .rollback _ _ => False
    | _ => True
  | .editOther replicas _ _ _ => replicas = some 1
  | .editTemplate _ | .editPool _ => False
  | .resolveSnapshot => ∀ pod, s.sourcePod = some pod → pod ∈ s.ownPods
  | .poolPod _ _ containers => containers ≠ []
  | _ => True

theorem alive_of_own (h : ∃ pod ∈ s.ownPods, pod.deleting = false ∧ pod.started = true) :
    s.core.Alive := by
  obtain ⟨pod,hpod,hdel,hstarted⟩ := h
  obtain ⟨hmem,hown⟩ := mem_ownPods.mp hpod
  exact ⟨pod,hmem,hown,hdel,hstarted⟩

theorem PcKept.fail (h : PcKept c pc) (hok : ∀ b report, pc ≠ .rollback b report) :
    PcKept c (onFailure pc) := by
  cases pc with
  | pauseClear | resumeClear | resumeReadyClear | podFailedClear | rollbackReport | runTasks
  | releasePods | cleanupTasks | patchEndpoints => exact h
  | resumeReady b =>
    obtain ⟨hres,hnone⟩ : Resumes c b ∧ c.snapshot = none := h
    refine ⟨hres.toCopies,hres.steady,?_,fun _ => restores_of_none hnone⟩
    rw [hres.own]
    decide
  | rollback b report => exact absurd rfl (hok b report)
  | pauseFind b message => exact ⟨h,nofun⟩
  | _ => trivial

theorem later_note (c : Core) (uids : List Nat) : Later c (c.note uids) :=
  ⟨rfl,rfl,fun _ h => h,rfl,id,fun _ _ h _ => h,fun _ _ h => h,id,
    fun _ p hp hown => ⟨p,hp,hown,rfl,id⟩⟩

theorem later_pods {new : List Pod} (hg : Preserves g) (hfrom : From g c.fleet.pods new)
    (hlive : Survives c.fleet g new) : Later c (c.withPods new) := by
  refine ⟨rfl,rfl,fun _ h => h,rfl,id,fun _ _ h _ => h,fun _ _ h => h,
    fun h => h.withPods hg hlive,fun _ p' hp' hown => ?_⟩
  obtain ⟨p,hp,rfl⟩ := hfrom p' hp'
  exact ⟨p,hp,hg.own.mp hown,hg.name p,hg.deleting p⟩

variable {snap : Snapshot}

theorem later_active (hfleet : c'.fleet = c.fleet) (hphase : c'.phase = c.phase)
    (hsnap : c.snapshot = some snap) (hactive : snap.phase ≠ .succeed ∧ snap.phase ≠ .failed)
    (hpausing : c.phase = .pausing) : Later c c' := by
  refine ⟨by rw [hfleet],by rw [hfleet],fun _ h => by rwa [hfleet],hphase,fun hnone => ?_,
    fun _ found hfound hended => ?_,absurd hpausing,fun h => ?_,fun _ p hp hown => ?_⟩
  · cases hnone.symm.trans hsnap
  · cases hsnap.symm.trans hfound
    exact (hended.elim hactive.1 hactive.2).elim
  · rwa [Core.Alive,hfleet]
  · rw [hfleet] at hp hown
    exact ⟨p,hp,hown,rfl,id⟩

theorem observe_preserves (report : PodReport) : Preserves fun pod => pod.observe report :=
  ⟨fun _ => rfl,fun _ => rfl,fun _ => rfl,fun _ => rfl,fun _ => rfl,
    fun _ h => Bool.or_eq_true_iff.mpr (.inl h),fun _ _ h => Bool.or_eq_true_iff.mpr (.inr h),
    fun _ h => h⟩

theorem id_preserves : Preserves id :=
  ⟨fun _ => rfl,fun _ => rfl,fun _ => rfl,fun _ => rfl,fun _ => rfl,fun _ h => h,
    fun _ h => h,fun _ h => h⟩

theorem Kept.pods (h : Kept s) {new : List Pod} (hg : Preserves g) (hfrom : From g s.pods new)
    (hlive : Survives s.core.fleet g new) (hcore : t.core = s.core.withPods new)
    (hpc : t.pc = s.pc) : Kept t := by
  rw [Kept,hcore,hpc]
  exact ⟨h.1.withPods hg hfrom hlive,h.2.later (later_pods hg hfrom hlive)⟩

theorem Kept.reshoot (h : Kept s) (hsnap : s.snapshot = some snap)
    (hactive : snap.phase ≠ .succeed ∧ snap.phase ≠ .failed)
    (hfleet : t.core.fleet = s.core.fleet) (hphase : t.core.phase = s.core.phase)
    (hpc : t.pc = s.pc) (hcustody : Custody t.core) : Kept t := by
  have hpausing := (h.1.shot snap hsnap).active hactive.1 hactive.2
  rw [Kept,hpc]
  exact ⟨hcustody,h.2.later (later_active hfleet hphase hsnap hactive hpausing)⟩

theorem Kept.resolve (h : Kept s) (hsnap : s.snapshot = some snap)
    (hactive : snap.active = true)
    (hok : ∀ pod, s.sourcePod = some pod → pod ∈ s.ownPods) :
    Kept { s with snapshot := some (s.resolveSource snap) } := by
  have hrunning : snap.phase ≠ .succeed ∧ snap.phase ≠ .failed := by
    constructor <;> intro hp <;> rw [Snapshot.active,hp] at hactive <;> cases hactive
  refine h.reshoot hsnap hrunning rfl rfl rfl ?_
  rw [State.resolveSource]
  split
  · exact h.1.failSnapshot hsnap hrunning.1 rfl rfl
  rename_i pod hpod
  obtain ⟨hmem,hown⟩ := mem_ownPods.mp (hok pod hpod)
  split
  · exact h.1.failSnapshot hsnap hrunning.1 rfl rfl
  · exact h.1.commit hsnap hrunning hmem hown rfl rfl rfl rfl

theorem committing_active (h : snap.phase = .committing) :
    snap.phase ≠ .succeed ∧ snap.phase ≠ .failed := by
  rw [h]
  decide

theorem Kept.commitSucceed (h : Kept s) {source : Nat} {pod : Pod}
    (problem : Option (String × String)) (hsnap : s.snapshot = some snap)
    (hsource : snap.source = some source) (hphase : snap.phase = .committing)
    (hfind : s.pods.find? (·.uid = source) = some pod) :
    Kept { s with
      snapshot := some { snap with phase := .succeed, problem }
      lineage := Function.update s.lineage snap.uid (s.carries pod) } := by
  have hmem := mem_of_find?_eq_some hfind
  have hfound := find?_some hfind
  have huid : pod.uid = source := of_decide_eq_true hfound
  exact h.reshoot hsnap (committing_active hphase) rfl rfl rfl
    (h.1.succeed hsnap hphase hmem (huid ▸ hsource) rfl rfl rfl rfl)

theorem Kept.commitFail (h : Kept s) (message : String) (hsnap : s.snapshot = some snap)
    (hphase : snap.phase = .committing) :
    Kept { s with snapshot := some { snap with phase := .failed, failureMessage := message } } := by
  have hactive := committing_active hphase
  exact h.reshoot hsnap hactive rfl rfl rfl (h.1.failSnapshot hsnap hactive.1 rfl rfl)

theorem Kept.gone (h : Kept s) (hsnap : s.snapshot = some snap) (hdel : snap.deleting = true) :
    Kept { s with snapshot := none } := by
  refine ⟨h.1.gone hsnap hdel,PcKept.later h.2 ⟨rfl,rfl,fun _ h => h,rfl,fun _ => rfl,
    fun hpausing => ?_,nofun,id,fun _ p hp hown => ⟨p,hp,hown,rfl,id⟩⟩⟩
  cases hdel.symm.trans ((h.1.shot snap hsnap).kept hpausing)

theorem Kept.poolPod (h : Kept s) {name label : String} {containers : List Container}
    (hfree : (s.pods.any fun pod => pod.name == name) = false) (hcontainers : containers ≠ []) :
    Kept { s with
      pods := s.pods ++ [{ newPod s.api containers s.nextUid 0 with name, owned := false, label }]
      nextUid := s.nextUid + 1 } := by
  have hname (p : Pod) (hp : p ∈ s.pods) : p.name ≠ name := fun heq =>
    any_eq_false.mp hfree p hp (beq_iff_eq.mpr heq)
  have hstranger : ¬ s.core.fleet.Own
      { newPod s.api containers s.nextUid 0 with name, owned := false, label } := by
    rintro (⟨hpool,halloc⟩ | ⟨_,howned⟩)
    · obtain ⟨p,hp,hsame,_⟩ := (h.1.fleet.pooled hpool).present name halloc
      exact hname p hp hsame
    · cases howned
  have hjoins : Joins s.core { newPod s.api containers s.nextUid 0 with name, owned := false, label } :=
    ⟨rfl,⟨nofun,hcontainers⟩,fun _ => ⟨rfl,hname⟩,nofun,fun hown => absurd hown hstranger,
      fun hown => absurd hown hstranger,fun hown => absurd hown hstranger⟩
  refine ⟨h.1.append hjoins,PcKept.later h.2 ⟨rfl,rfl,fun _ h => h,rfl,id,fun _ _ h _ => h,
    fun _ _ h => h,fun halive => ?_,fun _ p hp hown => ?_⟩⟩
  · obtain ⟨p,hp,hown,hdel,hstarted⟩ := halive
    exact ⟨p,mem_append_left _ hp,hown,hdel,hstarted⟩
  rcases mem_append.mp hp with hp | hp
  · exact ⟨p,hp,hown,rfl,id⟩
  · rw [mem_singleton.mp hp] at hown
    exact absurd hown hstranger

theorem Kept.allocate (h : Kept s) {name : String} (hpool : s.api.poolRef ≠ "")
    (hroom : s.api.alloc.length < s.api.replicas.getD 0)
    (hpod : (s.pods.any fun pod => pod.name == name && !pod.owned && !pod.deleting) = true) :
    Kept (s.editMeta fun api => { api with alloc := api.alloc ++ [name] }) := by
  have hempty : s.core.fleet.alloc = [] := by
    have hsingle : s.api.replicas = some 1 := h.1.fleet.single
    rw [hsingle,getD_some] at hroom
    exact length_eq_zero_iff.mp (Nat.lt_one_iff.mp hroom)
  obtain ⟨q,hq,hcond⟩ := any_eq_true.mp hpod
  rw [Bool.and_eq_true,Bool.and_eq_true,beq_iff_eq] at hcond
  obtain ⟨⟨hname,_⟩,hdel⟩ := hcond
  refine ⟨h.1.allocate hpool hempty hq hname (Bool.eq_false_of_not_eq_true' hdel),
    PcKept.later h.2 ⟨rfl,rfl,fun _ hn => mem_append_left _ hn,rfl,id,fun _ _ h _ => h,
      fun _ _ h => h,fun halive => ?_,fun hplain => absurd hplain hpool⟩⟩
  obtain ⟨p,hp,hown,hlive,hstarted⟩ := halive
  refine ⟨p,hp,.inl ⟨hpool,mem_append_left _ ?_⟩,hlive,hstarted⟩
  exact (Pooled.own hpool).mp hown

theorem Move.kept {a : Action} (hmove : Move s a t) (h : Kept s) (hok : Careful s a) : Kept t := by
  cases hmove with
  | turn hturn =>
    refine hturn.kept h (fun hpc snap hsnap hsucceed => alive_of_own ?_) fun b hpc => ?_
    · rw [Careful,hpc] at hok
      exact hok snap hsnap hsucceed
    · rwa [Careful,hpc] at hok
  | fail =>
    refine ⟨h.1,h.2.fail fun b report hpc => ?_⟩
    rwa [Careful,hpc] at hok
  | restart => exact ⟨h.1,trivial⟩
  | editPause => exact h
  | @editOther replicas shardPatches policy taskTemplate =>
    have hsame : replicas = s.api.replicas := Eq.trans hok h.1.fleet.single.symm
    subst hsame
    exact h
  | editTemplate | editPool => exact hok.elim
  | deleteSandbox => exact h
  | resolveSnapshot hsnap hphase _ => exact h.resolve hsnap hphase hok
  | commitSucceed hsnap hsource hphase hfind =>
    exact h.commitSucceed _ hsnap hsource hphase hfind
  | commitFail hsnap hphase => exact h.commitFail _ hsnap hphase
  | snapshotGone hsnap hdel => exact h.gone hsnap hdel
  | @podReport uid report =>
    refine h.pods ((observe_preserves report).ite (·.uid = uid)) (from_map _)
      (fun p hp _ hdel => ?_) rfl rfl
    refine ⟨mem_map_of_mem hp,?_⟩
    split <;> exact hdel
  | @podGone uid hgone =>
    refine h.pods id_preserves (fun p hp => ⟨p,(mem_filter.mp hp).1,rfl⟩)
      (fun p hp _ hdel => ⟨mem_filter.mpr ⟨hp,?_⟩,hdel⟩) rfl rfl
    refine decide_eq_true (p := p.uid ≠ uid) fun huid => ?_
    obtain ⟨q,hq,hcond⟩ := any_eq_true.mp hgone
    rw [Bool.and_eq_true,beq_iff_eq] at hcond
    rw [h.1.fleet.uids p hp q hq (huid.trans hcond.1.symm),hcond.2] at hdel
    cases hdel
  | poolPod hfree => exact h.poolPod hfree hok
  | @poolDelete name hfree =>
    refine h.pods (delete_preserves.ite fun p => p.name = name ∧ p.owned = false) (from_map _)
      (fun p hp hown hdel => ?_) rfl rfl
    have hkept : ¬ (p.name = name ∧ p.owned = false) := by
      rintro ⟨rfl,howned⟩
      rcases hown with ⟨hpool,halloc⟩ | ⟨_,hown⟩
      · exact hfree ⟨hpool,halloc⟩
      · cases howned.symm.trans hown
    have hsame : (if p.name = name ∧ p.owned = false then { p with deleting := true } else p) = p :=
      if_neg hkept
    rw [hsame]
    exact ⟨mem_map.mpr ⟨p,hp,hsame⟩,hdel⟩
  | allocate hpool hroom hpod => exact h.allocate hpool hroom hpod

theorem Kept.note (h : Kept s) : Kept s.note := by
  have hready : ∀ uid ∈ (s.ownPods.filter fun pod => !pod.deleting && pod.isPodReady).map Pod.uid,
      ∃ p ∈ s.core.fleet.pods, s.core.fleet.Own p ∧ p.uid = uid ∧ p.deleting = false ∧
        p.started = true := by
    refine forall_mem_map.mpr fun p hp => ?_
    obtain ⟨hmem,hcond⟩ := mem_filter.mp hp
    obtain ⟨hpod,hown⟩ := mem_ownPods.mp hmem
    rw [Bool.and_eq_true,Pod.isPodReady,Bool.and_eq_true] at hcond
    exact ⟨p,hpod,hown,rfl,Bool.eq_false_of_not_eq_true' hcond.1,
      (h.1.fleet.sane p hpod).1 hcond.2.1⟩
  exact ⟨h.1.note hready,PcKept.later h.2 (later_note s.core _)⟩

structure SingleReplica (s : State) : Prop extends Created s where
  replicas : s.api.replicas = some 1
  mode : s.api.poolRef ≠ "" → s.api.template = none
  template : s.api.template ≠ some []
  sane : ∀ pod ∈ s.pods, (pod.running = true → pod.started = true) ∧ pod.containers ≠ []

theorem SingleReplica.kept (h : SingleReplica s) : Kept s := by
  have hunowned (p : Pod) (hp : p ∈ s.pods) : p.owned = true → False := fun howned =>
    absurd ((h.pods p hp).1.symm.trans howned) (by decide)
  have hnone (p : Pod) (hp : p ∈ s.pods) : ¬ s.core.fleet.Own p := by
    rintro (⟨_,halloc⟩ | ⟨_,howned⟩)
    · have hnil : s.core.fleet.alloc = [] := h.alloc
      rw [hnil] at halloc
      cases halloc
    · exact hunowned p hp howned
  refine ⟨⟨⟨h.replicas,inj_on_of_nodup_map h.uids,fun p hp => (h.pods p hp).2,h.sane,
    fun p hp _ _ hown => absurd hown (hnone p hp),fun hpool => ⟨h.mode hpool,
      fun p hp => (h.pods p hp).1,?_,fun name hname => ?_,inj_on_of_nodup_map h.names⟩,
    fun _ => ⟨fun p hp howned => (hunowned p hp howned).elim,h.template⟩⟩,
    fun snap hsnap => ?_,fun _ _ _ => restores_of_none h.snapshot,.empty h.history⟩,?_⟩
  · change s.api.alloc.length ≤ 1
    rw [h.alloc]
    exact Nat.zero_le 1
  · have hname' : name ∈ s.api.alloc := hname
    rw [h.alloc] at hname'
    cases hname'
  · cases h.snapshot.symm.trans hsnap
  · rw [h.pc]
    trivial

def CarefulRun : State → Prop := Runs.Reach (fun s a t => s.step a = some t) Careful SingleReplica

theorem CarefulRun.kept (h : CarefulRun s) : Kept s := by
  refine @Runs.Reach.invariant _ _ _ _ _ Kept (fun s hs => hs.kept)
    (fun s a t hs hok hstep => ?_) s h
  obtain ⟨u,hu,rfl⟩ := map_eq_some_iff.mp hstep
  exact ((act_move hu).kept hs hok).note

instance (s : State) (a : Action) : Decidable (Careful s a) := by
  unfold Careful State.PatchKeeps
  generalize s.pc = pc
  induction a using Action.casesOn <;>
    first | infer_instance | induction pc using Pc.casesOn <;> infer_instance

end OpenSandbox.Kubernetes.BatchSandbox
