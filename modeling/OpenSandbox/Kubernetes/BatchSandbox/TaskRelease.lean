import OpenSandbox.Kubernetes.BatchSandbox.Steps
import OpenSandbox.Kubernetes.TaskScheduler.Completion

namespace OpenSandbox.Kubernetes.BatchSandbox

open List Option Bool State

open TaskScheduler (AllEarned Finished GetCall Scheduler TaskNode Unclaimed)

def Pc.object : Pc → Option Sandbox
  | .pauseReject b _ | .pauseCheck b | .pauseClear b _ | .pauseAck b _ | .stopTasks b
  | .resumeClear b | .resumeAck b | .syncPause b | .pauseFind b _ | .pauseFailed b _ _ | .complete b
  | .detach b _ | .deletePods b _ | .finishPause b | .continueResume b | .resumeProbe b
  | .resumeReady b | .resumeReadyClear b | .podFailedClear b | .rollback b _ | .rollbackReport b _
  | .resumePatch b _ _ | .scale b | .runTasks b _ _ | .releasePods b _ _ _ => some b
  | _ => none

def Copied (api b : Sandbox) : Prop :=
  b.release = api.release ∧ (b.deleting = true → api.deleting = true)

def Pc.releasing : Pc → Option (List String)
  | .releasePods _ _ names _ => some names
  | _ => none

def AllStopped (sch : Scheduler) : Prop := ∀ n ∈ sch.taskNodes, n.deletionTimestamp = true

structure Held (s : State) : Prop where
  object : ∀ b, s.pc.object = some b → Copied s.api b
  stage : s.Staged
  names : ∀ names, s.pc.releasing = some names →
    ∃ sch, s.scheduler = some sch ∧ names = toReleasedPods sch
  earned : ∀ sch, s.scheduler = some sch → s.api.deleting = true ∨ AllEarned sch ∨
    s.api.status.phase = .pausing ∧ AllStopped sch

structure Follows (pc pc' : Pc) : Prop where
  object : ∀ b', pc'.object = some b' →
    ∃ b, pc.object = some b ∧ b'.release = b.release ∧ b'.deleting = b.deleting
  releasing : pc'.releasing = none

variable {pc : Pc}

theorem follows_none {pc' : Pc} (hobject : pc'.object = none) (hreleasing : pc'.releasing = none) :
    Follows pc pc' :=
  ⟨(fun _ h => nomatch hobject.symm.trans h),hreleasing⟩

variable {b b' : Sandbox}

theorem follows_same {pc' : Pc} (hobject : pc.object = some b) (hobject' : pc'.object = some b')
    (hrelease : b'.release = b.release) (hdeleting : b'.deleting = b.deleting)
    (hreleasing : pc'.releasing = none) : Follows pc pc' := by
  refine ⟨fun c hc => ⟨b,hobject,?_⟩,hreleasing⟩
  cases hobject'.symm.trans hc
  exact ⟨hrelease,hdeleting⟩

structure Frame (s t : State) : Prop where
  release : t.api.release = s.api.release
  deleting : t.api.deleting = s.api.deleting
  scheduler : t.scheduler = s.scheduler ∨ t.scheduler = none
  phase : s.api.status.phase = .pausing → t.api.status.phase = .pausing

variable {s t : State}

theorem Held.earned_frame (h : Held s) (hframe : Frame s t) :
    ∀ sch, t.scheduler = some sch → t.api.deleting = true ∨ AllEarned sch ∨
      t.api.status.phase = .pausing ∧ AllStopped sch := by
  intro sch hsch
  rcases hframe.scheduler with hsame | hnone
  · rw [hframe.deleting]
    refine (h.earned sch (hsame ▸ hsch)).imp_right (Or.imp_right fun hstopped => ?_)
    exact ⟨hframe.phase hstopped.1,hstopped.2⟩
  · cases hnone.symm.trans hsch

theorem Held.next (h : Held s) (hframe : Frame s t) (hpc : Follows s.pc t.pc)
    (hstage : t.Staged) : Held t := by
  refine ⟨fun b' hb' => ?_,hstage,fun names hnames => ?_,h.earned_frame hframe⟩
  · obtain ⟨b,hb,hrelease,hdeleting⟩ := hpc.object b' hb'
    obtain ⟨hcopy,hgone⟩ := h.object b hb
    refine ⟨hrelease.trans (hcopy.trans hframe.release.symm),fun hdel => ?_⟩
    rw [hframe.deleting]
    exact hgone (hdeleting ▸ hdel)
  · cases hpc.releasing.symm.trans hnames

theorem ensureSnapshot_follows (hobject : pc.object = some b) (hrelease : b'.release = b.release)
    (hdeleting : b'.deleting = b.deleting) : Follows pc (ensureSnapshot b') := by
  rw [ensureSnapshot]
  split
  · exact follows_same hobject rfl hrelease hdeleting rfl
  · exact follows_none rfl rfl

structure Starts (b : Sandbox) (pc : Pc) : Prop where
  object : ∀ c, pc.object = some c → c = b
  releasing : pc.releasing = none

theorem starts_with (hobject : pc.object = some b) (hreleasing : pc.releasing = none) :
    Starts b pc :=
  ⟨fun _ hc => some.inj (hc.symm.trans hobject),hreleasing⟩

theorem begin_starts (b : Sandbox) : Starts b (beginReconcile b) := by
  have h := reconcile_begins b
  generalize beginReconcile b = pc at h ⊢
  cases h with
  | rest h => obtain rfl | rfl := h <;> exact ⟨by rintro _ ⟨⟩,rfl⟩
  | _ => exact starts_with rfl rfl

theorem Held.start (h : Held s) (hpc : Starts s.api pc) (hstage : (s.goto pc).Staged) :
    Held (s.goto pc) := by
  refine ⟨fun b hb => ?_,hstage,fun names hnames => ?_,h.earned⟩
  · rw [hpc.object b hb]
    exact ⟨rfl,id⟩
  · cases hpc.releasing.symm.trans hnames

theorem frame_refl (s : State) (pc : Pc) : Frame s (s.goto pc) := ⟨rfl,rfl,.inl rfl,id⟩

theorem Frame.goto (h : Frame s t) : Frame s (t.goto pc) := { h with }

theorem Hop.held (hop : Hop s s.pc pc) (h : Held s) : Held (s.goto pc) := by
  have hstage : (s.goto pc).Staged := hop.staged h.stage
  have hsame {b b' : Sandbox} (hobject : s.pc.object = some b) (hobject' : pc.object = some b')
      (hb : b' = b) (hreleasing : pc.releasing = none) : Held (s.goto pc) := by
    subst hb
    exact h.next (frame_refl s pc) (follows_same hobject hobject' rfl rfl hreleasing) hstage
  generalize hpc : s.pc = start at hop hsame
  cases hop with
  | stop _ | stale _ _ | pauseStale _ _ _ | counted | skipped =>
    exact h.next (frame_refl s _) (follows_none rfl rfl) hstage
  | start => exact h.start (begin_starts s.api) hstage
  | syncMissing _ =>
    exact h.next (frame_refl s _) (hpc ▸ ensureSnapshot_follows rfl rfl rfl) hstage
  | pauseAbsent _ | pauseFound _ _ _ | syncSucceed _ _ | syncFailed _ _ | found _ | pooled _ _
  | deleted | probe _ | unusable | usable _ _ | ready _ | unready => exact hsame rfl rfl rfl rfl
  | unchanged _ =>
    refine h.next (frame_refl s _) ?_ hstage
    rw [goto,afterPersist]
    split <;> exact follows_none rfl rfl

variable {sch : Scheduler}

theorem AllStopped.schedule (h : AllStopped sch) (calls : List GetCall) :
    AllStopped (sch.schedule calls) := by
  have hcollected : AllStopped (sch.refreshFreePods.collectTaskStatus calls) := by
    rw [Scheduler.collectTaskStatus]
    split
    · exact h
    · refine forall_mem_map.mpr fun m hm => ?_
      rw [TaskNode.refresh]
      split <;> exact h m hm
  refine forall_mem_map.mpr fun out hout => ?_
  obtain ⟨j,hj,rfl⟩ := mem_mapIdx.mp hout
  obtain ⟨state,hsame⟩ := TaskScheduler.scheduleSingle_same _ j _
  rw [hsame]
  obtain ⟨m,hm,hassigned⟩ := TaskScheduler.assignTaskNodes_lookup (getElem?_eq_getElem hj)
  have hm' := hcollected m (mem_of_getElem? hm)
  rcases hassigned with hsame | ⟨_,pod,_,hsame⟩
  · rwa [hsame]
  · rwa [hsame]

variable {sch' : Scheduler} {calls : List GetCall}

theorem schedule_calls (h : sch.step (.schedule calls) = some sch') :
    (calls.map GetCall.ip).Perm (TaskScheduler.endpoints sch.taskNodes) ∧
      sch' = sch.schedule calls := by
  obtain ⟨hperm,hrest⟩ := ite_none_right_eq_some.mp h
  exact ⟨isPerm_iff.mp hperm,(some.inj hrest).symm⟩

theorem runScheduler_stopped (h : runScheduler sch true calls = some sch') : AllStopped sch' := by
  obtain ⟨_,rfl⟩ := schedule_calls h
  refine AllStopped.schedule ?_ calls
  exact forall_mem_map.mpr fun _ _ => rfl

theorem enterScheduler_earned {pods : List Pod} {recovery : List GetCall}
    (hknown : ∀ old, s.scheduler = some old → AllEarned old)
    (hnew : s.scheduler = none → Unclaimed recovery)
    (h : enterScheduler s b pods recovery = some sch) : AllEarned sch := by
  rw [enterScheduler] at h
  split at h
  · rename_i hnone
    exact TaskScheduler.newTaskScheduler_earned (hnew hnone) h
  rename_i old hold
  cases h
  have hupdated : AllEarned (old.updatePods
      (pods.map fun pod => (⟨pod.name,pod.podIP⟩ : TaskScheduler.Pod))) := hknown old hold
  exact hupdated.addTasks _

def Untainted (s : State) : Action → Prop
  | .run input =>
    match s.pc with
    | .pauseFailed _ _ _ =>
      ∀ sch, s.scheduler = some sch → ∀ n ∈ sch.taskNodes, n.deletionTimestamp = false
    | .runTasks b _ _ => b.deleting = false → s.scheduler = none → Unclaimed input.recovery
    | _ => True
  | _ => True

theorem Held.earned_outside (h : Held s) (hphase : s.api.status.phase ≠ .pausing) :
    ∀ sch, s.scheduler = some sch → s.api.deleting = true ∨ AllEarned sch := by
  intro sch hsch
  rcases h.earned sch hsch with hdel | hearned | ⟨hpausing,_⟩
  · exact .inl hdel
  · exact .inr hearned
  · exact absurd hpausing hphase

theorem afterScale_held (b : Sandbox) (pods : List Pod) :
    (∀ c, (afterScale b pods).object = some c → c = b) ∧ (afterScale b pods).releasing = none := by
  rw [afterScale]
  split
  · exact ⟨fun _ h => (some.inj h).symm,rfl⟩
  · exact ⟨by rintro _ ⟨⟩,rfl⟩

theorem afterPersist_held (view : RuntimeView) : (State.afterPersist view).object = none ∧
    (State.afterPersist view).releasing = none := by
  rw [afterPersist]
  split <;> exact ⟨rfl,rfl⟩

theorem Held.after (h : Held s) (hframe : Frame s t) (hobject : t.pc.object = none)
    (hreleasing : t.pc.releasing = none) (hstage : t.Staged) : Held t :=
  h.next hframe (follows_none hobject hreleasing) hstage

theorem Held.along (h : Held s) (hpc : s.pc = pc) (hframe : Frame s t)
    (hobject : pc.object = some b) (hobject' : t.pc.object = some b')
    (hrelease : b'.release = b.release) (hdeleting : b'.deleting = b.deleting)
    (hreleasing : t.pc.releasing = none) (hstage : t.Staged) : Held t := by
  refine h.next hframe ?_ hstage
  rw [hpc]
  exact follows_same hobject hobject' hrelease hdeleting hreleasing

theorem dropPaused_frame (b : Sandbox) (sch : Option Scheduler) :
    dropPausedScheduler b sch = sch ∨ dropPausedScheduler b sch = none := by
  rw [dropPausedScheduler]
  split
  · exact .inr rfl
  · exact .inl rfl

theorem Turn.held {input : Input} (hturn : Turn s input t) (h : Held s)
    (hok : Untainted s (.run input)) : Held t := by
  have hstage := hturn.staged h.stage
  have hcondition {f : List Condition → List Condition} {pc : Pc} :
      Frame s ((s.setCondition f).goto pc) := ⟨rfl,rfl,.inl rfl,id⟩
  have hack {phase : Phase} {pc : Pc} (hphase : s.api.status.phase = .pausing → phase = .pausing) :
      Frame s ((s.ackPauseWithPhase phase).goto pc) := ⟨rfl,rfl,.inl rfl,hphase⟩
  have houtside {pc : Pc} (hpc : s.pc = pc) (hstage : pc.stage = .other) :
      s.api.status.phase ≠ .pausing := by
    have hfits := h.stage.here hpc
    rwa [hstage] at hfits
  cases hturn with
  | hop hop => exact hop.held h
  | report hpc => exact h.after hcondition rfl rfl hstage
  | pauseAck hpc hnext =>
    rcases hnext with rfl | ⟨_,rfl⟩
    · exact h.after (hack fun _ => rfl) rfl rfl hstage
    refine h.next (hack fun _ => rfl) ?_ hstage
    rw [hpc]
    exact ensureSnapshot_follows rfl rfl rfl
  | stopTasks hpc _ hrun hnext =>
    have hphase : s.api.status.phase = .pausing := h.stage.here hpc
    refine ⟨?_,hstage,?_,fun sch hsch => ?_⟩
    · rcases hnext with rfl | rfl <;> rintro _ ⟨⟩
    · rcases hnext with rfl | rfl <;> rintro _ ⟨⟩
    · cases hsch
      exact .inr (.inr ⟨hphase,runScheduler_stopped hrun⟩)
  | addFinalizer | pauseDelete | createSnapshot | cleanupDelete | unscaled | patchEndpoints =>
    exact h.after ⟨rfl,rfl,.inl rfl,id⟩ rfl rfl hstage
  | reject hpc | resumeAck hpc =>
    exact h.after (hack fun hp => absurd hp (houtside hpc rfl)) rfl rfl hstage
  | pauseFailed hpc =>
    refine ⟨by rintro _ ⟨⟩,hstage,by rintro _ ⟨⟩,fun sch hsch => ?_⟩
    have hclean : ∀ n ∈ sch.taskNodes, n.deletionTimestamp = false := by
      rw [Untainted,hpc] at hok
      exact hok sch hsch
    rcases h.earned sch hsch with hdel | hearned | ⟨_,hstopped⟩
    · exact .inl hdel
    · exact .inr (.inl hearned)
    · refine .inr (.inl fun n hn => ?_)
      cases (hclean n hn).symm.trans (hstopped n hn)
  | @detach b template hpc =>
    refine ⟨fun c hc => ?_,hstage,by rintro _ ⟨⟩,h.earned⟩
    cases hc
    have hobject : s.pc.object = some b := by
      rw [hpc]
      rfl
    exact ⟨rfl,(h.object b hobject).2⟩
  | unpooled hpc _ | deletePod hpc =>
    exact h.along hpc ⟨rfl,rfl,.inl rfl,id⟩ rfl rfl rfl rfl rfl hstage
  | finishPause hpc =>
    exact ⟨by rintro _ ⟨⟩,hstage,by rintro _ ⟨⟩,by rintro _ ⟨⟩⟩
  | resumeReady hpc | rollback hpc =>
    exact h.along hpc (hack fun hp => absurd hp (houtside hpc rfl)) rfl rfl rfl rfl rfl hstage
  | pauseClear hpc | resumeClear hpc | resumeReadyClear hpc | podFailedClear hpc
  | rollbackReport hpc => exact h.along hpc hcondition rfl rfl rfl rfl rfl hstage
  | @resumePatch b uid containers hpc =>
    have hframe : Frame s (s.patchResume uid containers) := by
      rw [patchResume]
      split <;> exact ⟨rfl,rfl,.inl rfl,id⟩
    refine ⟨fun c hc => ?_,hstage,by rintro _ ⟨⟩,h.earned_frame hframe.goto⟩
    cases hc
    exact ⟨rfl,id⟩
  | @scaled b made creating hpc _ =>
    obtain ⟨hobject,hreleasing⟩ := afterScale_held b (sortedPods b s.pods input.order)
    refine h.next ⟨rfl,rfl,dropPaused_frame b s.scheduler,id⟩ ⟨fun c hc => ?_,hreleasing⟩
      hstage
    rw [hobject c hc,hpc]
    exact ⟨b,rfl,rfl,rfl⟩
  | @runTasks b pods view sch sch' pc hpc henter hrun hnext =>
    have hphase := houtside hpc rfl
    obtain ⟨hrelease,hdeleting⟩ : Copied s.api b := by
      refine h.object b ?_
      rw [hpc]
      rfl
    refine ⟨fun c hc => ?_,hstage,fun names hnames => ?_,fun sch₁ hsch₁ => ?_⟩
    · rcases hnext with rfl | rfl
      · cases hc
      · cases hc
        exact ⟨hrelease,hdeleting⟩
    · rcases hnext with rfl | rfl
      · cases hnames
      · cases hnames
        exact ⟨sch',rfl,rfl⟩
    cases hsch₁
    cases hstop : b.deleting with
    | true => exact .inl (hdeleting hstop)
    | false =>
      rw [hstop] at hrun
      by_cases hdel : s.api.deleting = true
      · exact .inl hdel
      obtain ⟨hperm,rfl⟩ := schedule_calls hrun
      refine .inr (.inl ((enterScheduler_earned ?_ ?_ henter).schedule hperm))
      · exact fun old hold => (h.earned_outside hphase old hold).resolve_left hdel
      · rw [Untainted,hpc] at hok
        exact hok hstop
  | releasePods hpc =>
    exact ⟨by rintro _ ⟨⟩,hstage,by rintro _ ⟨⟩,h.earned⟩
  | cleanupTasks hpc | dropFinalizer hpc =>
    exact h.after ⟨rfl,rfl,.inr rfl,fun hp => absurd hp (houtside hpc rfl)⟩ rfl rfl hstage
  | @persist b view hpc _ | @persistLatest b view hpc _ =>
    obtain ⟨hobject,hreleasing⟩ := afterPersist_held view
    exact h.after ⟨rfl,rfl,.inl rfl,fun hp => absurd hp (houtside hpc rfl)⟩ hobject
      hreleasing hstage

theorem Held.environment (h : Held s) (hpc : t.pc = s.pc) (hscheduler : t.scheduler = s.scheduler)
    (hrelease : t.api.release = s.api.release)
    (hdeleting : s.api.deleting = true → t.api.deleting = true)
    (hstatus : t.api.status = s.api.status) : Held t := by
  refine ⟨fun b hb => ?_,?_,fun names hnames => ?_,fun sch hsch => ?_⟩
  · obtain ⟨hcopy,hgone⟩ := h.object b (hpc ▸ hb)
    exact ⟨hcopy.trans hrelease.symm,fun hdel => hdeleting (hgone hdel)⟩
  · rw [Staged,hpc,hstatus]
    exact h.stage
  · rw [hscheduler]
    exact h.names names (hpc ▸ hnames)
  · rw [hstatus]
    exact (h.earned sch (hscheduler ▸ hsch)).imp_left hdeleting

theorem Held.fail (h : Held s) : Held s.fail := by
  have hstage : s.fail.Staged := Move.fail.staged h.stage
  have hsame {b : Sandbox} (hobject : s.pc.object = some b)
      (hobject' : (onFailure s.pc).object = some b)
      (hreleasing : (onFailure s.pc).releasing = none) : Held s.fail :=
    h.next (frame_refl s _) (follows_same hobject hobject' rfl rfl hreleasing) hstage
  have hnone (hobject : (onFailure s.pc).object = none)
      (hreleasing : (onFailure s.pc).releasing = none) : Held s.fail :=
    h.next (frame_refl s _) (follows_none hobject hreleasing) hstage
  generalize hpc : s.pc = pc at hsame hnone
  cases pc with
  | pauseFind | pauseClear | resumeClear | resumeReady | resumeReadyClear | podFailedClear
  | rollback | rollbackReport => exact hsame rfl rfl rfl
  | _ => exact hnone rfl rfl

theorem Move.held {a : Action} (hmove : Move s a t) (h : Held s) (hok : Untainted s a) :
    Held t := by
  cases hmove with
  | turn hturn => exact hturn.held h hok
  | fail => exact h.fail
  | restart => exact ⟨by rintro _ ⟨⟩,trivial,by rintro _ ⟨⟩,by rintro _ ⟨⟩⟩
  | deleteSandbox => exact h.environment rfl rfl rfl (fun _ => rfl) rfl
  | _ => exact h.environment rfl rfl rfl id rfl

theorem created_held (h : Created s) : Held s := by
  refine ⟨fun b hb => ?_,?_,fun names hnames => ?_,fun sch hsch => ?_⟩
  · rw [h.pc] at hb
    cases hb
  · rw [Staged,h.pc]
    trivial
  · rw [h.pc] at hnames
    cases hnames
  · cases h.scheduler.symm.trans hsch

theorem Reachable.held (h : Reachable Untainted s) : Held s :=
  h.invariant Held (fun _ hs => created_held hs) (fun _ _ _ hs hok hmove => hmove.held hs hok)
    fun _ hs => hs.environment rfl rfl rfl id rfl

def CompletedUnderRelease (s : State) (name : String) : Prop :=
  ∃ sch n, s.scheduler = some sch ∧ n ∈ sch.taskNodes ∧ n.podName = name ∧
    sch.policy = .release ∧ Finished sch.log n.ip

theorem Held.released (h : Held s) {view : RuntimeView} {names : List String}
    {counts : TaskCounts} (hpc : s.pc = .releasePods b view names counts) {name : String}
    (hname : name ∈ mergeReleased b.release names) (hnew : name ∉ s.api.release) :
    s.api.deleting = true ∨ CompletedUnderRelease s name := by
  have hcopy : Copied s.api b := by
    refine h.object b ?_
    rw [hpc]
    rfl
  have hadded : name ∈ names := by
    rw [mergeReleased,mem_mergeSort,mem_dedup,mem_append] at hname
    refine hname.resolve_left fun hold => hnew ?_
    rwa [← hcopy.1]
  obtain ⟨sch,hsch,rfl⟩ := h.names names (by rw [hpc]; rfl)
  refine (h.earned_outside (h.stage.here hpc) sch hsch).imp_right fun hearned => ?_
  obtain ⟨n,hn,hpod⟩ := mem_map.mp hadded
  obtain ⟨hmem,hreleased⟩ := mem_filter.mp hn
  rw [and_eq_true,TaskNode.isResourceReleased,beq_iff_eq] at hreleased
  have hmoved : n.sState ≠ .initial := by
    rw [hreleased.2]
    decide
  obtain ⟨hpolicy,hfinished⟩ := (hearned n hmem).released hmoved
  exact ⟨sch,n,hsch,hmem,hpod,hpolicy,hfinished⟩

theorem Turn.release {input : Input} (h : Turn s input t) :
    t.api.release = s.api.release ∨ t.api.release = [] ∨
      ∃ b view names counts, s.pc = .releasePods b view names counts ∧
        t.api.release = mergeReleased b.release names := by
  cases h with
  | detach hpc => exact .inr (.inl rfl)
  | resumePatch hpc =>
    refine .inl ?_
    change (s.patchResume _ _).api.release = _
    rw [patchResume]
    split <;> rfl
  | releasePods hpc => exact .inr (.inr ⟨_,_,_,_,hpc,rfl⟩)
  | _ => exact .inl rfl

theorem release_earned {s t : State} {a : Action} (h : Reachable Untainted s)
    (hstep : s.step a = some t) {name : String} (hname : name ∈ t.api.release)
    (hnew : name ∉ s.api.release) : s.api.deleting = true ∨ CompletedUnderRelease s name := by
  obtain ⟨u,hu,rfl⟩ := map_eq_some_iff.mp hstep
  have hmem : name ∈ u.api.release := hname
  cases act_move hu with
  | turn hturn =>
    rcases hturn.release with hsame | hnil | ⟨b,view,names,counts,hpc,hrelease⟩
    · rw [hsame] at hmem
      exact absurd hmem hnew
    · rw [hnil] at hmem
      cases hmem
    · rw [hrelease] at hmem
      exact h.held.released hpc hmem hnew
  | _ => exact absurd hmem hnew

def pooledSandbox (policy : TaskScheduler.ResourcePolicy) : State :=
  { plainSandbox with
    api := { plainSandbox.api with poolRef := "pool", template := none, taskTemplate := true, policy }
    pods :=
      [{ name := "pool-a", uid := 0, owned := false, label := "", index := 0, scheduled := true,
         podIP := "10.0.0.1", running := true, readyCondition := true, waiting := [],
         deleting := false, containers := [⟨"main",.base "app"⟩], started := true }]
    nextUid := 1 }

theorem pooledSandbox_created (policy : TaskScheduler.ResourcePolicy) :
    Created (pooledSandbox policy) :=
  ⟨rfl,rfl,rfl,rfl,rfl,forall_mem_singleton.mpr ⟨rfl,Nat.one_pos⟩,
    nodup_singleton _,nodup_singleton _,rfl,rfl,rfl,rfl,rfl,rfl⟩

def answer (task : Option TaskScheduler.Task) : List GetCall := [⟨"10.0.0.1",.returned task⟩]

def runningTask : TaskScheduler.Task := ⟨"sb-0",false,some ⟨true,none⟩,none⟩

def finishedTask : TaskScheduler.Task := ⟨"sb-0",false,some ⟨false,some ⟨0,""⟩⟩,none⟩

def failedPause : List Action :=
  .allocate "pool-a" :: turns 4 ++ .run (.calling (answer none) []) :: turns 4 ++
    .editPause (some true) :: turns 4 ++ .run (.calling [] (answer (some runningTask))) :: turns 2 ++
    .run (.calling [] (answer none)) :: turns 1 ++ [.resolveSnapshot,.commitFail "registry down"]

instance (s : State) (a : Action) : Decidable (Untainted s a) := by
  unfold Untainted
  generalize s.pc = pc
  induction a using Action.casesOn <;>
    first | infer_instance | induction pc using Pc.casesOn <;> infer_instance

theorem release_earned_completed :
    ∃ s t, Reachable Untainted s ∧ s.step (.run (.calling [] [])) = some t ∧
      "pool-a" ∈ t.api.release ∧ "pool-a" ∉ s.api.release ∧ s.api.deleting = false ∧
      CompletedUnderRelease s "pool-a" := by
  obtain ⟨s,hs,t,ht,hname,hnew,hdeleting⟩ :
      ∃ s ∈ Runs.follow (fun s a => if Untainted s a then s.step a else none)
        (pooledSandbox .release) (failedPause ++ .restart :: turns 7 ++
          .run (.calling (answer (some finishedTask)) (answer (some finishedTask))) :: turns 6 ++
          [.run (.calling [] (answer none))]),
        ∃ t ∈ s.step (.run (.calling [] [])), "pool-a" ∈ t.api.release ∧
          "pool-a" ∉ s.api.release ∧ s.api.deleting = false := by
    decide +kernel
  have hreach : Reachable Untainted s :=
    Runs.Reach.follow_checked (.start (pooledSandbox_created _)) hs
  refine ⟨s,t,hreach,ht,hname,hnew,hdeleting,?_⟩
  refine (release_earned hreach ht hname hnew).resolve_left ?_
  rw [hdeleting]
  decide

theorem released_after_failed_pause :
    ∃ s t, Reachable (fun _ _ => True) s ∧ s.step (.run (.calling [] [])) = some t ∧
      s.snapshot.map Snapshot.phase = some .failed ∧ s.api.status.phase = .succeed ∧
      "pool-a" ∈ t.api.release ∧ "pool-a" ∉ s.api.release ∧ s.api.deleting = false ∧
      ¬ CompletedUnderRelease s "pool-a" := by
  obtain ⟨s,hs,t,ht,hpolicy,hsnap,hphase,hname,hnew,hdeleting⟩ :
      ∃ s ∈ Runs.follow step (pooledSandbox .retain)
        (failedPause ++ turns 7 ++ [.run (.calling [] (answer none))]),
        ∃ t ∈ s.step (.run (.calling [] [])), s.scheduler.map Scheduler.policy = some .retain ∧
          s.snapshot.map Snapshot.phase = some .failed ∧ s.api.status.phase = .succeed ∧
          "pool-a" ∈ t.api.release ∧ "pool-a" ∉ s.api.release ∧ s.api.deleting = false := by
    decide +kernel
  refine ⟨s,t,Runs.Reach.follow (.start (pooledSandbox_created _)) (fun _ _ _ => trivial) hs,ht,
    hsnap,hphase,hname,hnew,hdeleting,?_⟩
  rintro ⟨sch,n,hsch,_,_,hrelease,_⟩
  rw [hsch,map_some,hrelease] at hpolicy
  cases hpolicy

end OpenSandbox.Kubernetes.BatchSandbox
