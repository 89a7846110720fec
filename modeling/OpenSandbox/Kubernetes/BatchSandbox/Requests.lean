import OpenSandbox.Kubernetes.BatchSandbox.Steps

namespace OpenSandbox.Kubernetes.BatchSandbox

open List

def has (type : ConditionType) (conditions : List Condition) : Bool :=
  conditions.any (·.type = type)

variable {type : ConditionType} {conditions : List Condition}

theorem has_setTrue {other : ConditionType} {reason message : String}
    (h : has type conditions = true) :
    has type (setTrue other reason message conditions) = true := by
  rw [has,any_eq_true] at h ⊢
  obtain ⟨c,hc,htype⟩ := h
  rw [setTrue]
  split
  · refine ⟨_,mem_map_of_mem hc,?_⟩
    split_ifs with heq
    · rw [decide_eq_true_eq] at htype ⊢
      exact heq.symm.trans htype
    · exact htype
  · exact ⟨c,mem_append_left _ hc,htype⟩

theorem has_set (type : ConditionType) (reason message : String) (conditions : List Condition) :
    has type (setTrue type reason message conditions) = true := by
  rw [has,setTrue]
  split_ifs with hany
  · obtain ⟨c,hc,htype⟩ := any_eq_true.mp hany
    refine any_eq_true.mpr ⟨_,mem_map_of_mem hc,?_⟩
    rw [if_pos (of_decide_eq_true htype)]
    exact decide_eq_true rfl
  · simp

theorem has_setFalse {other : ConditionType} (hne : type ≠ other) (h : has type conditions = true) :
    has type (setFalse other conditions) = true := by
  rw [has,any_eq_true] at h ⊢
  obtain ⟨c,hc,htype⟩ := h
  refine ⟨c,mem_filter.mpr ⟨hc,?_⟩,htype⟩
  rw [decide_eq_true_eq] at htype ⊢
  exact htype ▸ hne

theorem has_applyPhase (phase : Phase) (h : has .resumeFailed conditions = true) :
    has .resumeFailed (applyPhaseConditions phase conditions) = true := by
  cases phase with
  | unset => exact h
  | succeed => exact has_setFalse nofun (has_setFalse nofun (has_setTrue h))
  | paused => exact has_setTrue (has_setFalse nofun (has_setFalse nofun h))
  | pending | pausing | resuming =>
    exact has_setFalse nofun (has_setTrue (has_setFalse nofun h))
  | failed => exact has_setFalse nofun (has_setFalse nofun (has_setFalse nofun h))

theorem has_merge_desired {desired latest : List Condition} (h : has type desired = true) :
    has type (mergeLifecycleConditions desired latest) = true := by
  rw [has,mergeLifecycleConditions,any_append,← has,h,Bool.true_or]

theorem has_merge_latest {desired latest : List Condition} (h : has .resumeFailed latest = true) :
    has .resumeFailed (mergeLifecycleConditions desired latest) = true := by
  by_cases hdesired : has .resumeFailed desired = true
  · exact has_merge_desired hdesired
  rw [has,any_eq_true] at h
  obtain ⟨c,hc,htype⟩ := h
  rw [has,mergeLifecycleConditions,any_append,Bool.or_eq_true]
  refine .inr (any_eq_true.mpr ⟨c,mem_filter.mpr ⟨hc,?_⟩,htype⟩)
  rw [of_decide_eq_true htype]
  rw [has,Bool.not_eq_true] at hdesired
  rw [hdesired]
  rfl

theorem mergePatch_has {old new : Status} (h : has .resumeFailed new.conditions = true) :
    has .resumeFailed (old.mergePatch new).conditions = true := by
  have hne : new.conditions ≠ [] := by
    intro hnil
    rw [hnil] at h
    cases h
  change has _ (if new.conditions = [] then old.conditions else new.conditions) = true
  rwa [if_neg hne]

structure Viewed (b : Sandbox) (view : RuntimeView) : Prop where
  pausing : view.status.phase ≠ .pausing
  paused : view.status.phase = .paused → b.status.phase = .paused
  observed : view.status.pauseObservedGeneration = b.status.pauseObservedGeneration ∨
    view.status.pauseObservedGeneration = b.generation ∧
      b.status.pauseObservedGeneration < b.generation
  reported : has .resumeFailed b.status.conditions = true →
    has .resumeFailed view.status.conditions = true
  set : view.status.phase ≠ .unset

structure Steered (before after : Status) : Prop where
  phase : after.phase = .failed ∨ after.phase = .succeed ∧ 0 < before.ready ∨
    after.phase = .pending ∨ after.phase = .resuming ∨
    after.phase = .paused ∧ before.phase = .paused
  reported : has .resumeFailed before.conditions = true → has .resumeFailed after.conditions = true
  observed : after.pauseObservedGeneration = before.pauseObservedGeneration

theorem resuming_steered {status : Status} (pods : List Pod) (h : status.phase = .resuming) :
    Steered status (applyResumingRuntimePhase status pods) := by
  rw [applyResumingRuntimePhase]
  split
  · exact ⟨.inl rfl,fun hhas => has_setTrue (has_setTrue hhas),rfl⟩
  split
  · rename_i hready
    exact ⟨.inr (.inl ⟨rfl,hready⟩),has_setFalse (by decide),rfl⟩
  · exact ⟨.inr (.inr (.inr (.inl h))),id,rfl⟩

theorem steady_steered {b : Sandbox} {status : Status} (pods : List Pod)
    (h : status.phase = b.status.phase) :
    Steered status (applySteadyRuntimePhase b status pods) := by
  rw [applySteadyRuntimePhase]
  split
  · split_ifs with hfailed
    · refine ⟨.inl rfl,fun hhas => ?_,rfl⟩
      dsimp only
      rw [failSteadyConditions]
      split
      · exact has_setTrue (has_setTrue hhas)
      · exact has_setTrue hhas
    · exact ⟨.inl (h.trans (not_not.mp hfailed)),id,rfl⟩
  split
  · rename_i hfailed
    exact ⟨.inl hfailed,id,rfl⟩
  · refine ⟨?_,has_setFalse (by decide),rfl⟩
    dsimp only
    split_ifs with hready
    · exact .inr (.inl ⟨rfl,hready⟩)
    · exact .inr (.inr (.inl rfl))

variable {b : Sandbox}

section

variable (pods : List Pod) (h : b.status.phase ≠ .pausing)

include h

theorem runtime_steered :
    Steered (countPods b pods) (applyRuntimePhase b (countPods b pods) pods) := by
  rw [applyRuntimePhase]
  split
  · rename_i hphase
    exact absurd hphase h
  · rename_i hphase
    exact ⟨.inr (.inr (.inr (.inr ⟨hphase,hphase⟩))),id,rfl⟩
  · rename_i hphase
    exact resuming_steered pods hphase
  · exact steady_steered pods rfl

theorem built_viewed :
    Viewed b (buildRuntimeView b pods) ∧ (buildRuntimeView b pods).status.pauseObservedGeneration =
        b.status.pauseObservedGeneration := by
  obtain ⟨hphase,hreported,hobserved⟩ := runtime_steered pods h
  refine ⟨⟨fun hp => ?_,fun hp => ?_,.inl hobserved,
    fun hhas => has_applyPhase _ (hreported hhas),fun hp => ?_⟩,hobserved⟩
  all_goals
    rcases hphase with hq | ⟨hq,-⟩ | hq | hq | ⟨hq,hpaused⟩
    all_goals first | exact hpaused | cases hq.symm.trans hp

theorem acknowledged_viewed :
    Viewed b (acknowledgeView b (buildRuntimeView b pods)) := by
  obtain ⟨hview,hobserved⟩ := built_viewed pods h
  rw [acknowledgeView]
  split_ifs with hcond
  · exact ⟨hview.pausing,hview.paused,.inr ⟨rfl,hobserved ▸ hcond.2⟩,hview.reported,hview.set⟩
  · exact hview

end

variable {view : RuntimeView}

theorem Viewed.withTasks (h : Viewed b view) (counts : TaskCounts) :
    Viewed b (view.withTasks counts) := { h with }

structure Copy (api b : Sandbox) : Prop where
  older : b.generation ≤ api.generation
  version : b.resourceVersion ≤ api.resourceVersion
  same : b.generation = api.generation → b.pause = api.pause
  bound : b.status.pauseObservedGeneration ≤ b.generation

structure Resuming (api b : Sandbox) : Prop extends Copy api b where
  status : b.status = api.status
  phase : b.status.phase = .resuming

def Acked (api b : Sandbox) : Prop :=
  b.status.phase = .paused → api.status.phase = .paused ∧
    b.status.pauseObservedGeneration = b.generation ∧
    b.generation ≤ api.status.pauseObservedGeneration

def Outdated (expected : Option Nat) (b : Sandbox) : Prop :=
  ∃ version, expected = some version ∧ b.resourceVersion < version

structure Chain (api : Sandbox) (expected : Option Nat) (b : Sandbox) : Prop extends
    Copy api b where
  pausing : b.status.phase ≠ .pausing
  quiet : b.status.phase = .paused → b.status.pauseObservedGeneration < b.generation →
    b.pause ≠ some false
  trust : b.status = api.status ∨ Outdated expected b ∧ Acked api b

def PcOk (api : Sandbox) (expected : Option Nat) : Pc → Prop
  | .resumeClear _ => api.status.pauseObservedGeneration < api.generation
  | .syncPause _ | .complete _ | .detach _ _ | .deletePods _ _ | .finishPause _ =>
    api.status.phase = .pausing
  | .pauseFailed _ phase _ => phase = .failed ∨ phase = .succeed
  | .continueResume b | .resumeProbe b | .resumeReady b | .rollback b _ | .resumePatch b _ _ =>
    Resuming api b
  | .resumeReadyClear b => Chain api expected b ∧ Acked api b ∧ api.status.phase ≠ .paused
  | .podFailedClear b | .rollbackReport b _ => Chain api expected b ∧ Acked api b
  | .scale b => Chain api expected b
  | .runTasks b _ view | .releasePods b view _ _ | .cleanupTasks b view _ | .patchEndpoints b view
  | .persist b view => Chain api expected b ∧ Viewed b view
  | _ => True

def Lost (api : Sandbox) : Prop :=
  api.status.phase = .paused ∧ api.status.pauseObservedGeneration = api.generation ∧
    api.pause = some false ∧ has .resumeFailed api.status.conditions = false

structure Tracked (api : Sandbox) (expected : Option Nat) (pc : Pc) : Prop where
  bound : api.status.pauseObservedGeneration ≤ api.generation
  awaited : ∀ version, expected = some version → version ≤ api.resourceVersion
  pausing : api.status.phase = .pausing →
    api.status.pauseObservedGeneration = api.generation → api.pause ≠ some false
  kept : pc.reporting = false → ¬ Lost api
  pc : PcOk api expected pc

structure Grown (api api' : Sandbox) : Prop where
  status : api'.status = api.status
  generation : api.generation ≤ api'.generation
  version : api.resourceVersion ≤ api'.resourceVersion
  pause : api'.generation = api.generation → api'.pause = api.pause

variable {api api' : Sandbox}

theorem Copy.grow (h : Copy api b) (hg : Grown api api') : Copy api' b := by
  refine ⟨h.older.trans hg.generation,h.version.trans hg.version,fun hsame => ?_,h.bound⟩
  have hle := h.older
  have hge := hg.generation
  have heq : b.generation = api.generation := by omega
  rw [h.same heq,hg.pause (by omega)]

theorem Resuming.grow (h : Resuming api b) (hg : Grown api api') : Resuming api' b :=
  ⟨h.toCopy.grow hg,h.status.trans hg.status.symm,h.phase⟩

theorem Acked.grow (h : Acked api b) (hg : Grown api api') : Acked api' b := by
  rwa [Acked,hg.status]

variable {expected : Option Nat}

theorem Chain.grow (h : Chain api expected b) (hg : Grown api api') : Chain api' expected b :=
  ⟨h.toCopy.grow hg,h.pausing,h.quiet,
    h.trust.imp (fun hs => hs.trans hg.status.symm) fun hs => ⟨hs.1,hs.2.grow hg⟩⟩

variable {pc : Pc}

theorem PcOk.grow (h : PcOk api expected pc) (hg : Grown api api') : PcOk api' expected pc := by
  have hstatus := hg.status
  cases pc with
  | resumeClear b =>
    change api'.status.pauseObservedGeneration < api'.generation
    rw [hstatus]
    exact Nat.lt_of_lt_of_le h hg.generation
  | syncPause | complete | detach | deletePods | finishPause =>
    exact (congrArg Status.phase hstatus).trans h
  | pauseFailed b phase report => exact h
  | continueResume | resumeProbe | resumeReady | rollback | resumePatch =>
    exact Resuming.grow h hg
  | resumeReadyClear b =>
    refine ⟨h.1.grow hg,h.2.1.grow hg,fun hp => h.2.2 ?_⟩
    exact (congrArg Status.phase hstatus).symm.trans hp
  | podFailedClear b | rollbackReport b report => exact ⟨h.1.grow hg,h.2.grow hg⟩
  | scale b => exact Chain.grow h hg
  | runTasks | releasePods | cleanupTasks | patchEndpoints | persist => exact ⟨h.1.grow hg,h.2⟩
  | _ => trivial

variable {pc' : Pc}

theorem Tracked.grow (h : Tracked api expected pc) (hg : Grown api api')
    (hreporting : pc'.reporting = false → pc.reporting = false)
    (hpc : PcOk api expected pc → PcOk api expected pc') : Tracked api' expected pc' := by
  have hsame (heq : api'.status.pauseObservedGeneration = api'.generation) :
      api.status.pauseObservedGeneration = api.generation ∧ api'.pause = api.pause := by
    have hle := h.bound
    have hge := hg.generation
    rw [hg.status] at heq
    exact ⟨by omega,hg.pause (by omega)⟩
  refine ⟨?_,fun v hv => (h.awaited v hv).trans hg.version,fun hphase heq => ?_,
    fun hrep hlost => ?_,(hpc h.pc).grow hg⟩
  · rw [hg.status]
    exact h.bound.trans hg.generation
  · obtain ⟨heq',hpause⟩ := hsame heq
    rw [hpause]
    exact h.pausing (hg.status ▸ hphase) heq'
  · obtain ⟨hphase,heq,hpause,hhas⟩ := hlost
    obtain ⟨heq',hpause'⟩ := hsame heq
    exact h.kept (hreporting hrep) ⟨hg.status ▸ hphase,heq',hpause' ▸ hpause,hg.status ▸ hhas⟩

theorem grown_refl (api : Sandbox) : Grown api api := ⟨rfl,le_rfl,le_rfl,fun _ => rfl⟩

variable {s : State}

theorem grown_edit {f : Sandbox → Sandbox} (hf : (f s.api).status = s.api.status) :
    Grown s.api (s.editSpec f).api :=
  ⟨hf,Nat.le_succ _,Nat.le_succ _,fun h => absurd h (Nat.succ_ne_self _)⟩

theorem grown_meta (hstatus : api'.status = api.status) (hgen : api'.generation = api.generation)
    (hpause : api'.pause = api.pause) (hversion : api.resourceVersion ≤ api'.resourceVersion) :
    Grown api api' :=
  ⟨hstatus,hgen.ge,hversion,fun _ => hpause⟩

theorem Tracked.hop (h : Tracked api expected pc)
    (hreporting : pc'.reporting = false → pc.reporting = false)
    (hpc : PcOk api expected pc → PcOk api expected pc') : Tracked api expected pc' :=
  h.grow (grown_refl api) hreporting hpc

theorem begin_ok (hbound : api.status.pauseObservedGeneration ≤ api.generation) :
    PcOk api expected (beginReconcile api) := by
  have hcopy : Copy api api := ⟨le_rfl,le_rfl,fun _ => rfl,hbound⟩
  have h := reconcile_begins api
  generalize beginReconcile api = pc at h ⊢
  cases h with
  | rest h => obtain rfl | rfl := h <;> trivial
  | resume hphase => exact ⟨hcopy,rfl,hphase⟩
  | sync hphase => exact hphase
  | pause | reject => trivial
  | clear _ hnew => exact hnew
  | scale _ hpausing hnone => exact ⟨hcopy,hpausing,fun _ hnew => hnone hnew ▸ nofun,.inl rfl⟩

theorem ensureSnapshot_ok (b : Sandbox) : PcOk api expected (ensureSnapshot b) := by
  rw [ensureSnapshot]
  split <;> trivial

theorem afterPersist_ok (view : RuntimeView) : PcOk api expected (State.afterPersist view) := by
  rw [State.afterPersist]
  split <;> trivial

theorem afterScale_ok (h : Chain api expected b) (pods : List Pod) :
    PcOk api expected (afterScale b pods) := by
  have hview := acknowledged_viewed pods h.pausing
  rw [afterScale]
  split <;> exact ⟨h,hview⟩

theorem Hop.tracked (h : Hop s pc pc') (ht : Tracked s.api s.expected pc) :
    Tracked s.api s.expected pc' := by
  cases h with
  | stop hrep => exact ht.hop (fun _ => hrep) fun _ => trivial
  | start => exact ht.hop (fun _ => rfl) fun _ => begin_ok ht.bound
  | pauseAbsent | pauseStale | pauseFound | syncFailed | stale =>
    exact ht.hop (fun _ => rfl) fun _ => trivial
  | syncMissing _ => exact ht.hop (fun _ => rfl) fun _ => ensureSnapshot_ok _
  | found hphase => exact ht.hop (fun _ => rfl) fun _ => hphase
  | syncSucceed | pooled | deleted | probe | unusable | usable | ready | unready
  | skipped => exact ht.hop (fun _ => rfl) id
  | counted => exact ht.hop (fun _ => rfl) fun hpc => ⟨hpc.1,hpc.2.withTasks _⟩
  | unchanged _ => exact ht.hop (fun _ => rfl) fun _ => afterPersist_ok _

def written (api : Sandbox) (status : Status) : Sandbox :=
  { api with status, resourceVersion := api.resourceVersion + 1 }

def awaiting (api : Sandbox) : Option Nat := some (api.resourceVersion + 1)

theorem Copy.written (h : Copy api b) (status : Status) : Copy (written api status) b :=
  ⟨h.older,h.version.trans (Nat.le_succ _),h.same,h.bound⟩

theorem Chain.condition (h : Chain api expected b) (hacked : Acked api b)
    (f : List Condition → List Condition) :
    let api' := written api { api.status with conditions := f api.status.conditions }
    Chain api' (awaiting api) b ∧ Acked api' b :=
  ⟨⟨h.toCopy.written _,h.pausing,h.quiet,.inr ⟨⟨_,rfl,Nat.lt_succ_of_le h.version⟩,hacked⟩⟩,hacked⟩

variable {f : List Condition → List Condition}

theorem Tracked.condition (h : Tracked api expected pc)
    (hkept : pc'.reporting = false →
      ¬ Lost (written api { api.status with conditions := f api.status.conditions }))
    (hpc : PcOk (written api { api.status with conditions := f api.status.conditions })
      (awaiting api) pc') :
    Tracked (written api { api.status with conditions := f api.status.conditions })
      (awaiting api) pc' := by
  refine ⟨h.bound,fun version hv => ?_,h.pausing,hkept,hpc⟩
  cases hv
  exact le_rfl

theorem Tracked.kept_condition (h : Tracked api expected pc) (hreporting : pc.reporting = false)
    (hf : has .resumeFailed api.status.conditions = true →
      has .resumeFailed (f api.status.conditions) = true) :
    ¬ Lost (written api { api.status with conditions := f api.status.conditions }) := by
  rintro ⟨hphase,hobserved,hpause,hhas⟩
  have hold : has .resumeFailed api.status.conditions = false := by
    rw [Bool.eq_false_iff]
    intro htrue
    have hnew : has .resumeFailed (f api.status.conditions) = false := hhas
    rw [hf htrue] at hnew
    cases hnew
  exact h.kept hreporting ⟨hphase,hobserved,hpause,hold⟩

def ackStatus (api : Sandbox) (phase : Phase) : Status :=
  { api.status.enter phase with pauseObservedGeneration := api.generation }

theorem Tracked.ack (_h : Tracked api expected pc) {phase : Phase}
    (hpausing : phase = .pausing → api.pause ≠ some false)
    (hpaused : pc'.reporting = false → phase = .paused → api.pause ≠ some false)
    (hpc : PcOk (written api (ackStatus api phase)) (awaiting api) pc') :
    Tracked (written api (ackStatus api phase)) (awaiting api) pc' := by
  refine ⟨le_rfl,fun version hv => ?_,fun hphase _ => hpausing hphase,fun hrep hlost => ?_,hpc⟩
  · cases hv
    exact le_rfl
  · exact hpaused hrep hlost.1 hlost.2.2.1

theorem Resuming.acked_chain {api b : Sandbox} (h : Resuming api b) {phase : Phase}
    (hphase : phase ≠ .pausing) :
    Chain (written api (ackStatus api phase)) (awaiting api) (acked b phase) ∧
      Acked (written api (ackStatus api phase)) (acked b phase) := by
  have hacked : Acked (written api (ackStatus api phase)) (acked b phase) := fun hp =>
    ⟨hp,rfl,h.older⟩
  refine ⟨⟨⟨h.older,h.version.trans (Nat.le_succ _),h.same,le_rfl⟩,hphase,
    fun _ hlt => absurd hlt (Nat.lt_irrefl _),.inr ⟨?_,hacked⟩⟩,hacked⟩
  exact ⟨_,rfl,Nat.lt_succ_of_le h.version⟩

theorem Resuming.chain {api b : Sandbox} {expected : Option Nat} (h : Resuming api b) :
    Chain api expected b ∧ Acked api b :=
  ⟨⟨h.toCopy,by rw [h.phase]; decide,fun hp => absurd (h.phase.symm.trans hp) (by decide),
    .inl h.status⟩,fun hp => absurd (h.phase.symm.trans hp) (by decide)⟩

def Pc.acknowledgesPause : Pc → Bool
  | .pauseAck _ _ | .pauseReject _ _ => true
  | _ => false

def Timely (s : State) : Action → Prop
  | .run _ => s.pc.acknowledgesPause = true → s.api.pause ≠ some false
  | .fail | .restart => s.pc.reporting = false
  | _ => True

theorem merged_phase (old : Status) (latest : Sandbox) (h : view.status.phase ≠ .unset) :
    (old.mergePatch (mergedStatus latest view)).phase = view.status.phase := by
  change (if view.status.phase = .unset then old.phase else view.status.phase) = _
  rw [if_neg h]

theorem merged_observed (old : Status) (latest : Sandbox) (view : RuntimeView) :
    (old.mergePatch (mergedStatus latest view)).pauseObservedGeneration =
      view.status.pauseObservedGeneration ∨
    (old.mergePatch (mergedStatus latest view)).pauseObservedGeneration =
      old.pauseObservedGeneration := by
  change (if view.status.pauseObservedGeneration = 0 then old.pauseObservedGeneration
    else view.status.pauseObservedGeneration) = _ ∨ _
  split
  · exact .inr (if_pos (by assumption))
  · exact .inl rfl

theorem Copy.view_le (h : Copy api b) (hv : Viewed b view) :
    view.status.pauseObservedGeneration ≤ api.generation := by
  have hbound := h.bound
  have holder := h.older
  rcases hv.observed with hobs | ⟨hobs,_⟩ <;> omega

section

variable (h : Tracked api expected pc)

include h

theorem Tracked.patch {latest : Sandbox} (hcopy : Copy api b)
    (hv : Viewed b view) (hkept : view.status.phase = .paused → api.pause = some false →
      (api.status.mergePatch (mergedStatus latest view)).pauseObservedGeneration = api.generation →
      has .resumeFailed (mergeLifecycleConditions view.status.conditions
        latest.status.conditions) = true) :
    Tracked (written api (api.status.mergePatch (mergedStatus latest view))) (awaiting api)
      (State.afterPersist view) := by
  have hphase := merged_phase api.status latest hv.set
  refine ⟨?_,fun version hversion => ?_,fun hp => ?_,fun _ hlost => ?_,afterPersist_ok view⟩
  · change (api.status.mergePatch (mergedStatus latest view)).pauseObservedGeneration ≤ _
    rcases merged_observed api.status latest view with hobs | hobs
    · rw [hobs]
      exact hcopy.view_le hv
    · rw [hobs]
      exact h.bound
  · cases hversion
    exact le_rfl
  · exact absurd (hphase.symm.trans hp) hv.pausing
  · obtain ⟨hp,hobs,hpause,hhas⟩ := hlost
    have hmerged := @mergePatch_has api.status (mergedStatus latest view)
      (hkept (hphase.symm.trans hp) hpause hobs)
    cases hmerged.symm.trans hhas

variable (hreporting : pc.reporting = false)

include hreporting

theorem Tracked.has_of_lost (hphase : api.status.phase = .paused)
    (hobs : api.status.pauseObservedGeneration = api.generation) (hpause : api.pause = some false) :
    has .resumeFailed api.status.conditions = true := by
  by_contra hhas
  exact h.kept hreporting ⟨hphase,hobs,hpause,Bool.eq_false_iff.mpr hhas⟩

theorem Tracked.persist_synced {latest : Sandbox} (hc : Chain api expected b)
    (hsame : b.status = api.status) (hv : Viewed b view) :
    Tracked (written api (api.status.mergePatch (mergedStatus latest view))) (awaiting api)
      (State.afterPersist view) := by
  refine h.patch hc.toCopy hv fun hphase hpause hobs => has_merge_desired ?_
  have hpaused := hv.paused hphase
  have hdone (hold : api.status.pauseObservedGeneration = api.generation) :
      has .resumeFailed view.status.conditions = true := by
    refine hv.reported (hsame ▸ ?_)
    exact h.has_of_lost hreporting (hsame ▸ hpaused) hold hpause
  rcases merged_observed api.status latest view with hview | hold
  · rcases hv.observed with hobserved | ⟨hobserved,hlt⟩
    · refine hdone ?_
      rwa [← hsame,← hobserved,← hview]
    · have hgen : b.generation = api.generation := by rw [← hobserved,← hview,hobs]
      exact absurd ((hc.same hgen).trans hpause) (hc.quiet hpaused hlt)
  · exact hdone (hold.symm.trans hobs)

theorem Tracked.persist_outdated (hc : Chain api expected b) (hacked : Acked api b)
    (hv : Viewed b view) :
    Tracked (written api (api.status.mergePatch (mergedStatus api view))) (awaiting api)
      (State.afterPersist view) := by
  refine h.patch hc.toCopy hv fun hphase hpause hobs => has_merge_latest ?_
  obtain ⟨hpaused,hown,hle⟩ := hacked (hv.paused hphase)
  refine h.has_of_lost hreporting hpaused ?_ hpause
  have hbound := h.bound
  rcases merged_observed api.status api view with hview | hold
  · rcases hv.observed with hobserved | ⟨hobserved,_⟩ <;> omega
  · exact hold.symm.trans hobs

end

theorem not_outdated (h : s.satisfied b = true) : ¬ Outdated s.expected b := by
  rintro ⟨version,hversion,hlt⟩
  rw [State.satisfied,hversion] at h
  have hle := of_decide_eq_true h
  omega

theorem Tracked.here (h : Tracked api expected pc) (hpc : pc = pc') : PcOk api expected pc' :=
  hpc ▸ h.pc

variable {t : State}

theorem Turn.tracked {input : Input} (h : Turn s input t) (ht : Tracked s.api s.expected s.pc)
    (htimely : s.pc.acknowledgesPause = true → s.api.pause ≠ some false) :
    Tracked t.api t.expected t.pc := by
  cases h with
  | hop hop => exact hop.tracked ht
  | addFinalizer hpc =>
    exact ht.grow (grown_meta rfl rfl rfl (Nat.le_succ _)) (fun _ => hpc ▸ rfl) fun _ => trivial
  | reject hpc =>
    have hpause : s.api.pause ≠ some false := htimely (hpc ▸ rfl)
    exact ht.ack (fun _ => hpause) (fun _ _ => hpause) trivial
  | report hpc =>
    refine ht.condition (fun _ => ht.kept_condition (hpc ▸ rfl) has_setTrue) trivial
  | pauseDelete hpc | createSnapshot hpc | cleanupDelete hpc =>
    exact ht.hop (fun _ => hpc ▸ rfl) fun _ => trivial
  | pauseClear hpc =>
    exact ht.condition (fun _ => ht.kept_condition (hpc ▸ rfl) (has_setFalse (by decide))) trivial
  | pauseAck hpc hnext =>
    have hpause : s.api.pause ≠ some false := htimely (hpc ▸ rfl)
    refine ht.ack (fun _ => hpause) (fun _ _ => hpause) ?_
    rcases hnext with rfl | ⟨_,rfl⟩
    · trivial
    · exact ensureSnapshot_ok _
  | stopTasks hpc _ _ hnext =>
    rcases hnext with rfl | rfl <;> exact ht.hop (fun _ => hpc ▸ rfl) fun _ => trivial
  | resumeClear hpc =>
    have hlt : s.api.status.pauseObservedGeneration < s.api.generation := ht.here hpc
    refine ht.condition (fun _ hlost => ?_) trivial
    exact absurd hlost.2.1 (Nat.ne_of_lt hlt)
  | resumeAck hpc => exact ht.ack nofun nofun trivial
  | @pauseFailed b phase report hpc =>
    obtain rfl | rfl : phase = .failed ∨ phase = .succeed := ht.here hpc
    all_goals exact ht.ack nofun nofun trivial
  | @detach b template hpc =>
    have hphase : s.api.status.phase = .pausing := ht.here hpc
    have hgrown : Grown s.api (s.editSpec fun api =>
        { api with template := some template, poolRef := "", release := [] }).api := grown_edit rfl
    exact ht.grow hgrown (fun _ => hpc ▸ rfl) fun _ => hphase
  | unpooled hpc _ | deletePod hpc | cleanupTasks hpc =>
    have hheld := ht.here hpc
    exact ht.hop (fun _ => hpc ▸ rfl) fun _ => hheld
  | finishPause hpc =>
    have hphase : s.api.status.phase = .pausing := ht.here hpc
    refine ⟨?_,fun version hv => ?_,nofun,fun _ hlost => ?_,trivial⟩
    · change (if s.api.pause = some true then s.api.generation
        else s.api.status.pauseObservedGeneration) ≤ s.api.generation
      split
      · exact le_rfl
      · exact ht.bound
    · cases hv
      exact le_rfl
    · obtain ⟨_,hobs,hpause,_⟩ := hlost
      have hpause' : s.api.pause = some false := hpause
      change (if s.api.pause = some true then s.api.generation
        else s.api.status.pauseObservedGeneration) = s.api.generation at hobs
      rw [if_neg (by rw [hpause']; decide)] at hobs
      exact ht.pausing hphase hobs hpause'
  | @resumeReady b hpc =>
    have hres : Resuming s.api b := ht.here hpc
    obtain ⟨hchain,hacked⟩ := @Resuming.acked_chain s.api b hres .succeed (by decide)
    exact ht.ack nofun nofun ⟨hchain,hacked,nofun⟩
  | @resumeReadyClear b hpc =>
    obtain ⟨hchain,hacked,hphase⟩ : Chain s.api s.expected b ∧ Acked s.api b ∧
        s.api.status.phase ≠ .paused := ht.here hpc
    exact ht.condition (fun _ hlost => hphase hlost.1) (hchain.condition hacked _)
  | @podFailedClear b hpc =>
    obtain ⟨hchain,hacked⟩ : Chain s.api s.expected b ∧ Acked s.api b := ht.here hpc
    exact ht.condition (fun _ => ht.kept_condition (hpc ▸ rfl) (has_setFalse (by decide)))
      (hchain.condition hacked _).1
  | @rollback b report hpc =>
    have hres : Resuming s.api b := ht.here hpc
    exact ht.ack nofun nofun
      (@Resuming.acked_chain s.api b hres .paused (by decide))
  | @rollbackReport b report hpc =>
    obtain ⟨hchain,hacked⟩ : Chain s.api s.expected b ∧ Acked s.api b := ht.here hpc
    refine ht.condition (fun _ hlost => ?_) (hchain.condition hacked _).1
    cases hlost.2.2.2.symm.trans (has_set _ _ _ _)
  | @resumePatch b uid containers hpc =>
    have hres : Resuming s.api b := ht.here hpc
    have hgrown : Grown s.api (s.patchResume uid containers).api := by
      rw [State.patchResume]
      split
      · exact grown_refl _
      · exact grown_edit rfl
    have hexpected : (s.patchResume uid containers).expected = s.expected := by
      rw [State.patchResume]
      split <;> rfl
    have hnext : Tracked (s.patchResume uid containers).api s.expected .idle :=
      ht.grow hgrown (fun _ => hpc ▸ rfl) fun _ => trivial
    refine ⟨hnext.bound,hexpected ▸ hnext.awaited,hnext.pausing,hnext.kept,?_⟩
    have hstatus : b.status = (s.patchResume uid containers).api.status :=
      hres.status.trans hgrown.status.symm
    have hphase : b.status.phase = .resuming := hres.phase
    refine ⟨⟨le_rfl,le_rfl,fun _ => rfl,?_⟩,?_,fun hp => ?_,.inl hstatus⟩
    · change b.status.pauseObservedGeneration ≤ _
      rw [hstatus]
      exact hnext.bound
    · change b.status.phase ≠ .pausing
      rw [hphase]
      decide
    · have hp' : b.status.phase = .paused := hp
      rw [hphase] at hp'
      cases hp'
  | unscaled hpc _ => exact ht.hop (fun _ => hpc ▸ rfl) fun _ => trivial
  | scaled hpc _ =>
    exact ht.hop (fun _ => hpc ▸ rfl) fun _ => afterScale_ok (ht.here hpc) _
  | runTasks hpc _ _ hnext =>
    have hheld := ht.here hpc
    rcases hnext with rfl | rfl <;> exact ht.hop (fun _ => hpc ▸ rfl) fun _ => hheld
  | releasePods hpc | dropFinalizer hpc | patchEndpoints hpc =>
    have hheld := ht.here hpc
    exact ht.grow (grown_meta rfl rfl rfl (Nat.le_succ _)) (fun _ => hpc ▸ rfl) fun _ => hheld
  | @persist b view hpc hsatisfied =>
    obtain ⟨hchain,hview⟩ : Chain s.api s.expected b ∧ Viewed b view := ht.here hpc
    rcases hchain.trust with hsame | ⟨hout,_⟩
    · exact ht.persist_synced (hpc ▸ rfl) hchain hsame hview
    · exact absurd hout (not_outdated hsatisfied)
  | @persistLatest b view hpc _ =>
    obtain ⟨hchain,hview⟩ : Chain s.api s.expected b ∧ Viewed b view := ht.here hpc
    rcases hchain.trust with hsame | ⟨_,hacked⟩
    · exact ht.persist_synced (hpc ▸ rfl) hchain hsame hview
    · exact ht.persist_outdated (hpc ▸ rfl) hchain hacked hview

theorem PcOk.fail (h : PcOk api expected pc) : PcOk api expected (onFailure pc) := by
  cases pc with
  | resumeReady b =>
    have hres : Resuming api b := h
    obtain ⟨hchain,hacked⟩ := @Resuming.chain api b expected hres
    refine ⟨hchain,hacked,fun hp => ?_⟩
    rw [← hres.status,hres.phase] at hp
    cases hp
  | pauseFind b message => exact .inl rfl
  | resumeReadyClear b => exact ⟨h.1,h.2.1⟩
  | podFailedClear | rollbackReport => exact h.1
  | rollback b report => exact Resuming.chain h
  | runTasks | releasePods | cleanupTasks | patchEndpoints => exact h
  | _ => trivial

theorem Move.tracked {a : Action} (h : Move s a t) (ht : Tracked s.api s.expected s.pc)
    (htimely : Timely s a) : Tracked t.api t.expected t.pc := by
  have hedit {f : Sandbox → Sandbox} (hf : (f s.api).status = s.api.status) :
      Tracked (s.editSpec f).api (s.editSpec f).expected (s.editSpec f).pc :=
    ht.grow (grown_edit hf) id id
  cases h with
  | turn hturn => exact hturn.tracked ht htimely
  | fail => exact ht.hop (fun _ => htimely) PcOk.fail
  | restart =>
    exact ⟨ht.bound,nofun,ht.pausing,fun _ => ht.kept htimely,trivial⟩
  | editPause | editOther | editTemplate | editPool => exact hedit rfl
  | deleteSandbox | allocate => exact ht.grow (grown_meta rfl rfl rfl (Nat.le_succ _)) id id
  | _ => exact ht

theorem created_tracked (h : Created s) : Tracked s.api s.expected s.pc := by
  refine ⟨?_,fun version hv => ?_,fun hp => ?_,fun _ hlost => ?_,?_⟩
  · rw [h.status]
    exact Nat.zero_le _
  · cases h.expected.symm.trans hv
  · rw [h.status] at hp
    cases hp
  · rw [Lost,h.status] at hlost
    cases hlost.1
  · rw [h.pc]
    trivial

theorem Reachable.tracked (h : Reachable Timely s) : Tracked s.api s.expected s.pc :=
  h.invariant (fun s => Tracked s.api s.expected s.pc) (fun _ hs => created_tracked hs)
    (fun _ _ _ hs hok hmove => hmove.tracked hs hok) fun _ hs => hs

def Answered (api : Sandbox) : Prop :=
  api.status.phase ≠ .pausing → api.status.phase ≠ .resuming →
    api.status.pauseObservedGeneration = api.generation →
    api.status.phase = .paused → api.pause ≠ some false ∨
      has .resumeFailed api.status.conditions = true

theorem answered_of_not_lost (h : ¬ Lost api) : Answered api := by
  intro _ _ hobs hphase
  by_contra hneither
  rw [not_or,not_not] at hneither
  exact h ⟨hphase,hobs,hneither.1,Bool.eq_false_iff.mpr hneither.2⟩

theorem reported_next {input : Input} (hreporting : s.pc.reporting = true)
    (h : s.step (.run input) = some t) : has .resumeFailed t.api.status.conditions = true := by
  obtain ⟨u,hu,rfl⟩ := Option.map_eq_some_iff.mp h
  obtain ⟨b,report,hpc⟩ : ∃ b report, s.pc = .rollbackReport b report := by
    revert hreporting
    cases s.pc with
    | rollbackReport b report => exact fun _ => ⟨b,report,rfl⟩
    | _ => exact nofun
  rw [State.act,State.run,hpc] at hu
  cases hu
  exact has_set _ _ _ _

theorem requests_answered {s : State} (h : Reachable Timely s) :
    (s.pc.reporting = false → Answered s.api) ∧
      (s.pc.reporting = true → ∀ input t, s.step (.run input) = some t →
        has .resumeFailed t.api.status.conditions = true) :=
  ⟨fun hreporting => answered_of_not_lost (h.tracked.kept hreporting),
    fun hreporting _ _ hstep => reported_next hreporting hstep⟩

def booted : List Action := turns 4 ++ .podReport 0 ⟨true,"10.0.0.1",true,true,[]⟩ :: turns 5

instance (s : State) (a : Action) : Decidable (Timely s a) := by unfold Timely; induction a using Action.casesOn <;> infer_instance

theorem requests_answered_rolled_back :
    ∃ s, Reachable Timely s ∧ s.api.status.phase = .paused ∧ s.api.pause = some false ∧
      s.api.status.pauseObservedGeneration = s.api.generation ∧
      has .resumeFailed s.api.status.conditions = true := by
  obtain ⟨s,hs,hreporting,hphase,hpause,hobs⟩ :
      ∃ s ∈ Runs.follow (fun s a => if Timely s a then s.step a else none) plainSandbox
        (booted ++ .editPause (some true) :: turns 5 ++
          .resolveSnapshot :: .commitSucceed (some ("InvalidSnapshot", "no image")) :: turns 6 ++
          .editPause (some false) :: turns 7),
        s.pc.reporting = false ∧ s.api.status.phase = .paused ∧ s.api.pause = some false ∧
          s.api.status.pauseObservedGeneration = s.api.generation := by
    decide
  have hreach : Reachable Timely s :=
    Runs.Reach.follow_checked (.start plainSandbox_created) hs
  refine ⟨s,hreach,hphase,hpause,hobs,?_⟩
  have hanswered := (requests_answered hreach).1 hreporting
  refine (hanswered ?_ ?_ hobs hphase).resolve_left (not_not.mpr hpause)
  · rw [hphase]
    decide
  · rw [hphase]
    decide

theorem resume_request_lost :
    ∃ s, Reachable (fun _ _ => True) s ∧ s.pc = .idle ∧ ¬ Answered s.api := by
  obtain ⟨s,hs,hpc,hphase,hpause,hobs,hhas⟩ : ∃ s ∈ Runs.follow State.step plainSandbox
      (booted ++ .editPause (some true) :: turns 3 ++ .editPause (some false) :: turns 2 ++
        .resolveSnapshot :: .commitSucceed none :: turns 6),
      s.pc = .idle ∧ s.api.status.phase = .paused ∧ s.api.pause = some false ∧
        s.api.status.pauseObservedGeneration = s.api.generation ∧
        has .resumeFailed s.api.status.conditions = false := by
    decide
  refine ⟨s,Runs.Reach.follow (.start plainSandbox_created) (fun _ _ _ => trivial) hs,hpc,
    fun h => ?_⟩
  have hor := h (by rw [hphase]; decide) (by rw [hphase]; decide) hobs hphase
  rcases hor with hne | hset
  · exact hne hpause
  · cases hhas.symm.trans hset

end OpenSandbox.Kubernetes.BatchSandbox
