import OpenSandbox.Kubernetes.BatchSandbox.Model
import OpenSandbox.Library.Runs

namespace OpenSandbox.Kubernetes.BatchSandbox

open Option Bool

open TaskScheduler (ResourcePolicy Scheduler)

section

variable {order : List String} {pods : List Pod} {pod : Pod}

theorem mem_arrange :
    pod ∈ arrange order pods ↔ pod ∈ pods := by
  by_cases h : pod.name ∈ order <;> simp [arrange,h]

theorem mem_listPods {b : Sandbox} :
    pod ∈ listPods b pods order ↔
      if b.poolRef ≠ "" then (pod.name ∈ b.alloc ∧ pod.name ∉ b.release) ∧
        pods.find? (·.name = pod.name) = some pod
      else pod ∈ pods ∧ pod.owned = true := by
  rw [listPods,mem_arrange]
  split
  · simp only [List.mem_filterMap,List.mem_filter,List.mem_dedup,decide_eq_true_eq]
    constructor
    · rintro ⟨name,hname,hfind⟩
      obtain rfl : pod.name = name := by simpa using List.find?_some hfind
      exact ⟨hname,hfind⟩
    · exact fun h => ⟨pod.name,h⟩
  · exact List.mem_filter

theorem mem_sortedPods {b : Sandbox} :
    pod ∈ sortedPods b pods order ↔ pod ∈ listPods b pods order := List.mem_insertionSort _

end

def Pc.reporting : Pc → Bool
  | .rollbackReport _ _ => true
  | _ => false

inductive Begins (b : Sandbox) : Pc → Prop
  | rest {pc} : pc = .idle ∨ pc = .addFinalizer → Begins b pc
  | resume : b.status.phase = .resuming → Begins b (.continueResume b)
  | sync : b.status.phase = .pausing → Begins b (.syncPause b)
  | pause : b.status.phase ≠ .pausing → Begins b (.pauseCheck b)
  | reject {phase} : b.status.phase ≠ .pausing → b.replicas ≠ some 1 →
      (phase = .paused → b.status.phase = .paused) → Begins b (.pauseReject b phase)
  | clear : b.status.phase ≠ .pausing → b.status.pauseObservedGeneration < b.generation →
      Begins b (.resumeClear b)
  | scale : b.status.phase ≠ .resuming → b.status.phase ≠ .pausing →
      (b.status.pauseObservedGeneration < b.generation → b.pause = none) → Begins b (.scale b)

theorem dispatch_begins (b : Sandbox) : Begins b (dispatchPauseResume b) := by
  fun_cases dispatchPauseResume b
  · exact .resume ‹_›
  · exact .sync ‹_›
  · rename_i hpausing _ _
    rw [handlePause]
    split_ifs with hone hunset
    · exact .pause hpausing
    · exact .reject hpausing hone nofun
    · exact .reject hpausing hone id
  · exact .clear ‹_› ‹_›
  · exact .scale ‹_› ‹_› fun _ => ‹_›
  · rename_i hold
    exact .scale ‹_› ‹_› fun hnew => absurd hnew hold

theorem reconcile_begins (b : Sandbox) : Begins b (beginReconcile b) := by
  fun_cases beginReconcile b
  · exact dispatch_begins b
  · exact .rest (.inl rfl)
  · exact .rest (.inr rfl)
  · exact dispatch_begins b

inductive Hop (s : State) : Pc → Pc → Prop
  | stop {pc} : pc.reporting = false → Hop s pc .idle
  | start : Hop s .idle (beginReconcile s.api)
  | pauseAbsent {b} : s.snapshot = none → Hop s (.pauseCheck b) (.pauseClear b false)
  | pauseStale {b snap} : s.snapshot = some snap → snap.deleting = false →
      snap.phase = .failed ∨ snap.phase = .succeed → Hop s (.pauseCheck b) .pauseDelete
  | pauseFound {b snap} : s.snapshot = some snap → snap.deleting = false →
      ¬ (snap.phase = .failed ∨ snap.phase = .succeed) →
      Hop s (.pauseCheck b) (.pauseClear b true)
  | syncMissing {b} : s.snapshot = none → Hop s (.syncPause b) (ensureSnapshot b)
  | syncSucceed {b snap} : s.snapshot = some snap → snap.phase = .succeed →
      Hop s (.syncPause b) (.complete b)
  | syncFailed {b snap} : s.snapshot = some snap → snap.phase = .failed →
      Hop s (.syncPause b) (.pauseFind b (snapshotFailureMessage snap))
  | found {b message phase report} : phase = .failed ∨ phase = .succeed →
      Hop s (.pauseFind b message) (.pauseFailed b phase report)
  | pooled {b order pod rest} : b.poolRef ≠ "" →
      listPods b s.pods order = pod :: rest → Hop s (.complete b) (.detach b pod.containers)
  | deleted {b} : Hop s (.deletePods b []) (.finishPause b)
  | probe {b} : s.snapshot = none → Hop s (.continueResume b) (.resumeProbe b)
  | unusable {b report} : Hop s (.continueResume b) (.rollback b report)
  | usable {b snap} : s.snapshot = some snap → snap.phase = .succeed →
      Hop s (.continueResume b) (.resumePatch b snap.uid snap.containers)
  | ready {b} : hasReadyResumePod b s.pods = true → Hop s (.resumeProbe b) (.resumeReady b)
  | unready {b report} : Hop s (.resumeProbe b) (.rollback b report)
  | counted {b view counts} :
      Hop s (.cleanupTasks b view counts) (.patchEndpoints b (view.withTasks counts))
  | skipped {b view} : Hop s (.patchEndpoints b view) (.persist b view)
  | unchanged {b view} : view.status = b.status → Hop s (.persist b view) (State.afterPersist view)
  | stale {snap} : s.snapshot = some snap → snap.phase = .succeed → Hop s .cleanup .cleanupDelete

def State.Makes (s : State) (input : Input) (b : Sandbox) (made : List Pod) : Prop :=
  made = [] ∨ scaleNeeded b = true ∧ ∃ template done, b.template = some template ∧
    s.createPods b template input.rejected [] (missingIndexes b (sortedPods b s.pods input.order)) =
      (made, done)

def State.grow (s : State) (made : List Pod) (creating : List String) : State :=
  { s with
    pods := s.pods ++ made
    nextUid := s.nextUid + made.length
    creating }

inductive Turn (s : State) (input : Input) : State → Prop
  | hop {pc} : Hop s s.pc pc → Turn s input (s.goto pc)
  | addFinalizer : s.pc = .addFinalizer →
      Turn s input ((s.editMeta fun api => { api with taskFinalizer := true }).goto .idle)
  | reject {b phase report} : s.pc = .pauseReject b phase →
      Turn s input ((s.ackPauseWithPhase phase).goto (.pauseReport report))
  | report {report} : s.pc = .pauseReport report →
      Turn s input ((s.setCondition (setTrue .pauseFailed report.reason report.message)).goto .idle)
  | pauseDelete : s.pc = .pauseDelete → Turn s input (s.deleteSnapshot.goto .idle)
  | pauseClear {b found} : s.pc = .pauseClear b found →
      Turn s input ((s.setCondition (setFalse .pauseFailed)).goto (.pauseAck b found))
  | pauseAck {b found pc} : s.pc = .pauseAck b found →
      pc = .idle ∨ found = false ∧ pc = ensureSnapshot (acked b .pausing) →
      Turn s input ((s.ackPauseWithPhase .pausing).goto pc)
  | stopTasks {b sch sch' pc} : s.pc = .stopTasks b →
      enterScheduler s b (listPods b s.pods input.order) input.recovery = some sch →
      runScheduler sch true input.calls = some sch' → pc = .createSnapshot ∨ pc = .idle →
      Turn s input { s with scheduler := some sch', pc }
  | createSnapshot : s.pc = .createSnapshot → s.snapshot = none → Turn s input { s with
        snapshot := some ⟨s.nextUid,.unset,false,none,[],"",none⟩
        nextUid := s.nextUid + 1
        pc := .idle }
  | resumeClear {b} : s.pc = .resumeClear b →
      Turn s input ((s.setCondition (setFalse .resumeFailed)).goto (.resumeAck b))
  | resumeAck {b} : s.pc = .resumeAck b → Turn s input ((s.ackPauseWithPhase .resuming).goto .idle)
  | pauseFailed {b phase report} : s.pc = .pauseFailed b phase report →
      Turn s input ((s.ackPauseWithPhase phase).goto (.pauseReport report))
  | detach {b template} : s.pc = .detach b template →
      Turn s input (({ s with creating := [] }.editSpec fun api =>
        { api with template := some template, poolRef := "", release := [] }).goto
          (.finishPause { b with template := some template, poolRef := "", release := [] }))
  | unpooled {b} : s.pc = .complete b → b.poolRef = "" →
      Turn s input ({ s with creating := [] }.goto
        (.deletePods b ((listPods b s.pods input.order).map Pod.name)))
  | deletePod {b name rest} : s.pc = .deletePods b (name :: rest) →
      Turn s input ((s.deletePod name).goto (.deletePods b rest))
  | finishPause {b} : s.pc = .finishPause b →
      Turn s input ({ s with scheduler := none }.writeStatus (fun status =>
        { status.enter .paused with
          pauseObservedGeneration := if s.api.pause = some true then s.api.generation
            else status.pauseObservedGeneration }) |>.goto .idle)
  | resumeReady {b} : s.pc = .resumeReady b →
      Turn s input ((s.ackPauseWithPhase .succeed).goto (.resumeReadyClear (acked b .succeed)))
  | resumeReadyClear {b} : s.pc = .resumeReadyClear b →
      Turn s input ((s.setCondition (setFalse .resumeFailed)).goto (.podFailedClear b))
  | podFailedClear {b} : s.pc = .podFailedClear b →
      Turn s input ((s.setCondition (setFalse .podFailed)).goto (.scale b))
  | rollback {b report} : s.pc = .rollback b report →
      Turn s input ((s.ackPauseWithPhase .paused).goto (.rollbackReport (acked b .paused) report))
  | rollbackReport {b report} : s.pc = .rollbackReport b report →
      Turn s input ((s.setCondition (setTrue .resumeFailed report.reason report.message)).goto
        (.scale b))
  | resumePatch {b uid containers} : s.pc = .resumePatch b uid containers →
      Turn s input ((s.patchResume uid containers).goto
        (.scale { (s.patchResume uid containers).api with status := b.status }))
  | scaled {b made creating} : s.pc = .scale b → s.Makes input b made →
      Turn s input { s.grow made creating with
        scheduler := dropPausedScheduler b s.scheduler
        pc := afterScale b (sortedPods b s.pods input.order) }
  | unscaled {b made creating} : s.pc = .scale b →
      s.Makes input b made → Turn s input ((s.grow made creating).goto .idle)
  | runTasks {b pods view sch sch' pc} : s.pc = .runTasks b pods view →
      enterScheduler s b pods input.recovery = some sch →
      runScheduler sch b.deleting input.calls = some sch' →
      pc = .cleanupTasks b view (taskCounts sch') ∨
        pc = .releasePods b view (toReleasedPods sch') (taskCounts sch') →
      Turn s input { s with scheduler := some sch', pc }
  | releasePods {b view names counts} : s.pc = .releasePods b view names counts →
      Turn s input ((s.editMeta fun api =>
        { api with release := mergeReleased b.release names }).goto (.cleanupTasks b view counts))
  | cleanupTasks {b view counts} : s.pc = .cleanupTasks b view counts →
      Turn s input { s with scheduler := none, pc := .patchEndpoints b view }
  | dropFinalizer {b view counts} : s.pc = .cleanupTasks b view counts →
      Turn s input { s.editMeta fun api => { api with taskFinalizer := false } with
        scheduler := none
        pc := .patchEndpoints b view }
  | patchEndpoints {b view} : s.pc = .patchEndpoints b view → Turn s input ((s.editMeta fun api =>
      { api with endpoints := some view.endpointIPs }).goto (.persist b view))
  | persist {b view} : s.pc = .persist b view → s.satisfied b = true →
      Turn s input ({ s with expected := none }.patchStatus b view)
  | persistLatest {b view} : s.pc = .persist b view →
      s.satisfied b = false → Turn s input (s.patchStatus s.api view)
  | cleanupDelete : s.pc = .cleanupDelete → Turn s input (s.deleteSnapshot.goto .idle)

theorem Turn.stop {s : State} {input : Input} {pc : Pc} (hpc : s.pc = pc)
    (h : pc.reporting = false) : Turn s input (s.goto .idle) :=
  .hop (.stop (hpc ▸ h))

theorem Turn.hop_from {s : State} {input : Input} {pc pc' : Pc} (hpc : s.pc = pc)
    (h : Hop s pc pc') : Turn s input (s.goto pc') := by
  subst hpc
  exact .hop h

theorem grow_nil (s : State) (creating : List String) :
    s.grow [] creating = { s with creating } := by
  rw [State.grow,List.append_nil]
  rfl

theorem scale_makes {s t : State} {input : Input} {b : Sandbox} {done : Bool}
    (h : (if scaleNeeded b then
      s.scaleBatchSandbox b (sortedPods b s.pods input.order) input.rejected else (s, true)) =
      (t, done)) : ∃ made creating, s.Makes input b made ∧ t = s.grow made creating := by
  split_ifs at h with hneeded
  · revert h
    fun_cases State.scaleBatchSandbox <;> intro h <;> cases h
    · exact ⟨[],_,.inl rfl,(grow_nil s _).symm⟩
    · exact ⟨[],_,.inl rfl,(grow_nil s _).symm⟩
    · exact ⟨[],_,.inl rfl,(grow_nil s _).symm⟩
    · rename_i index rest template htemplate hmissing made hmade
      exact ⟨made,_,.inr ⟨hneeded,template,done,htemplate,hmissing ▸ hmade⟩,rfl⟩
  · cases h
    exact ⟨[],s.creating,.inl rfl,(grow_nil s _).symm⟩

theorem run_turn {s t : State} {input : Input} (h : s.run input = some t) : Turn s input t := by
  revert h
  fun_cases State.run s input <;> intro h <;> try cases h
  · exact .hop_from ‹_› .start
  · exact .addFinalizer ‹_›
  · exact .reject ‹_›
  · exact .report ‹_›
  · exact .hop_from ‹_› (.pauseAbsent ‹_›)
  · exact .stop ‹_› rfl
  · exact .hop_from ‹_› (.pauseStale ‹_› (eq_false_iff.mpr ‹_›) ‹_›)
  · exact .hop_from ‹_› (.pauseFound ‹_› (eq_false_iff.mpr ‹_›) ‹_›)
  · exact .pauseDelete ‹_›
  · exact .pauseClear ‹_›
  · rename_i found hpc
    refine .pauseAck hpc ?_
    cases found with
    | true => exact .inl rfl
    | false => exact .inr ⟨rfl,rfl⟩
  · obtain ⟨sch,hsch,hrest⟩ := bind_eq_some_iff.mp h
    obtain ⟨sch',hrun,rfl⟩ := map_eq_some_iff.mp hrest
    refine .stopTasks ‹_› hsch hrun ?_
    split
    · exact .inl rfl
    · exact .inr rfl
  · exact .stop ‹_› rfl
  · exact .createSnapshot ‹_› ‹_›
  · exact .resumeClear ‹_›
  · exact .resumeAck ‹_›
  · exact .hop_from ‹_› (.syncMissing ‹_›)
  · exact .hop_from ‹_› (.syncSucceed ‹_› ‹_›)
  · exact .hop_from ‹_› (.syncFailed ‹_› ‹_›)
  · exact .stop ‹_› rfl
  · exact .hop_from ‹_› (.found (.inl rfl))
  · exact .hop_from ‹_› (.found (.inr rfl))
  · exact .pauseFailed ‹_›
  · exact .stop ‹_› rfl
  · exact .hop_from ‹_› (.pooled ‹_› ‹_›)
  · exact .unpooled ‹_› (not_not.mp ‹_›)
  · exact .detach ‹_›
  · exact .hop_from ‹_› .deleted
  · exact .deletePod ‹_›
  · exact .finishPause ‹_›
  · exact .hop_from ‹_› (.probe ‹_›)
  · exact .hop_from ‹_› .unusable
  · exact .hop_from ‹_› .unusable
  · exact .hop_from ‹_› (.usable ‹_› (not_not.mp ‹_›))
  · exact .hop_from ‹_› (.ready ‹_›)
  · exact .hop_from ‹_› .unready
  · exact .resumeReady ‹_›
  · exact .resumeReadyClear ‹_›
  · exact .podFailedClear ‹_›
  · exact .rollback ‹_›
  · exact .rollbackReport ‹_›
  · exact .resumePatch ‹_›
  · obtain ⟨made,creating,hmade,rfl⟩ := scale_makes ‹_›
    exact .scaled ‹_› hmade
  · obtain ⟨made,creating,hmade,rfl⟩ := scale_makes ‹_›
    exact .unscaled ‹_› hmade
  · obtain ⟨sch,hsch,hrest⟩ := bind_eq_some_iff.mp h
    obtain ⟨sch',hrun,rfl⟩ := map_eq_some_iff.mp hrest
    refine .runTasks ‹_› hsch hrun ?_
    split
    · exact .inl rfl
    · exact .inr rfl
  · exact .releasePods ‹_›
  · unfold Sandbox.dropFinalizer
    split
    · exact .dropFinalizer ‹_›
    · exact .cleanupTasks ‹_›
  · exact .hop_from ‹_› .counted
  · unfold State.patchEndpoints
    split
    · exact .hop_from ‹_› .skipped
    · exact .patchEndpoints ‹_›
  · fun_cases State.persistRuntimeView
    · exact .hop_from ‹_› (.unchanged ‹_›)
    · exact .stop ‹_› rfl
    · exact .persist ‹_› ‹_›
    · exact .persistLatest ‹_› (eq_false_iff.mpr ‹_›)
    · exact .stop ‹_› rfl
  · exact .stop ‹_› rfl
  · exact .hop_from ‹_› (.stale ‹_› ‹_›)
  · exact .stop ‹_› rfl
  · exact .cleanupDelete ‹_›

inductive Stage
  | any
  | pausing
  | other

def Pc.stage : Pc → Stage
  | .idle | .addFinalizer | .pauseReport _ | .cleanup | .cleanupDelete => .any
  | .stopTasks _ | .createSnapshot | .syncPause _ | .pauseFind _ _ | .pauseFailed _ _ _
  | .complete _ | .detach _ _ | .deletePods _ _ | .finishPause _ => .pausing
  | _ => .other

def Stage.Fits (stage : Stage) (phase : Phase) : Prop :=
  match stage with
  | .any => True
  | .pausing => phase = .pausing
  | .other => phase ≠ .pausing

theorem begin_staged (b : Sandbox) : (beginReconcile b).stage.Fits b.status.phase := by
  have h := reconcile_begins b
  generalize beginReconcile b = pc at h ⊢
  cases h with
  | rest h => obtain rfl | rfl := h <;> trivial
  | resume hphase => exact fun hp => nomatch hphase.symm.trans hp
  | sync hphase | pause hphase | reject hphase | clear hphase | scale _ hphase => exact hphase

theorem ensureSnapshot_stage (b : Sandbox) : (ensureSnapshot b).stage = .pausing := by
  rw [ensureSnapshot]
  split <;> rfl

theorem afterPersist_stage (view : RuntimeView) : (State.afterPersist view).stage = .any := by
  rw [State.afterPersist]
  split <;> rfl

theorem afterScale_stage (b : Sandbox) (pods : List Pod) : (afterScale b pods).stage = .other := by
  rw [afterScale]
  split <;> rfl

theorem Hop.staged {s : State} {pc pc' : Pc} (h : Hop s pc pc')
    (hs : pc.stage.Fits s.api.status.phase) : pc'.stage.Fits s.api.status.phase := by
  cases h with
  | stop | stale => trivial
  | start => exact begin_staged s.api
  | syncMissing =>
    rwa [ensureSnapshot_stage]
  | unchanged =>
    rw [afterPersist_stage]
    trivial
  | _ => exact hs

def State.Staged (s : State) : Prop := s.pc.stage.Fits s.api.status.phase

theorem State.Staged.here {s : State} {pc : Pc} (h : s.Staged) (hpc : s.pc = pc) :
    pc.stage.Fits s.api.status.phase := hpc ▸ h

theorem patchResume_status (s : State) (uid : Nat) (containers : List String) :
    (s.patchResume uid containers).api.status = s.api.status := by
  rw [State.patchResume]
  split <;> rfl

theorem Turn.staged {s t : State} {input : Input} (h : Turn s input t) (hs : s.Staged) :
    t.Staged := by
  cases h with
  | hop hop => exact hop.staged hs
  | pauseAck hpc hnext =>
    rcases hnext with rfl | ⟨_,rfl⟩
    · trivial
    · rw [State.Staged,State.goto,ensureSnapshot_stage]
      rfl
  | stopTasks hpc _ _ hnext =>
    have hfits := hs.here hpc
    rcases hnext with rfl | rfl
    · exact hfits
    · trivial
  | resumePatch hpc =>
    have hfits := hs.here hpc
    rwa [State.Staged,State.goto,patchResume_status]
  | scaled hpc _ =>
    have hfits := hs.here hpc
    rwa [State.Staged,afterScale_stage]
  | runTasks hpc _ _ hnext =>
    have hfits := hs.here hpc
    rcases hnext with rfl | rfl <;> exact hfits
  | persist | persistLatest =>
    rw [State.Staged,State.patchStatus,State.goto,afterPersist_stage]
    trivial
  | resumeReady | rollback => exact nofun
  | unpooled hpc | detach hpc | deletePod hpc | pauseClear hpc | resumeClear hpc
  | resumeReadyClear hpc | podFailedClear hpc | rollbackReport hpc | releasePods hpc
  | cleanupTasks hpc | dropFinalizer hpc | patchEndpoints hpc =>
    have hfits := hs.here hpc
    exact hfits
  | _ => trivial

theorem onFailure_stage (pc : Pc) :
    (onFailure pc).stage = .any ∨ (onFailure pc).stage = pc.stage := by
  cases pc <;> first | exact .inl rfl | exact .inr rfl

inductive Move (s : State) : Action → State → Prop
  | turn {input t} : Turn s input t → Move s (.run input) t
  | fail : Move s .fail s.fail
  | restart : Move s .restart s.restart
  | editPause {pause} : Move s (.editPause pause) (s.editSpec fun api => { api with pause })
  | editOther {replicas shardPatches policy taskTemplate} :
      Move s (.editOther replicas shardPatches policy taskTemplate)
        (s.editSpec fun api => { api with replicas, shardPatches, policy, taskTemplate })
  | editTemplate {template} :
      Move s (.editTemplate template) (s.editSpec fun api => { api with template })
  | editPool {poolRef} : Move s (.editPool poolRef) (s.editSpec fun api => { api with poolRef })
  | deleteSandbox : Move s .deleteSandbox (s.editMeta fun api => { api with deleting := true })
  | resolveSnapshot {snap} : s.snapshot = some snap → snap.active = true → snap.deleting = false →
      Move s .resolveSnapshot { s with snapshot := some (s.resolveSource snap) }
  | commitSucceed {snap source pod problem} : s.snapshot = some snap →
      snap.source = some source → snap.phase = .committing →
      s.pods.find? (·.uid = source) = some pod →
      Move s (.commitSucceed problem) { s with
        snapshot := some { snap with phase := .succeed, problem }
        lineage := Function.update s.lineage snap.uid (s.carries pod) }
  | commitFail {snap message} : s.snapshot = some snap → snap.phase = .committing →
      Move s (.commitFail message) { s with
        snapshot := some { snap with phase := .failed, failureMessage := message } }
  | snapshotGone {snap} : s.snapshot = some snap → snap.deleting = true →
      Move s .snapshotGone { s with snapshot := none }
  | podReport {uid report} : Move s (.podReport uid report) { s with
        pods := s.pods.map fun pod => if pod.uid = uid then pod.observe report else pod }
  | podGone {uid} : (s.pods.any fun pod => pod.uid == uid && pod.deleting) = true →
      Move s (.podGone uid) { s with pods := s.pods.filter fun pod => pod.uid ≠ uid }
  | poolPod {name label containers} : (s.pods.any fun pod => pod.name == name) = false →
      Move s (.poolPod name label containers) { s with
        pods := s.pods ++ [{ newPod s.api containers s.nextUid 0 with name, owned := false, label }]
        nextUid := s.nextUid + 1 }
  | poolDelete {name} : ¬ (s.api.poolRef ≠ "" ∧ name ∈ s.api.alloc) →
      Move s (.poolDelete name) { s with
        pods := s.pods.map fun pod =>
          if pod.name = name ∧ pod.owned = false then { pod with deleting := true } else pod }
  | allocate {name} : s.api.poolRef ≠ "" → s.api.alloc.length < s.api.replicas.getD 0 →
      (s.pods.any fun pod => pod.name == name && !pod.owned && !pod.deleting) = true →
      Move s (.allocate name) (s.editMeta fun api => { api with alloc := api.alloc ++ [name] })

theorem act_move {s t : State} {a : Action} (h : s.act a = some t) : Move s a t := by
  revert h
  fun_cases State.act s a <;> intro h <;> try cases h
  · exact .turn (run_turn h)
  · exact .fail
  · exact .restart
  · exact .editPause
  · exact .editOther
  · exact .editTemplate
  · exact .editPool
  · exact .deleteSandbox
  · obtain ⟨snap,hsnap,hrest⟩ := bind_eq_some_iff.mp h
    obtain ⟨hphase,hrest⟩ := ite_none_right_eq_some.mp hrest
    cases hrest
    exact .resolveSnapshot hsnap hphase.1 hphase.2
  · obtain ⟨snap,hsnap,hrest⟩ := bind_eq_some_iff.mp h
    obtain ⟨source,hsource,hrest⟩ := bind_eq_some_iff.mp hrest
    obtain ⟨hphase,hrest⟩ := ite_none_right_eq_some.mp hrest
    obtain ⟨pod,hpod,rfl⟩ := map_eq_some_iff.mp hrest
    exact .commitSucceed hsnap hsource hphase hpod
  · obtain ⟨snap,hsnap,hrest⟩ := bind_eq_some_iff.mp h
    obtain ⟨hphase,hrest⟩ := ite_none_right_eq_some.mp hrest
    cases hrest
    exact .commitFail hsnap hphase
  · obtain ⟨snap,hsnap,hrest⟩ := bind_eq_some_iff.mp h
    obtain ⟨hdeleting,hrest⟩ := ite_none_right_eq_some.mp hrest
    cases hrest
    exact .snapshotGone hsnap hdeleting
  · exact .podReport
  · exact .podGone ‹_›
  · exact .poolPod (eq_false_iff.mpr ‹_›)
  · exact .poolDelete ‹_›
  · rename_i hfree
    exact .allocate hfree.1 hfree.2.1 hfree.2.2

def Reachable (ok : State → Action → Prop) : State → Prop :=
  Runs.Reach (fun s a t => s.step a = some t) ok Created

theorem Reachable.invariant {ok : State → Action → Prop} (inv : State → Prop)
    (hinit : ∀ s, Created s → inv s) (hmove : ∀ s a t, inv s → ok s a → Move s a t → inv t)
    (hnote : ∀ s, inv s → inv s.note) {s : State} (h : Reachable ok s) : inv s := by
  refine @Runs.Reach.invariant _ _ _ _ _ inv hinit (fun s a t hs hok hstep => ?_) s h
  obtain ⟨u,hu,rfl⟩ := map_eq_some_iff.mp hstep
  exact hnote u (hmove s a u hs hok (act_move hu))

theorem Move.staged {s t : State} {a : Action} (h : Move s a t) (hs : s.Staged) : t.Staged := by
  cases h with
  | turn hturn => exact hturn.staged hs
  | fail =>
    rw [State.Staged,State.fail,State.goto]
    rcases onFailure_stage s.pc with hany | hsame
    · rw [hany]
      trivial
    · rwa [hsame]
  | restart => trivial
  | _ => exact hs

def plainSandbox : State :=
  { api :=
      { name := "sb", resourceVersion := 1, generation := 1, deleting := false,
        taskFinalizer := false, alloc := [], release := [], endpoints := none, pause := none,
        replicas := some 1, poolRef := "", template := some [⟨"main",.base "app"⟩],
        shardPatches := [], taskTemplate := false, policy := .retain, status := .initial }
    pods := []
    snapshot := none
    scheduler := none
    creating := []
    expected := none
    strategicMergePatch := fun _ containers => some containers
    nextUid := 0
    pc := .idle
    history := []
    lineage := fun _ => [] }

theorem plainSandbox_created : Created plainSandbox :=
  ⟨rfl,rfl,rfl,rfl,rfl,List.forall_mem_nil _,.nil,.nil,rfl,rfl,rfl,rfl,rfl,rfl⟩

def turns (n : Nat) : List Action := List.replicate n (.run (.calling [] []))

end OpenSandbox.Kubernetes.BatchSandbox
