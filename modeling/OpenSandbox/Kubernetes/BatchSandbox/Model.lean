import OpenSandbox.Kubernetes.BatchSandbox.Objects

namespace OpenSandbox.Kubernetes.BatchSandbox

open TaskScheduler (ResourcePolicy Scheduler GetCall TaskNode newTaskScheduler)

structure Report where
  reason : String
  message : String
  deriving DecidableEq

inductive Pc
  | idle
  | addFinalizer
  | pauseReject (b : Sandbox) (phase : Phase)
  | pauseReport (report : Report)
  | pauseCheck (b : Sandbox)
  | pauseDelete
  | pauseClear (b : Sandbox) (found : Bool)
  | pauseAck (b : Sandbox) (found : Bool)
  | stopTasks (b : Sandbox)
  | createSnapshot
  | resumeClear (b : Sandbox)
  | resumeAck (b : Sandbox)
  | syncPause (b : Sandbox)
  | pauseFind (b : Sandbox) (message : String)
  | pauseFailed (b : Sandbox) (phase : Phase) (report : Report)
  | complete (b : Sandbox)
  | detach (b : Sandbox) (template : List Container)
  | deletePods (b : Sandbox) (names : List String)
  | finishPause (b : Sandbox)
  | continueResume (b : Sandbox)
  | resumeProbe (b : Sandbox)
  | resumeReady (b : Sandbox)
  | resumeReadyClear (b : Sandbox)
  | podFailedClear (b : Sandbox)
  | rollback (b : Sandbox) (report : Report)
  | rollbackReport (b : Sandbox) (report : Report)
  | resumePatch (b : Sandbox) (uid : Nat) (containers : List String)
  | scale (b : Sandbox)
  | runTasks (b : Sandbox) (pods : List Pod) (view : RuntimeView)
  | releasePods (b : Sandbox) (view : RuntimeView) (names : List String) (counts : TaskCounts)
  | cleanupTasks (b : Sandbox) (view : RuntimeView) (counts : TaskCounts)
  | patchEndpoints (b : Sandbox) (view : RuntimeView)
  | persist (b : Sandbox) (view : RuntimeView)
  | cleanup
  | cleanupDelete
  deriving DecidableEq

structure State where
  api : Sandbox
  pods : List Pod
  snapshot : Option Snapshot
  scheduler : Option Scheduler
  creating : List String
  expected : Option Nat
  strategicMergePatch : String → List Container → Option (List Container)
  nextUid : Nat
  pc : Pc
  history : List Nat
  lineage : Nat → List Nat

structure Input where
  recovery : List GetCall
  calls : List GetCall
  timedOut : Bool
  order : List String
  rejected : List String

def Input.calling (recovery calls : List GetCall) : Input := ⟨recovery,calls,false,[],[]⟩

def restoredFrom (containers : List Container) : Option Nat :=
  match containers with
  | [] => none
  | c :: rest =>
    match c.image with
    | .base _ => none
    | .snapshot uid => if rest.all (·.image = .snapshot uid) then some uid else none

namespace State

variable (s : State)

def goto (pc : Pc) : State := { s with pc }

def ownPods : List Pod :=
  if s.api.poolRef ≠ "" then s.pods.filter fun pod => s.api.alloc.contains pod.name
  else s.pods.filter (·.owned)

def carries (pod : Pod) : List Nat :=
  pod.uid :: if pod.started then ((restoredFrom pod.containers).map s.lineage).getD [] else []

def note : State :=
  { s with
    history := s.history ++
      (s.ownPods.filter fun pod => !pod.deleting && pod.isPodReady).map Pod.uid }

def writeStatus (f : Status → Status) : State :=
  { s with
    api := { s.api with status := f s.api.status, resourceVersion := s.api.resourceVersion + 1 }
    expected := some (s.api.resourceVersion + 1) }

def setCondition (f : List Condition → List Condition) : State :=
  s.writeStatus fun status => { status with conditions := f status.conditions }

def ackPauseWithPhase (phase : Phase) : State :=
  s.writeStatus fun status =>
    { status.enter phase with pauseObservedGeneration := s.api.generation }

def editSpec (f : Sandbox → Sandbox) : State :=
  { s with
    api := { f s.api with
      generation := s.api.generation + 1
      resourceVersion := s.api.resourceVersion + 1 } }

def editMeta (f : Sandbox → Sandbox) : State :=
  { s with api := { f s.api with resourceVersion := s.api.resourceVersion + 1 } }

end State

variable (b : Sandbox) (sch : Scheduler)

def acked (phase : Phase) : Sandbox :=
  { b with status := { b.status.enter phase with pauseObservedGeneration := b.generation } }

def ensureSnapshot : Pc := if b.taskTemplate then .stopTasks b else .createSnapshot

def handlePause : Pc :=
  if b.replicas = some 1 then .pauseCheck b
  else .pauseReject b (if b.status.phase = .unset then .succeed else b.status.phase)

def dispatchPauseResume : Pc :=
  if b.status.phase = .resuming then .continueResume b
  else if b.status.phase = .pausing then .syncPause b
  else if b.status.pauseObservedGeneration < b.generation then
    match b.pause with
    | some true => handlePause b
    | some false => .resumeClear b
    | none => .scale b
  else .scale b

def beginReconcile : Pc :=
  if b.deleting then
    if b.taskTemplate then dispatchPauseResume b else .idle
  else if b.taskTemplate && !b.taskFinalizer then .addFinalizer
  else dispatchPauseResume b

def enterScheduler (s : State) (b : Sandbox) (pods : List Pod) (recovery : List GetCall) :
    Option Scheduler :=
  let listed := pods.map fun pod => (⟨pod.name,pod.podIP⟩ : TaskScheduler.Pod)
  match s.scheduler with
  | none => newTaskScheduler (taskNames b) listed b.policy recovery
  | some sch => some ((sch.updatePods listed).addTasks (taskNames b))

def runScheduler (stop : Bool) (calls : List GetCall) : Option Scheduler :=
  (if stop then sch.stopTask else sch).step (.schedule calls)

def toReleasedPods : List String :=
  (sch.taskNodes.filter fun n => n.podName != "" && n.isResourceReleased).map TaskNode.podName

def cleanupFinished : Bool := sch.taskNodes.all TaskNode.isResourceReleased

def countState (state : TaskScheduler.TaskState) : Nat :=
  sch.taskNodes.countP fun n => n.podName != "" && n.tState == some state

def failedMessages : List String :=
  (sch.taskNodes.filter fun n => n.podName != "" && n.tState == some .failed).map
    TaskNode.getTerminatedMessage |>.filter (· ≠ "")

def taskCounts : TaskCounts :=
  { running := countState sch .running
    failed := countState sch .failed
    succeed := countState sch .succeed
    unknown := countState sch .unknown
    pending := sch.taskNodes.countP fun n => n.podName == ""
    lastErrorMessage := (failedMessages sch).getLast?.getD "" }

def RuntimeView.withTasks (view : RuntimeView) (counts : TaskCounts) : RuntimeView :=
  { view with
    status := { view.status with
      tasks := { counts with
        lastErrorMessage := if counts.lastErrorMessage = "" then view.status.tasks.lastErrorMessage
          else counts.lastErrorMessage } } }

def newPod (template : List Container) (uid index : Nat) : Pod :=
  { name := b.name ++ "-" ++ toString index, uid, owned := true, label := b.name, index,
    scheduled := false, podIP := "", running := false, readyCondition := false, waiting := [],
    deleting := false, containers := template, started := false }

def afterScale (pods : List Pod) : Pc :=
  let view := acknowledgeView b (buildRuntimeView b pods)
  if b.taskTemplate && b.status.phase != .paused then .runTasks b pods view
  else .patchEndpoints b view

def scaleNeeded : Bool := b.poolRef == "" && b.status.phase != .paused

def dropPausedScheduler (sch : Option Scheduler) : Option Scheduler :=
  if b.status.phase = .paused then none else sch

def Sandbox.dropFinalizer (api : Sandbox) (present : Bool) : Sandbox :=
  if present then
    { api with taskFinalizer := false, resourceVersion := api.resourceVersion + 1 }
  else api

def mergeReleased (released names : List String) : List String :=
  (released ++ names).dedup.mergeSort (· ≤ ·)

def onFailure : Pc → Pc
  | .pauseClear b found => .pauseAck b found
  | .resumeClear b => .resumeAck b
  | .pauseFind b message => .pauseFailed b .failed ⟨"PodNotFound",message⟩
  | .resumeReady b => .resumeReadyClear b
  | .resumeReadyClear b => .podFailedClear b
  | .podFailedClear b => .scale b
  | .rollback b report => .rollbackReport b report
  | .rollbackReport b _ => .scale b
  | .runTasks b _ view | .releasePods b view _ _ | .cleanupTasks b view _ => .patchEndpoints b view
  | .patchEndpoints b view => .persist b view
  | _ => .idle

namespace State

variable (s : State)

def satisfied (b : Sandbox) : Bool :=
  match s.expected with
  | none => true
  | some version => version ≤ b.resourceVersion

def afterPersist (view : RuntimeView) : Pc :=
  if view.status.phase = .succeed then .cleanup else .idle

def patchStatus (latest : Sandbox) (view : RuntimeView) : State :=
  (s.writeStatus fun old => old.mergePatch (mergedStatus latest view)).goto (afterPersist view)

def persistRuntimeView (b : Sandbox) (view : RuntimeView) (timedOut : Bool) : State :=
  if view.status = b.status then s.goto (afterPersist view)
  else if isInitialUnallocatedSandbox b view then s.goto .idle
  else if s.satisfied b then { s with expected := none }.patchStatus b view
  else if timedOut then s.patchStatus s.api view
  else s.goto .idle

def deletePod (name : String) : State :=
  { s with
    pods := s.pods.map fun pod => if pod.name = name then { pod with deleting := true } else pod }

def deleteSnapshot : State :=
  { s with snapshot := s.snapshot.map fun snapshot => { snapshot with deleting := true } }

def patchEndpoints (b : Sandbox) (ips : List String) : State :=
  if b.endpoints = some ips ∨ b.endpoints = none ∧ ips = [] then s
  else
    s.editMeta fun api => { api with endpoints := some ips }

def resumed (uid : Nat) (containers : List String) : Sandbox :=
  { s.api with
    template := s.api.template.map (replaceImages uid containers)
    poolRef := "" }

def patchResume (uid : Nat) (containers : List String) : State :=
  if s.resumed uid containers = s.api then s else s.editSpec fun _ => s.resumed uid containers

def patched (b : Sandbox) (template : List Container) (index : Nat) : Option (List Container) :=
  match b.shardPatches[index]? with
  | none => some template
  | some patch => s.strategicMergePatch patch template

def createPods (b : Sandbox) (template : List Container) (rejected : List String)
    (made : List Pod) : List Nat → List Pod × Bool
  | [] => (made, true)
  | index :: rest =>
    match s.patched b template index with
    | none => (made, false)
    | some containers =>
      let pod := newPod b containers (s.nextUid + made.length) index
      if pod.name ∈ rejected ∨ pod.name ∈ (s.pods ++ made).map Pod.name then (made, false)
      else createPods b template rejected (made ++ [pod]) rest

def scaleBatchSandbox (b : Sandbox) (pods : List Pod) (rejected : List String) : State × Bool :=
  let waiting := s.creating.filter fun name => !pods.any (·.name == name)
  if waiting ≠ [] then ({ s with creating := waiting }, true)
  else
    match missingIndexes b pods, b.template with
    | [], _ => ({ s with creating := [] }, true)
    | _ :: _, none => ({ s with creating := [] }, false)
    | index :: rest, some template =>
      let (made, done) := s.createPods b template rejected [] (index :: rest)
      ({ s with
        pods := s.pods ++ made
        nextUid := s.nextUid + made.length
        creating := made.map Pod.name }, done)

def run (input : Input) : Option State :=
  match s.pc with
  | .idle => some (s.goto (beginReconcile s.api))
  | .addFinalizer =>
    some ((s.editMeta fun api => { api with taskFinalizer := true }).goto .idle)
  | .pauseReject b phase =>
    some ((s.ackPauseWithPhase phase).goto
      (.pauseReport ⟨"UnsupportedReplicas",unsupportedPauseReplicasMessage b.replicas⟩))
  | .pauseReport report =>
    some ((s.setCondition (setTrue .pauseFailed report.reason report.message)).goto .idle)
  | .pauseCheck b =>
    match s.snapshot with
    | none => some (s.goto (.pauseClear b false))
    | some snapshot =>
      if snapshot.deleting then some (s.goto .idle)
      else if snapshot.phase = .failed ∨ snapshot.phase = .succeed then some (s.goto .pauseDelete)
      else some (s.goto (.pauseClear b true))
  | .pauseDelete => some (s.deleteSnapshot.goto .idle)
  | .pauseClear b found => some ((s.setCondition (setFalse .pauseFailed)).goto (.pauseAck b found))
  | .pauseAck b found =>
    some ((s.ackPauseWithPhase .pausing).goto
      (if found then .idle else ensureSnapshot (acked b .pausing)))
  | .stopTasks b =>
    (enterScheduler s b (listPods b s.pods input.order) input.recovery).bind fun sch =>
      (runScheduler sch true input.calls).map fun sch' =>
        { s with
          scheduler := some sch'
          pc := if cleanupFinished sch' then .createSnapshot else .idle }
  | .createSnapshot =>
    match s.snapshot with
    | some _ => some (s.goto .idle)
    | none =>
      some { s with
        snapshot := some ⟨s.nextUid,.unset,false,none,[],"",none⟩
        nextUid := s.nextUid + 1
        pc := .idle }
  | .resumeClear b => some ((s.setCondition (setFalse .resumeFailed)).goto (.resumeAck b))
  | .resumeAck _ => some ((s.ackPauseWithPhase .resuming).goto .idle)
  | .syncPause b =>
    match s.snapshot with
    | none => some (s.goto (ensureSnapshot b))
    | some snapshot =>
      match snapshot.phase with
      | .succeed => some (s.goto (.complete b))
      | .failed => some (s.goto (.pauseFind b (snapshotFailureMessage snapshot)))
      | _ => some (s.goto .idle)
  | .pauseFind b message =>
    if listPods b s.pods input.order = [] then
      some (s.goto (.pauseFailed b .failed ⟨"PodNotFound",message⟩))
    else some (s.goto (.pauseFailed b .succeed ⟨"SnapshotFailed",message⟩))
  | .pauseFailed _ phase report =>
    some ((s.ackPauseWithPhase phase).goto (.pauseReport report))
  | .complete b =>
    if b.poolRef ≠ "" then
      match listPods b s.pods input.order with
      | [] => some (s.goto .idle)
      | pod :: _ => some (s.goto (.detach b pod.containers))
    else
      some ({ s with creating := [] }.goto
        (.deletePods b ((listPods b s.pods input.order).map Pod.name)))
  | .detach b template =>
    some (({ s with creating := [] }.editSpec fun api =>
      { api with template := some template, poolRef := "", release := [] }).goto
        (.finishPause { b with template := some template, poolRef := "", release := [] }))
  | .deletePods b names =>
    match names with
    | [] => some (s.goto (.finishPause b))
    | name :: rest => some ((s.deletePod name).goto (.deletePods b rest))
  | .finishPause _ =>
    some ({ s with scheduler := none }.writeStatus (fun status =>
      { status.enter .paused with
        pauseObservedGeneration := if s.api.pause = some true then s.api.generation
          else status.pauseObservedGeneration }) |>.goto .idle)
  | .continueResume b =>
    match s.snapshot with
    | none => some (s.goto (.resumeProbe b))
    | some snapshot =>
      if snapshot.phase ≠ .succeed then
        some (s.goto (.rollback b
          ⟨"SnapshotNotReady","snapshot not ready: phase=" ++ snapshot.phase.text⟩))
      else
        match snapshot.problem with
        | some (reason, message) => some (s.goto (.rollback b ⟨reason,message⟩))
        | none => some (s.goto (.resumePatch b snapshot.uid snapshot.containers))
  | .resumeProbe b =>
    if hasReadyResumePod b s.pods then some (s.goto (.resumeReady b))
    else some (s.goto (.rollback b ⟨"SnapshotNotFound","SandboxSnapshot not found"⟩))
  | .resumeReady b =>
    some ((s.ackPauseWithPhase .succeed).goto (.resumeReadyClear (acked b .succeed)))
  | .resumeReadyClear b =>
    some ((s.setCondition (setFalse .resumeFailed)).goto (.podFailedClear b))
  | .podFailedClear b => some ((s.setCondition (setFalse .podFailed)).goto (.scale b))
  | .rollback b report =>
    some ((s.ackPauseWithPhase .paused).goto (.rollbackReport (acked b .paused) report))
  | .rollbackReport b report =>
    some ((s.setCondition (setTrue .resumeFailed report.reason report.message)).goto (.scale b))
  | .resumePatch b uid containers =>
    let t := s.patchResume uid containers
    some (t.goto (.scale { t.api with status := b.status }))
  | .scale b =>
    let pods := sortedPods b s.pods input.order
    let (t, done) :=
      if scaleNeeded b then s.scaleBatchSandbox b pods input.rejected else (s, true)
    if done then
      some { t with
        scheduler := dropPausedScheduler b s.scheduler
        pc := afterScale b pods }
    else some (t.goto .idle)
  | .runTasks b pods view =>
    (enterScheduler s b pods input.recovery).bind fun sch =>
      (runScheduler sch b.deleting input.calls).map fun sch' =>
        { s with
          scheduler := some sch'
          pc := if toReleasedPods sch' = [] then .cleanupTasks b view (taskCounts sch')
            else .releasePods b view (toReleasedPods sch') (taskCounts sch') }
  | .releasePods b view names counts =>
    some ((s.editMeta fun api => { api with release := mergeReleased b.release names }).goto
      (.cleanupTasks b view counts))
  | .cleanupTasks b view counts =>
    if b.deleting && s.scheduler.all cleanupFinished then
      some { s with
        api := s.api.dropFinalizer b.taskFinalizer
        scheduler := none
        pc := .patchEndpoints b view }
    else some (s.goto (.patchEndpoints b (view.withTasks counts)))
  | .patchEndpoints b view => some ((s.patchEndpoints b view.endpointIPs).goto (.persist b view))
  | .persist b view => some (s.persistRuntimeView b view input.timedOut)
  | .cleanup =>
    match s.snapshot with
    | none => some (s.goto .idle)
    | some snapshot =>
      if snapshot.phase = .succeed then some (s.goto .cleanupDelete) else some (s.goto .idle)
  | .cleanupDelete => some (s.deleteSnapshot.goto .idle)

def fail : State := s.goto (onFailure s.pc)

def restart : State :=
  { s with scheduler := none, creating := [], expected := none, pc := .idle }

def sourcePod : Option Pod :=
  (s.api.alloc.filterMap fun name => s.pods.find? (·.name = name)).find? (·.running) <|>
    (s.pods.find? fun pod => pod.label == s.api.name && pod.running) <|>
    s.pods.find? fun pod => pod.name == s.api.name ++ "-0" && pod.running

def resolveSource (snapshot : Snapshot) : Snapshot :=
  match s.sourcePod with
  | none =>
    { snapshot with
      phase := .failed
      failureMessage := "source pod not found: no running pod found for BatchSandbox " ++ s.api.name }
  | some pod =>
    match (s.api.template.getD pod.containers).map Container.name with
    | [] =>
      { snapshot with
        phase := .failed
        failureMessage := "no containers found in BatchSandbox " ++ s.api.name ++ " template" }
    | names => { snapshot with phase := .committing, source := some pod.uid, containers := names }

end State

structure PodReport where
  scheduled : Bool
  podIP : String
  running : Bool
  readyCondition : Bool
  waiting : List String

def Pod.observe (pod : Pod) (report : PodReport) : Pod :=
  { pod with
    scheduled := report.scheduled
    podIP := report.podIP
    running := report.running
    readyCondition := report.readyCondition
    waiting := report.waiting
    started := pod.started || report.running }

inductive Action
  | run (input : Input)
  | fail
  | restart
  | editPause (pause : Option Bool)
  | editOther (replicas : Option Nat) (shardPatches : List String) (policy : ResourcePolicy)
      (taskTemplate : Bool)
  | editTemplate (template : Option (List Container))
  | editPool (poolRef : String)
  | deleteSandbox
  | resolveSnapshot
  | commitSucceed (problem : Option (String × String))
  | commitFail (message : String)
  | snapshotGone
  | podReport (uid : Nat) (report : PodReport)
  | podGone (uid : Nat)
  | poolPod (name label : String) (containers : List Container)
  | poolDelete (name : String)
  | allocate (name : String)

namespace State

def commitSucceed (s : State) (problem : Option (String × String)) : Option State :=
  s.snapshot.bind fun snapshot =>
    snapshot.source.bind fun source =>
      if snapshot.phase = .committing then
        (s.pods.find? (·.uid = source)).map fun pod =>
          { s with
            snapshot := some { snapshot with phase := .succeed, problem }
            lineage := Function.update s.lineage snapshot.uid (s.carries pod) }
      else none

def act (s : State) : Action → Option State
  | .run input => s.run input
  | .fail => some s.fail
  | .restart => some s.restart
  | .editPause pause => some (s.editSpec fun api => { api with pause })
  | .editOther replicas shardPatches policy taskTemplate =>
    some (s.editSpec fun api => { api with replicas, shardPatches, policy, taskTemplate })
  | .editTemplate template => some (s.editSpec fun api => { api with template })
  | .editPool poolRef => some (s.editSpec fun api => { api with poolRef })
  | .deleteSandbox =>
    some (s.editMeta fun api => { api with deleting := true })
  | .resolveSnapshot =>
    s.snapshot.bind fun snapshot =>
      if snapshot.active = true ∧ snapshot.deleting = false then
        some { s with snapshot := some (s.resolveSource snapshot) }
      else none
  | .commitSucceed problem => s.commitSucceed problem
  | .commitFail message =>
    s.snapshot.bind fun snapshot =>
      if snapshot.phase = .committing then
        some { s with
          snapshot := some { snapshot with phase := .failed, failureMessage := message } }
      else none
  | .snapshotGone =>
    s.snapshot.bind fun snapshot =>
      if snapshot.deleting then some { s with snapshot := none } else none
  | .podReport uid report =>
    some { s with pods := s.pods.map fun pod => if pod.uid = uid then pod.observe report else pod }
  | .podGone uid =>
    if s.pods.any fun pod => pod.uid == uid && pod.deleting then
      some { s with pods := s.pods.filter fun pod => pod.uid ≠ uid }
    else none
  | .poolPod name label containers =>
    if s.pods.any fun pod => pod.name == name then none
    else
      some { s with
        pods := s.pods ++ [{ newPod s.api containers s.nextUid 0 with name, owned := false, label }]
        nextUid := s.nextUid + 1 }
  | .poolDelete name =>
    if s.api.poolRef ≠ "" ∧ name ∈ s.api.alloc then none
    else
      some { s with
        pods := s.pods.map fun pod =>
          if pod.name = name ∧ pod.owned = false then { pod with deleting := true } else pod }
  | .allocate name =>
    if s.api.poolRef ≠ "" ∧ s.api.alloc.length < s.api.replicas.getD 0 ∧
        (s.pods.any fun pod => pod.name == name && !pod.owned && !pod.deleting) = true then
      some (s.editMeta fun api => { api with alloc := api.alloc ++ [name] })
    else none

def step (s : State) (a : Action) : Option State := (s.act a).map State.note

end State

def Status.initial : Status := ⟨0,0,0,0,⟨0,0,0,0,0,""⟩,.unset,0,[]⟩

structure Created (s : State) : Prop where
  status : s.api.status = .initial
  deleting : s.api.deleting = false
  taskFinalizer : s.api.taskFinalizer = false
  alloc : s.api.alloc = []
  release : s.api.release = []
  pods : ∀ pod ∈ s.pods, pod.owned = false ∧ pod.uid < s.nextUid
  uids : (s.pods.map Pod.uid).Nodup
  names : (s.pods.map Pod.name).Nodup
  snapshot : s.snapshot = none
  scheduler : s.scheduler = none
  creating : s.creating = []
  expected : s.expected = none
  pc : s.pc = .idle
  history : s.history = []

end OpenSandbox.Kubernetes.BatchSandbox
