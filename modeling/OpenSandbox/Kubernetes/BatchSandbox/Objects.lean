import OpenSandbox.Kubernetes.TaskScheduler.Model

namespace OpenSandbox.Kubernetes.BatchSandbox

open TaskScheduler (ResourcePolicy)

inductive Phase
  | unset
  | pending
  | succeed
  | pausing
  | paused
  | resuming
  | failed
  deriving DecidableEq

inductive ConditionType
  | ready
  | progressing
  | paused
  | pauseFailed
  | resumeFailed
  | podFailed
  deriving DecidableEq

structure Condition where
  type : ConditionType
  reason : String
  message : String
  deriving DecidableEq

structure TaskCounts where
  running : Nat
  failed : Nat
  succeed : Nat
  unknown : Nat
  pending : Nat
  lastErrorMessage : String
  deriving DecidableEq

structure Status where
  observedGeneration : Nat
  replicas : Nat
  allocated : Nat
  ready : Nat
  tasks : TaskCounts
  phase : Phase
  pauseObservedGeneration : Nat
  conditions : List Condition
  deriving DecidableEq

inductive Image
  | base (name : String)
  | snapshot (uid : Nat)
  deriving DecidableEq

structure Container where
  name : String
  image : Image
  deriving DecidableEq

structure Pod where
  name : String
  uid : Nat
  owned : Bool
  label : String
  index : Nat
  scheduled : Bool
  podIP : String
  running : Bool
  readyCondition : Bool
  waiting : List String
  deleting : Bool
  containers : List Container
  started : Bool
  deriving DecidableEq

namespace Pod

def isPodReady (pod : Pod) : Bool := pod.running && pod.readyCondition

def isAssigned (pod : Pod) : Bool := pod.scheduled || pod.podIP != ""

end Pod

structure Sandbox where
  name : String
  resourceVersion : Nat
  generation : Nat
  deleting : Bool
  taskFinalizer : Bool
  alloc : List String
  release : List String
  endpoints : Option (List String)
  pause : Option Bool
  replicas : Option Nat
  poolRef : String
  template : Option (List Container)
  shardPatches : List String
  taskTemplate : Bool
  policy : ResourcePolicy
  status : Status
  deriving DecidableEq

inductive SnapshotPhase
  | unset
  | pending
  | committing
  | succeed
  | failed
  deriving DecidableEq

def SnapshotPhase.text : SnapshotPhase → String
  | .unset => ""
  | .pending => "Pending"
  | .committing => "Committing"
  | .succeed => "Succeed"
  | .failed => "Failed"

structure Snapshot where
  uid : Nat
  phase : SnapshotPhase
  deleting : Bool
  source : Option Nat
  containers : List String
  failureMessage : String
  problem : Option (String × String)

def Snapshot.active (snapshot : Snapshot) : Bool :=
  match snapshot.phase with
  | .succeed | .failed => false
  | _ => true

def snapshotFailureMessage (snapshot : Snapshot) : String :=
  if snapshot.failureMessage ≠ "" then snapshot.failureMessage else "snapshot failed"

def unsupportedPauseReplicasMessage : Option Nat → String
  | none => "pause/resume currently supports only BatchSandbox spec.replicas=1; spec.replicas is unset"
  | some replicas =>
    "pause/resume currently supports only BatchSandbox spec.replicas=1; got spec.replicas=" ++
      toString replicas

def setTrue (type : ConditionType) (reason message : String) (conditions : List Condition) :
    List Condition :=
  if conditions.any (·.type = type) then
    conditions.map fun c => if c.type = type then ⟨type,reason,message⟩ else c
  else conditions ++ [⟨type,reason,message⟩]

def setFalse (type : ConditionType) (conditions : List Condition) : List Condition :=
  conditions.filter (·.type ≠ type)

def applyPhaseConditions (phase : Phase) (conditions : List Condition) : List Condition :=
  match phase with
  | .unset => conditions
  | .pending =>
    setFalse .paused (setTrue .progressing "Creating" "Sandbox is being created"
      (setFalse .ready conditions))
  | .succeed =>
    setFalse .paused (setFalse .progressing
      (setTrue .ready "PodsReady" "Sandbox is running" conditions))
  | .pausing =>
    setFalse .paused (setTrue .progressing "PauseInProgress" "Pausing sandbox"
      (setFalse .ready conditions))
  | .paused =>
    setTrue .paused "Paused" "Sandbox is paused" (setFalse .progressing
      (setFalse .ready conditions))
  | .resuming =>
    setFalse .paused (setTrue .progressing "ResumeInProgress" "Resuming sandbox"
      (setFalse .ready conditions))
  | .failed => setFalse .paused (setFalse .progressing (setFalse .ready conditions))

def Status.enter (status : Status) (phase : Phase) : Status :=
  { status with phase, conditions := applyPhaseConditions phase status.conditions }

def isLifecycleOwnedCondition : ConditionType → Bool
  | .pauseFailed | .resumeFailed => true
  | _ => false

def mergeLifecycleConditions (desired latest : List Condition) : List Condition :=
  desired ++ latest.filter fun c =>
    isLifecycleOwnedCondition c.type && !desired.any (·.type = c.type)

def podFailureReasons : List String :=
  ["CrashLoopBackOff","ImagePullBackOff","ErrImagePull","CreateContainerConfigError"]

def getPodFailureReason (pod : Pod) : Option String :=
  pod.waiting.find? fun reason => podFailureReasons.contains reason

structure FailureTally where
  failed : Nat
  seen : List (String × String)
  primaryCount : Nat
  primaryReason : String
  samplePod : String

def FailureTally.add (tally : FailureTally) (pod : Pod) : FailureTally :=
  match getPodFailureReason pod with
  | none => tally
  | some reason =>
    let seen := tally.seen ++ [(reason, pod.name)]
    let count := (seen.filter (·.1 = reason)).length
    if tally.primaryCount < count then
      { failed := tally.failed + 1, seen, primaryCount := count, primaryReason := reason,
        samplePod := (seen.lookup reason).getD pod.name }
    else { tally with failed := tally.failed + 1, seen }

structure PodFailureSummary where
  observed : Nat
  failed : Nat
  primaryReason : String
  samplePod : String

variable (b : Sandbox) (pods : List Pod)

def summarizePodFailures : Option PodFailureSummary :=
  let tally := pods.foldl FailureTally.add ⟨0,[],0,"",""⟩
  if 0 < tally.failed then
    some ⟨pods.length,tally.failed,tally.primaryReason,tally.samplePod⟩
  else none

def PodFailureSummary.message (s : PodFailureSummary) (duringResume : Bool) : String :=
  toString s.failed ++ "/" ++ toString s.observed ++ " " ++
    (if duringResume then "observed pods failed during resume" else "observed pods failed") ++
    "; primary reason=" ++ s.primaryReason ++ "; sample pod=" ++ s.samplePod

def isResumeInFlight : Bool :=
  b.status.pauseObservedGeneration < b.generation && b.pause == some false

def applyResumingRuntimePhase (status : Status) (pods : List Pod) : Status :=
  match summarizePodFailures pods with
  | some summary =>
    { status with
      phase := .failed
      conditions := setTrue .podFailed summary.primaryReason (summary.message false)
        (setTrue .resumeFailed summary.primaryReason (summary.message true) status.conditions) }
  | none =>
    if 0 < status.ready then
      { status with phase := .succeed, conditions := setFalse .podFailed status.conditions }
    else status

def failSteadyConditions (summary : PodFailureSummary) (conditions : List Condition) :
    List Condition :=
  let marked := setTrue .podFailed summary.primaryReason (summary.message false) conditions
  if isResumeInFlight b then
    setTrue .resumeFailed summary.primaryReason (summary.message true) marked
  else marked

def applySteadyRuntimePhase (status : Status) (pods : List Pod) : Status :=
  match summarizePodFailures pods with
  | some summary =>
    if b.status.phase ≠ .failed then
      { status with
        phase := .failed
        conditions := failSteadyConditions b summary status.conditions }
    else status
  | none =>
    if status.phase = .failed then status
    else
      { status with
        phase := if 0 < status.ready then .succeed else .pending
        conditions := setFalse .podFailed status.conditions }

structure RuntimeView where
  status : Status
  endpointIPs : List String
  deriving DecidableEq

def countPods : Status :=
  { b.status with
    observedGeneration := b.generation
    replicas := pods.length
    allocated := pods.countP (·.isAssigned)
    ready := pods.countP fun pod => !pod.deleting && pod.isPodReady }

def applyRuntimePhase (status : Status) (pods : List Pod) : Status :=
  match b.status.phase with
  | .pausing | .paused => status
  | .resuming => applyResumingRuntimePhase status pods
  | _ => applySteadyRuntimePhase b status pods

def buildRuntimeView : RuntimeView :=
  let status := applyRuntimePhase b (countPods b pods) pods
  { status := status.enter status.phase
    endpointIPs := pods.map fun pod => if pod.isAssigned then pod.podIP else "" }

def acknowledgeView (view : RuntimeView) : RuntimeView :=
  if b.status.phase ≠ .resuming ∧ view.status.pauseObservedGeneration < b.generation then
    { view with status := { view.status with pauseObservedGeneration := b.generation } }
  else view

def isInitialUnallocatedSandbox (view : RuntimeView) : Bool :=
  view.status.replicas == 0 && b.status.phase == .unset && decide (0 < b.replicas.getD 0)

def mergedStatus (latest : Sandbox) (view : RuntimeView) : Status :=
  { view.status with
    conditions := mergeLifecycleConditions view.status.conditions latest.status.conditions }

def Status.mergePatch (old new : Status) : Status :=
  { new with
    observedGeneration := if new.observedGeneration = 0 then old.observedGeneration
      else new.observedGeneration
    tasks := { new.tasks with
      lastErrorMessage := if new.tasks.lastErrorMessage = "" then old.tasks.lastErrorMessage
        else new.tasks.lastErrorMessage }
    phase := if new.phase = .unset then old.phase else new.phase
    pauseObservedGeneration := if new.pauseObservedGeneration = 0 then old.pauseObservedGeneration
      else new.pauseObservedGeneration
    conditions := if new.conditions = [] then old.conditions else new.conditions }

def arrange (order : List String) (pods : List Pod) : List Pod :=
  (order.dedup.flatMap fun name => pods.filter (·.name = name)) ++ pods.filter (·.name ∉ order)

def listPods (order : List String) : List Pod :=
  arrange order
    (if b.poolRef ≠ "" then
      (b.alloc.dedup.filter (· ∉ b.release)).filterMap fun name => pods.find? (·.name = name)
    else pods.filter (·.owned))

def calPodIndex (pod : Pod) : Nat :=
  if b.poolRef ≠ "" then b.alloc.length - 1 - b.alloc.reverse.idxOf pod.name else pod.index

def podSorter (p q : Pod) : Prop :=
  calPodIndex b p < calPodIndex b q ∨ calPodIndex b p = calPodIndex b q ∧ p.name ≤ q.name

instance : DecidableRel (podSorter b) := fun _ _ => inferInstanceAs (Decidable (_ ∨ _))

def sortedPods (order : List String) : List Pod :=
  (listPods b pods order).insertionSort (podSorter b)

def hasReadyResumePod : Bool :=
  (b.poolRef != "" && b.alloc.any fun name => pods.any fun pod =>
    pod.name == name && pod.isPodReady) ||
    pods.any fun pod => (pod.label == b.name || pod.name == b.name ++ "-0") && pod.isPodReady

def missingIndexes : List Nat :=
  (List.range (b.replicas.getD 0)).filter fun i => !pods.any fun pod => pod.index == i

def taskNames : List String :=
  (List.range (b.replicas.getD 0)).map fun i => b.name ++ "-" ++ toString i

def replaceImages (uid : Nat) (names : List String) (containers : List Container) :
    List Container :=
  containers.map fun c => if c.name ∈ names then { c with image := .snapshot uid } else c

end OpenSandbox.Kubernetes.BatchSandbox
