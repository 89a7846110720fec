import OpenSandbox.Library.GoMap
import OpenSandbox.Library.Runs

namespace OpenSandbox.Kubernetes.TaskScheduler

inductive TaskState
  | running
  | failed
  | succeed
  | unknown
  deriving DecidableEq

structure Terminated where
  exitCode : Int
  message : String
  deriving DecidableEq

structure ProcessStatus where
  running : Bool
  terminated : Option Terminated
  deriving DecidableEq

inductive PodPhase
  | pending
  | running
  | succeeded
  | failed
  | unknown
  deriving DecidableEq

structure PodStatus where
  phase : PodPhase
  ready : Bool
  deriving DecidableEq

structure Task where
  name : String
  deletionTimestamp : Bool
  processStatus : Option ProcessStatus
  podStatus : Option PodStatus
  deriving DecidableEq

structure Pod where
  name : String
  podIP : String

inductive ResourcePolicy
  | retain
  | release
  deriving DecidableEq

def parseProcessTaskState (status : ProcessStatus) : TaskState :=
  if status.running then .running
  else
    match status.terminated with
    | some terminated => if terminated.exitCode = 0 then .succeed else .failed
    | none => .unknown

def parsePodTaskState (status : PodStatus) : TaskState :=
  match status.phase with
  | .running => if status.ready then .running else .unknown
  | .succeeded => .succeed
  | .failed => .failed
  | .pending | .unknown => .unknown

def parseTaskState (task : Task) : TaskState :=
  match task.processStatus, task.podStatus with
  | some status, _ => parseProcessTaskState status
  | none, some status => parsePodTaskState status
  | none, none => .unknown

inductive SchState
  | initial
  | releasing
  | released
  deriving DecidableEq

structure TaskNode where
  name : String
  deletionTimestamp : Bool
  status : Option Task
  ip : String
  podName : String
  tState : Option TaskState
  sState : SchState

namespace TaskNode

def isResourceReleased (n : TaskNode) : Bool := n.sState == .released

def isTaskCompleted (n : TaskNode) : Bool := n.tState == some .succeed || n.tState == some .failed

def isTaskDeleted (n : TaskNode) : Bool := n.status.isNone

def getTerminatedMessage (n : TaskNode) : String :=
  match n.status with
  | none => ""
  | some task =>
    match task.processStatus with
    | some ⟨_,some terminated⟩ => terminated.message
    | _ => ""

end TaskNode

inductive GetAnswer
  | failed
  | returned (task : Option Task)
  deriving DecidableEq

structure GetCall where
  ip : String
  answer : GetAnswer

inductive Event
  | get (ip : String) (answer : GetAnswer)
  | set (node : Nat) (ip : String)
  | clear (node : Nat) (ip : String)
  | adopt (node : Nat) (ip : String)
  deriving DecidableEq

def GetCall.event (call : GetCall) : Event := .get call.ip call.answer

def record (tasks : GoMap Task) (call : GetCall) : GoMap Task :=
  match call.answer with
  | .failed | .returned none => tasks
  | .returned (some task) => tasks.insert call.ip task

def collect (calls : List GetCall) : GoMap Task := calls.foldl record ∅

def needRelease (policy : ResourcePolicy) (n : TaskNode) : Bool :=
  n.deletionTimestamp || (policy == .release && n.isTaskCompleted)

def placeTask (policy : ResourcePolicy) (j : Nat) (n : TaskNode) : TaskNode × List Event :=
  if n.ip = "" then
    if n.deletionTimestamp then ({ n with sState := .released }, []) else (n, [])
  else if needRelease policy n then ({ n with sState := .releasing }, [])
  else if n.isTaskCompleted then (n, [])
  else (n, [.set j n.ip])

def releaseTask (j : Nat) (n : TaskNode) : TaskNode × List Event :=
  if n.sState = .releasing then
    if n.isTaskDeleted then ({ n with sState := .released }, []) else (n, [.clear j n.ip])
  else (n, [])

def scheduleSingleTaskNode (policy : ResourcePolicy) (j : Nat) (n : TaskNode) :
    TaskNode × List Event :=
  let placed := placeTask policy j n
  let released := releaseTask j placed.1
  (released.1, placed.2 ++ released.2)

def assignTaskNodes : List TaskNode → List Pod → List TaskNode × List Pod
  | [], freePods => ([], freePods)
  | nodes, [] => (nodes, [])
  | n :: nodes, pod :: freePods =>
    if n.ip ≠ "" then
      let rest := assignTaskNodes nodes (pod :: freePods)
      (n :: rest.1, rest.2)
    else
      let rest := assignTaskNodes nodes freePods
      ({ n with ip := pod.podIP, podName := pod.name } :: rest.1, rest.2)

def TaskNode.refresh (tasks : GoMap Task) (n : TaskNode) : TaskNode :=
  match tasks.lookup n.ip with
  | some task => { n with status := some task, tState := some (parseTaskState task) }
  | none => { n with status := none }

def initTaskNode (name : String) : TaskNode :=
  { name, deletionTimestamp := false, status := none, ip := "", podName := "", tState := none,
    sState := .initial }

structure Scheduler where
  allPods : List Pod
  freePods : List Pod
  taskNodes : List TaskNode
  policy : ResourcePolicy
  log : List Event

def endpoints (nodes : List TaskNode) : List String :=
  (nodes.map TaskNode.ip).filter (· ≠ "")

def podEndpoints (pods : List Pod) : List Pod := pods.filter (·.podIP ≠ "")

def indexByName (nodes : List TaskNode) (name : String) : Option Nat :=
  (List.range nodes.length).reverse.find? fun j => nodes[j]?.map TaskNode.name == some name

namespace Scheduler

variable (s : Scheduler)

def refreshFreePods : Scheduler :=
  let assigned := (s.taskNodes.filter fun n => n.ip ≠ "" && n.podName ≠ "").map TaskNode.podName
  { s with freePods := s.allPods.filter fun pod => !assigned.contains pod.name && pod.podIP ≠ "" }

def collectTaskStatus (calls : List GetCall) : Scheduler :=
  if endpoints s.taskNodes = [] then s
  else
    { s with
      taskNodes := s.taskNodes.map (TaskNode.refresh (collect calls))
      log := s.log ++ calls.map GetCall.event }

def scheduleTaskNodes : Scheduler :=
  let assigned := assignTaskNodes s.taskNodes s.freePods
  let scheduled := assigned.1.mapIdx (scheduleSingleTaskNode s.policy)
  { s with
    freePods := assigned.2
    taskNodes := scheduled.map Prod.fst
    log := s.log ++ scheduled.flatMap Prod.snd }

def schedule (calls : List GetCall) : Scheduler :=
  (s.refreshFreePods.collectTaskStatus calls).scheduleTaskNodes

def updatePods (pods : List Pod) : Scheduler := { s with allPods := pods }

def addTask (name : String) : Scheduler :=
  if (indexByName s.taskNodes name).isSome then s
  else { s with taskNodes := s.taskNodes ++ [initTaskNode name] }

def addTasks (names : List String) : Scheduler := names.foldl addTask s

def stopTask : Scheduler :=
  { s with taskNodes := s.taskNodes.map fun n => { n with deletionTimestamp := true } }

def recoverPod (tasks : GoMap Task) (s : Scheduler) (pod : Pod) : Scheduler :=
  match tasks.lookup pod.podIP with
  | none => s
  | some task =>
    match indexByName s.taskNodes task.name with
    | none => s
    | some j =>
      { s with
        taskNodes := s.taskNodes.modify j fun n =>
          { n with
            status := some task
            tState := some (parseTaskState task)
            ip := pod.podIP
            podName := pod.name
            sState := if task.deletionTimestamp then .releasing else n.sState }
        log := s.log ++ [.adopt j pod.podIP] }

def recoverTaskNodesStatus (calls : List GetCall) : Scheduler :=
  (podEndpoints s.allPods).foldl (recoverPod (collect calls))
    { s with log := s.log ++ calls.map GetCall.event }

end Scheduler

def newTaskScheduler (names : List String) (pods : List Pod) (policy : ResourcePolicy)
    (calls : List GetCall) : Option Scheduler :=
  if (calls.map GetCall.ip).isPerm ((podEndpoints pods).map Pod.podIP) then
    some (Scheduler.recoverTaskNodesStatus
      { allPods := pods, freePods := [], taskNodes := names.map initTaskNode, policy, log := [] }
      calls)
  else none

inductive Action
  | schedule (calls : List GetCall)
  | updatePods (pods : List Pod)
  | addTasks (names : List String)
  | stopTask

def Scheduler.step (s : Scheduler) : Action → Option Scheduler
  | .schedule calls =>
    if (calls.map GetCall.ip).isPerm (endpoints s.taskNodes) then some (s.schedule calls) else none
  | .updatePods pods => some (s.updatePods pods)
  | .addTasks names => some (s.addTasks names)
  | .stopTask => some s.stopTask

end OpenSandbox.Kubernetes.TaskScheduler
