import OpenSandbox.Library.GoMap
import OpenSandbox.Library.Runs

namespace OpenSandbox.Kubernetes.TaskExecutor

inductive TaskState
  | unset
  | pending
  | running
  | succeeded
  | failed
  | unknown
  | notFound
  | timeout
  deriving DecidableEq

structure SubStatus where
  reason : String
  message : String
  exitCode : Int
  deriving DecidableEq

structure Status where
  state : TaskState
  subStatuses : List SubStatus
  deriving DecidableEq

structure Task where
  deleting : Bool
  postStop : Bool
  status : Status

def maxConcurrentTasks : Nat := 1

def reasonPostStopHookCompleted : String := "PostStopHookCompleted"

def reasonPostStopHookFailed : String := "PostStopHookFailed"

variable (s : State) (name : String) (task : Task)

def isTaskActive : Bool :=
  !task.deleting && (task.status.state = .pending || task.status.state = .running)

def isTerminalState (state : TaskState) : Bool :=
  state = .succeeded || state = .failed || state = .notFound

def isPostStopFinishedReason (reason : String) : Bool :=
  reason = reasonPostStopHookCompleted || reason = reasonPostStopHookFailed

def statusHasPostStopFinished (status : Status) : Bool :=
  status.subStatuses.any fun sub => isPostStopFinishedReason sub.reason

def postStopRequired (status : Status) : Bool :=
  task.postStop && !statusHasPostStopFinished status

def mergePostStopFinishedStatus (persisted recovered : Status) : Status :=
  if statusHasPostStopFinished recovered || !statusHasPostStopFinished persisted then recovered
  else
    { recovered with
      subStatuses := recovered.subStatuses ++
        persisted.subStatuses.filter fun sub => isPostStopFinishedReason sub.reason }

def shouldPreservePersistedStatus (persisted recovered : Status) : Bool :=
  if !isTerminalState persisted.state then false
  else if !isTerminalState recovered.state then true
  else statusHasPostStopFinished persisted

def stopFailureExitCode (status : Status) : Int :=
  if status.state = .timeout then 137
  else
    match status.subStatuses with
    | sub :: _ => if sub.exitCode ≠ 0 then sub.exitCode else 1
    | [] => 1

def observeTask (status : Status) : Status :=
  let merged := mergePostStopFinishedStatus task.status status
  if shouldPreservePersistedStatus task.status merged then task.status else merged

def decideTaskStop (observed : Status) (alreadyStopping : Bool) : Option String :=
  let needsPostStop := postStopRequired task observed
  let postStopDone := task.postStop && !needsPostStop
  if alreadyStopping then none
  else if task.deleting then
    if postStopDone then none
    else if !isTerminalState observed.state then some "deletion requested"
    else if needsPostStop then some "terminal task deletion requested"
    else none
  else if observed.state = .timeout ∧ postStopDone = false then some "timeout exceeded"
  else if isTerminalState observed.state && needsPostStop then some "terminal task completed"
  else none

def shouldFinalizeTaskDeletion (observed : Status) (stopping : Bool) : Bool :=
  task.deleting && isTerminalState observed.state && !stopping && !postStopRequired task observed

def shouldDropRecoveredTask (persisted recovered : TaskState) : Bool :=
  if task.deleting then false
  else if persisted ≠ .pending ∧ persisted ≠ .running then false
  else recovered = .pending || recovered = .failed || recovered = .notFound

inductive StopPc
  | stopping (postStop : Bool)
  | failed (reason message : String)
  | stopped
  | inspected (status : Option Status)
  | closing

structure State where
  tasks : GoMap Task
  stored : GoMap Task
  stops : GoMap StopPc
  alive : List String
  inspected : GoMap TaskState

def State.initial : State :=
  { tasks := ∅
    stored := ∅
    stops := ∅
    alive := []
    inspected := ∅ }

structure Launch where
  persisted : Bool
  startError : Option (String × String)
  runsAnyway : Bool
  inspect : Option Status
  updated : Bool

def countActiveTasks (tasks : GoMap Task) : Nat :=
  (tasks.entries.filter fun entry => isTaskActive entry.2).length

def Task.created (postStop : Bool) : Task :=
  { deleting := false
    postStop
    status := { state := .unset, subStatuses := [] } }

def Status.startFailed (reason message : String) : Status :=
  { state := .failed
    subStatuses := [{ reason, message, exitCode := 1 }] }

def Status.orPending (status : Status) : Status :=
  if status.state = .unset then { status with state := .pending } else status

def State.write (ok : Bool) : State :=
  { s with stored := if ok then s.stored.insert name task else s.stored }

def State.note (status : Option Status) : State :=
  match status with
  | none => s
  | some status => { s with inspected := s.inspected.insert name status.state }

def State.launched (postStop : Bool) (launch : Launch) : State :=
  let task := Task.created postStop
  match launch.startError with
  | some (reason, message) =>
    let failed := { task with status := Status.startFailed reason message }
    let s := if launch.runsAnyway then { s with alive := name :: s.alive } else s
    { s.write name failed launch.updated with tasks := s.tasks.insert name failed }
  | none =>
    let s := { s with alive := name :: s.alive }
    match launch.inspect with
    | none => { s with tasks := s.tasks.insert name task }
    | some status =>
      let seen := { task with status }
      { (s.note name launch.inspect).write name seen launch.updated with
        tasks := s.tasks.insert name seen }

def State.createTask (postStop : Bool) (launch : Launch) : State :=
  if (s.tasks.lookup name).isSome then s
  else if maxConcurrentTasks ≤ countActiveTasks s.tasks then s
  else if !launch.persisted || (s.stored.lookup name).isSome then s
  else
    State.launched { s with stored := s.stored.insert name (Task.created postStop) } name postStop
      launch

def State.defaultPending : State :=
  match s.tasks.lookup name with
  | none => s
  | some task =>
    { s with tasks := s.tasks.insert name { task with status := task.status.orPending } }

def State.create (postStop : Bool) (launch : Launch) : State :=
  if (s.tasks.lookup name).isSome then s
  else (s.createTask name postStop launch).defaultPending name

def State.softDelete (updated : String → Bool) (name : String) : State :=
  match s.tasks.lookup name with
  | none => s
  | some task =>
    if task.deleting then s
    else
      { s.write name { task with deleting := true } (updated name) with
        tasks := s.tasks.insert name { task with deleting := true } }

structure SyncInput where
  desired : List (String × Bool)
  launch : String → Launch
  updated : String → Bool

def State.sync (input : SyncInput) : State :=
  let undesired := s.tasks.keys.filter (· ∉ input.desired.map Prod.fst)
  let s := undesired.foldl (fun s name => s.softDelete input.updated name) s
  input.desired.foldl (fun s entry => s.createTask entry.1 entry.2 (input.launch entry.1)) s

structure ReconcileInput where
  order : List String
  inspect : String → Option Status
  updated : String → Bool
  erased : String → Bool

def State.persistObserved (input : ReconcileInput) (name : String) (task : Task)
    (observed : Status) : State :=
  if (s.stops.lookup name).isSome ∨ task.status = observed then s
  else
    { s.write name { task with status := observed } (input.updated name) with
      tasks := s.tasks.insert name { task with status := observed } }

def State.enqueueStop : State :=
  { s with stops := s.stops.insert name (.stopping task.postStop) }

def State.considerStop (observed : Status) : State :=
  match decideTaskStop task observed (s.stops.lookup name).isSome with
  | some _ => s.enqueueStop name task
  | none => s

def State.reconcileTask (input : ReconcileInput) (acc : State × List String) (name : String) :
    State × List String :=
  let (s, finals) := acc
  match s.tasks.lookup name, input.inspect name with
  | some task, some status =>
    let observed := observeTask task status
    let s := (s.note name (some status)).considerStop name task observed
    let finals :=
      if shouldFinalizeTaskDeletion task observed (s.stops.lookup name).isSome then
        finals ++ [name]
      else finals
    (s.persistObserved input name task observed, finals)
  | _, _ => (s, finals)

def State.deleteFinalized (input : ReconcileInput) (s : State) (name : String) : State :=
  if (s.tasks.lookup name).isSome ∧ input.erased name then
    { s with
      stored := s.stored.erase name
      tasks := s.tasks.erase name
      stops := s.stops.erase name }
  else s

def State.reconcileTasks (input : ReconcileInput) : State :=
  let (s, finals) := input.order.foldl (State.reconcileTask input) (s, [])
  finals.foldl (State.deleteFinalized input) s

structure Recovery where
  listed : Bool
  readable : String → Bool
  inspect : String → Option Status
  erased : String → Bool

def State.recoverTask (input : Recovery) (s : State) (name : String) : State :=
  match s.stored.lookup name, input.inspect name with
  | some task, some status =>
    if !input.readable name then s
    else
      let s := s.note name (some status)
      let observed := observeTask task status
      if shouldDropRecoveredTask task task.status.state observed.state then
        { s with stored := if input.erased name then s.stored.erase name else s.stored }
      else { s with tasks := s.tasks.insert name { task with status := observed } }
  | _, _ => s

def State.recoverTasks (input : Recovery) : State :=
  let s := { s with tasks := ∅, stops := ∅ }
  if input.listed then s.stored.keys.foldl (State.recoverTask input) s else s

structure Interrupted where
  name : String
  postStop : Bool
  started : Bool

def State.interrupt : Option Interrupted → State
  | none => s
  | some cut =>
    if (s.tasks.lookup cut.name).isSome ∨ (s.stored.lookup cut.name).isSome then s
    else
      { s with
        stored := s.stored.insert cut.name (Task.created cut.postStop)
        alive := if cut.started then cut.name :: s.alive else s.alive }

def State.persistStopFailure (name reason message : String) (updated : Bool) : State :=
  match s.tasks.lookup name with
  | none => s
  | some task =>
    let sub : SubStatus := { reason, message, exitCode := stopFailureExitCode task.status }
    let failed := { task with status := { state := .failed, subStatuses := [sub] } }
    { s.write name failed updated with tasks := s.tasks.insert name failed }

def State.persistPostStopSuccess (stopped : Option Status) (updated : Bool) : State :=
  match s.tasks.lookup name with
  | none => s
  | some task =>
    if statusHasPostStopFinished task.status then s
    else
      let status := match stopped with
        | none => task.status
        | some status => observeTask task status
      let sub : SubStatus := ⟨reasonPostStopHookCompleted,"",0⟩
      let done := { task with
        status := { status with subStatuses := status.subStatuses ++ [sub] } }
      { s.write name done updated with tasks := s.tasks.insert name done }

inductive Action
  | create (name : String) (postStop : Bool) (launch : Launch)
  | sync (input : SyncInput)
  | delete (name : String) (updated : Bool)
  | reconcile (input : ReconcileInput)
  | stopReturns (name : String) (error : Option (String × String)) (ended : Bool)
  | stopFails (name : String) (updated : Bool)
  | stopInspects (name : String) (status : Option Status)
  | postStopSucceeds (name : String) (updated : Bool)
  | stopCloses (name : String)
  | processEnds (name : String)
  | restart (cut : Option Interrupted) (input : Recovery)

def State.goto (pc : StopPc) : State :=
  { s with stops := s.stops.insert name pc }

def State.ends : State :=
  { s with alive := s.alive.filter (· ≠ name) }

def step : Action → Option State
  | .create name postStop launch => some (s.create name postStop launch)
  | .sync input => some (s.sync input)
  | .delete name updated => some (s.softDelete (fun _ => updated) name)
  | .reconcile input =>
    if input.order.Perm s.tasks.keys then some (s.reconcileTasks input) else none
  | .stopReturns name error ended =>
    match s.stops.lookup name with
    | some (.stopping postStop) =>
      let s := if ended then s.ends name else s
      match error with
      | some (reason, message) => some (s.goto name (.failed reason message))
      | none => some (s.goto name (if postStop then .stopped else .closing))
    | _ => none
  | .stopFails name updated =>
    match s.stops.lookup name with
    | some (.failed reason message) =>
      some ((s.persistStopFailure name reason message updated).goto name .closing)
    | _ => none
  | .stopInspects name status =>
    match s.stops.lookup name with
    | some .stopped => some ((s.note name status).goto name (.inspected status))
    | _ => none
  | .postStopSucceeds name updated =>
    match s.stops.lookup name with
    | some (.inspected status) =>
      some ((s.persistPostStopSuccess name status updated).goto name .closing)
    | _ => none
  | .stopCloses name =>
    match s.stops.lookup name with
    | some .closing => some { s with stops := s.stops.erase name }
    | _ => none
  | .processEnds name => some (s.ends name)
  | .restart cut input => some ((s.interrupt cut).recoverTasks input)

end OpenSandbox.Kubernetes.TaskExecutor
