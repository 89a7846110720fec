import OpenSandbox.Library.GoMap
import OpenSandbox.Library.Runs

namespace OpenSandbox.Kubernetes.Pool

structure Sandbox where
  name : String
  uid : Nat
  version : Nat
  attached : Bool
  deleting : Bool
  replicas : Nat
  alloc : List String
  release : List String
  released : List String
  finalizer : Bool
  deriving DecidableEq

def Sandbox.active (sb : Sandbox) (pod : String) : Prop := pod ∈ sb.alloc ∧ pod ∉ sb.released

instance (sb : Sandbox) (pod : String) : Decidable (sb.active pod) :=
  inferInstanceAs (Decidable (_ ∧ _))

structure Pod where
  name : String
  ready : Bool
  evict : Bool
  deriving DecidableEq

abbrev Store := GoMap String

variable (store : Store) (s : State) (input : Input)

def releaseAllocation (pods : List String) : Store :=
  pods.foldl (fun m pod => m.erase pod) store

def releaseSandboxAllocation (name : String) : Store :=
  store.keys.foldl (fun m pod => if store.lookup pod = some name then m.erase pod else m) store

def assign (name : String) (store : Store) (pods : List String) : Store :=
  pods.foldl (fun m pod => m.insert pod name) store

def updateAllocation (name : String) (pods : List String) : Store :=
  assign name (releaseSandboxAllocation store name) pods

def dropReleased (name : String) (store : Store) (pods : List String) : Store :=
  pods.foldl (fun m pod => if m.lookup pod = some name then m.erase pod else m) store

def recoverSandbox (sb : Sandbox) : Store :=
  dropReleased sb.name (assign sb.name store sb.alloc) sb.released

def recover (sandboxes : List Sandbox) : Store := sandboxes.foldl recoverSandbox ∅

structure SandboxRequest where
  name : String
  podSupplement : Nat
  toRelease : List String

def getSandboxRequest (sb : Sandbox) : SandboxRequest :=
  if sb.deleting then
    { name := sb.name
      podSupplement := 0
      toRelease := sb.alloc.filter (· ∉ sb.released) }
  else
    { name := sb.name
      podSupplement := sb.replicas - sb.alloc.length
      toRelease := sb.release.filter (· ∉ sb.released) }

def packedSchedule : List String → List SandboxRequest → List (String × List String)
  | _, [] => []
  | available, req :: rest =>
    (req.name, available.take req.podSupplement) ::
      packedSchedule (available.drop req.podSupplement) rest

def orphans (names : List String) : List (String × String) :=
  store.entries.filterMap fun entry =>
    if entry.2 ∈ names then none else some (entry.2, entry.1)

def needsEviction (pod : Pod) : Bool := pod.evict && (store.lookup pod.name).isNone

def evictions (pods : List Pod) : List Pod := pods.filter (needsEviction store)

def handleEviction (pods : List Pod) : List Pod :=
  pods.filter fun pod => !needsEviction store pod

def availablePods (pods : List Pod) : List String :=
  (pods.filter fun pod => pod.ready && (store.lookup pod.name).isNone).map Pod.name

inductive SyncOutcome
  | ok
  | failed
  | lost
  deriving DecidableEq

structure RecycleResult where
  failed : Bool
  succeeded : Bool
  needDelete : Bool

inductive Event
  | allocated (pod : String) (uid : Nat)
  | recycled (pod : String)
  deriving DecidableEq

structure World where
  store : Store
  sandboxes : GoMap Sandbox
  log : List Event

def patch (sandboxes : GoMap Sandbox) (name : String) (change : Sandbox → Sandbox) :
    GoMap Sandbox :=
  match sandboxes.lookup name with
  | none => sandboxes
  | some sb => sandboxes.insert name { change sb with version := sb.version + 1 }

def setAllocation (view : Sandbox) (pods : List String) (sb : Sandbox) : Sandbox :=
  { sb with
    alloc := pods
    finalizer := sb.finalizer || !view.finalizer }

def allReleased (view : Sandbox) (pods : List String) : Bool :=
  view.deleting && view.alloc.all (· ∈ pods)

def setReleased (view : Sandbox) (pods : List String) (sb : Sandbox) : Sandbox :=
  { sb with
    released := pods
    finalizer := sb.finalizer && !(allReleased view pods && view.finalizer) }

def World.outcomeOf (w : World) (name : String) (outcome : SyncOutcome) : SyncOutcome :=
  if (w.sandboxes.lookup name).isSome then outcome else .failed

def World.syncSandboxAllocation (w : World) (outcome : SyncOutcome) (view : Sandbox)
    (pods : List String) : World :=
  let store := updateAllocation w.store view.name (view.alloc ++ pods)
  let sandboxes := patch w.sandboxes view.name (setAllocation view (view.alloc ++ pods))
  let log := w.log ++ pods.map (Event.allocated · view.uid)
  match w.outcomeOf view.name outcome with
  | .ok => { store, sandboxes, log }
  | .failed => { w with store := updateAllocation store view.name view.alloc }
  | .lost => { store := updateAllocation store view.name view.alloc, sandboxes, log }

def World.syncSandboxReleased (w : World) (outcome : SyncOutcome) (view : Sandbox)
    (pods : List String) : World :=
  let sandboxes := patch w.sandboxes view.name (setReleased view (view.released ++ pods))
  match w.outcomeOf view.name outcome with
  | .ok => { w with store := releaseAllocation w.store (view.released ++ pods), sandboxes }
  | .failed => w
  | .lost => { w with sandboxes }

structure Input where
  pods : List Pod
  recovery : List Sandbox
  views : List Sandbox
  allocOrder : List Sandbox
  allocOutcome : String → SyncOutcome
  recycle : String → String → RecycleResult
  releaseOrder : List Sandbox
  releaseOutcome : String → SyncOutcome

abbrev Plan := List (String × List String)

def planned (plan : Plan) (name : String) : List String := (plan.lookup name).getD []

def World.doAllocate (plan : Plan) (outcome : String → SyncOutcome) :
    World → List Sandbox → World
  | w, [] => w
  | w, view :: views =>
    match planned plan view.name with
    | [] => World.doAllocate plan outcome w views
    | pods =>
      World.doAllocate plan outcome
        (w.syncSandboxAllocation (outcome view.name) view pods) views

def RecycleResult.done (r : RecycleResult) : Bool := !r.failed && r.succeeded

def Input.succeeded (name : String) (pods : List String) : List String :=
  pods.filter fun pod => (input.recycle name pod).done

def Input.recycledFor (view : Sandbox) : List String :=
  input.succeeded view.name (getSandboxRequest view).toRelease

def World.doRelease (input : Input) : World → List Sandbox → World
  | w, [] => w
  | w, view :: views =>
    match input.recycledFor view with
    | [] => World.doRelease input w views
    | pods =>
      World.doRelease input
        (w.syncSandboxReleased (input.releaseOutcome view.name) view pods) views

structure State where
  store : Store
  recovered : Bool
  sandboxes : GoMap Sandbox
  nextUid : Nat
  log : List Event

def State.initial : State :=
  { store := ∅
    recovered := false
    sandboxes := ∅
    nextUid := 0
    log := [] }

def State.allocation (recovery : List Sandbox) : Store :=
  if s.recovered then s.store else recover recovery

def State.plan : Plan :=
  packedSchedule
    (availablePods (s.allocation input.recovery) (handleEviction s.store input.pods))
    (input.views.map getSandboxRequest)

def State.orphanPods : List String :=
  ((orphans (s.allocation input.recovery) (input.views.map Sandbox.name)).filter
    fun entry => (input.recycle entry.1 entry.2).done).map Prod.snd

def State.scheduled : World :=
  World.doAllocate (s.plan input) input.allocOutcome
    { store := s.allocation input.recovery, sandboxes := s.sandboxes, log := s.log }
    input.allocOrder

def State.allocateFailed : Bool :=
  input.allocOrder.any fun view =>
    !(planned (s.plan input) view.name).isEmpty &&
      (!(s.sandboxes.lookup view.name).isSome || input.allocOutcome view.name ≠ .ok)

def State.recycledPods : List String :=
  input.views.flatMap input.recycledFor ++ s.orphanPods input

def State.recycledWorld : World :=
  let w := s.scheduled input
  { w with log := w.log ++ (s.recycledPods input).map Event.recycled }

def State.releasedWorld : World :=
  World.doRelease input (s.recycledWorld input) input.releaseOrder

def State.reconcilePool : State :=
  if s.allocateFailed input then
    let w := s.scheduled input
    { s with store := w.store, recovered := true, sandboxes := w.sandboxes, log := w.log }
  else
    let w := s.releasedWorld input
    { s with
      store := releaseAllocation w.store (s.orphanPods input)
      recovered := true
      sandboxes := w.sandboxes
      log := w.log }

@[mk_iff] structure Listing (sandboxes : GoMap Sandbox) (views : List Sandbox) : Prop where
  names : (views.map Sandbox.name).Nodup
  current : ∀ view ∈ views, sandboxes.lookup view.name = some view ∧ view.attached = true
  every : ∀ name ∈ sandboxes.keys,
    (sandboxes.lookup name).any Sandbox.attached = true → name ∈ views.map Sandbox.name

instance (sandboxes : GoMap Sandbox) (views : List Sandbox) : Decidable (Listing sandboxes views) :=
  decidable_of_iff' _ (listing_iff sandboxes views)

@[mk_iff] structure Input.Fresh (input : Input) (sandboxes : GoMap Sandbox) : Prop where
  pods : (input.pods.map Pod.name).Nodup
  recovery : Listing sandboxes input.recovery
  views : Listing sandboxes input.views
  allocOrder : input.allocOrder.Perm input.views
  releaseOrder : input.releaseOrder.Perm input.views

instance (input : Input) (sandboxes : GoMap Sandbox) : Decidable (input.Fresh sandboxes) :=
  decidable_of_iff' _ (input.fresh_iff sandboxes)

inductive Action
  | create (name : String) (replicas : Nat)
  | setReplicas (name : String) (replicas : Nat)
  | requestRelease (name : String) (pods : List String)
  | delete (name : String)
  | collect (name : String)
  | vanish (name : String)
  | detach (name : String)
  | restart
  | schedule (recovery : List Sandbox)
  | reconcile (input : Input)

def Sandbox.created (name : String) (uid replicas : Nat) : Sandbox :=
  { name
    uid
    version := 0
    attached := true
    deleting := false
    replicas
    alloc := []
    release := []
    released := []
    finalizer := false }

def Sandbox.detached (sb : Sandbox) : Sandbox :=
  { sb with
    attached := false
    release := []
    finalizer := false }

def State.edit (name : String) (change : Sandbox → Sandbox) : State :=
  { s with sandboxes := patch s.sandboxes name change }

def State.remove (name : String) : State :=
  { s with sandboxes := s.sandboxes.erase name }

def step : Action → Option State
  | .create name replicas =>
    if (s.sandboxes.lookup name).isSome then none
    else
      some { s with
        sandboxes := s.sandboxes.insert name (Sandbox.created name s.nextUid replicas)
        nextUid := s.nextUid + 1 }
  | .setReplicas name replicas => some (s.edit name fun sb => { sb with replicas })
  | .requestRelease name pods =>
    match s.sandboxes.lookup name with
    | none => none
    | some sb =>
      if sb.attached ∧ ∀ pod ∈ pods, pod ∈ sb.alloc then
        some (s.edit name fun sb => { sb with release := pods })
      else none
  | .delete name => some (s.edit name fun sb => { sb with deleting := true })
  | .collect name =>
    match s.sandboxes.lookup name with
    | none => none
    | some sb => if sb.deleting ∧ sb.finalizer = false then some (s.remove name) else none
  | .vanish name => some (s.remove name)
  | .detach name => some (s.edit name Sandbox.detached)
  | .restart => some { s with store := ∅, recovered := false }
  | .schedule recovery =>
    if Listing s.sandboxes recovery then
      some { s with store := s.allocation recovery, recovered := true }
    else none
  | .reconcile input =>
    if input.Fresh s.sandboxes then some (s.reconcilePool input) else none

structure Lagged where
  state : State
  past : List Sandbox
  seen : Nat → Nat

def Lagged.initial : Lagged :=
  { state := State.initial
    past := []
    seen := fun _ => 0 }

def Lagged.read (l : Lagged) (views : List Sandbox) : Prop :=
  (views.map Sandbox.name).Nodup ∧
    ∀ view ∈ views, view ∈ l.past ∧ view.attached = true ∧ l.seen view.uid ≤ view.version

instance (l : Lagged) (views : List Sandbox) : Decidable (l.read views) :=
  inferInstanceAs (Decidable (_ ∧ _))

def Lagged.observed (l : Lagged) (views : List Sandbox) : Nat → Nat :=
  views.foldl (fun seen view => fun uid => if uid = view.uid then view.version else seen uid) l.seen

def Lagged.record (l : Lagged) (t : State) (views : List Sandbox) : Lagged :=
  { state := t
    past := l.past ++ t.sandboxes.entries.map Sigma.snd
    seen := l.observed views }

def Lagged.step (l : Lagged) : Action → Option Lagged
  | .reconcile input =>
    if (input.pods.map Pod.name).Nodup ∧ l.read input.views ∧ l.read input.recovery ∧
        input.allocOrder.Perm input.views ∧ input.releaseOrder.Perm input.views then
      some (l.record (l.state.reconcilePool input) input.views)
    else none
  | .schedule recovery =>
    if l.read recovery then
      some (l.record
        { l.state with store := l.state.allocation recovery, recovered := true } recovery)
    else none
  | a => (Pool.step l.state a).map fun t => l.record t []

end OpenSandbox.Kubernetes.Pool
