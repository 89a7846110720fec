import OpenSandbox.ClientPool.Store

namespace OpenSandbox.ClientPool

inductive Reply
  | answered
  | failed
  | lost

def Reply.perform {α : Type} (reply : Reply) (call : Store → Except StoreError α × Store)
    (s : Store) : Except StoreError α × Store :=
  match reply with
  | .answered => call s
  | .failed => (.error .unavailable, s)
  | .lost => (.error .unavailable, (call s).2)

structure PoolConfig where
  primaryLockTTL : Nat
  acquireMinRemainingTTL : Nat
  warmupConcurrency : Nat

inductive Tick
  | resting
  | locking
  | reaping
  | counting
  | sizing (idleCount : Nat)
  | shrinking (toRemove : Nat)
  | evicting (toRemove : Nat)
  | renewing (toCreate : Nat)
  | creating (toCreate : Nat)
  | publishing (id : String) (rest : List String)
  | putting (id : String) (rest : List String) (granted : Nat)
  | removing (id : String) (rest : List String)
  | deleting (id : String) (ids : List String) (next : Tick)
  deriving DecidableEq

def Tick.delete : List String → Tick → Tick
  | [], next => next
  | id :: ids, next => .deleting id ids next

def Tick.publish : List String → Tick
  | [] => .resting
  | id :: rest => .publishing id rest

def Tick.shrink : Nat → Tick
  | 0 => .resting
  | n + 1 => .shrinking (n + 1)

inductive AcquirePolicy
  | failFast
  | directCreate
  | retryNextIdle
  | retryNextIdleThenCreate

def effectiveMaxIdleAttempts (policy : AcquirePolicy) (maxAcquireRetries : Int) : Nat :=
  match policy with
  | .retryNextIdle | .retryNextIdleThenCreate =>
    if maxAcquireRetries < 1 then 1 else maxAcquireRetries.toNat
  | _ => 1

def policyFallsThroughToDirectCreate : AcquirePolicy → Bool
  | .directCreate | .retryNextIdleThenCreate => true
  | _ => false

structure AcquireOptions where
  policy : AcquirePolicy
  minTTL : Nat
  maxAcquireRetries : Int
  renews : Bool

structure Attempt where
  opts : AcquireOptions
  left : Nat
  pendingKill : List String

inductive Acquire
  | ready
  | taking (attempt : Attempt)
  | connecting (attempt : Attempt) (id : String)
  | removing (attempt : Attempt) (id : String)
  | rechecking (attempt : Attempt)
  | renewing (attempt : Attempt) (id : String)
  | confirming (attempt : Attempt) (id : String)
  | creating (opts : AcquireOptions)
  | confirmingCreated (opts : AcquireOptions) (id : String)
  | done

structure DestroyOptions where
  ownerID : String
  drainTimeout : Nat
  tombstoneTTL : Nat

inductive DestroyResult
  | already
  | fresh
  | incomplete
  | failed

inductive Destroy
  | ready
  | fencing (opts : DestroyOptions)
  | draining (opts : DestroyOptions) (deadline : Nat)
  | killing (opts : DestroyOptions) (deadline : Nat) (id : String)
  | clearing (opts : DestroyOptions)
  | marking (opts : DestroyOptions)
  | done (result : DestroyResult)

inductive Event
  | returned (id : String)
  | killed (id : String)

structure State where
  now : Nat
  store : Store
  ticks : String → Tick
  acquires : Nat → Acquire
  destroys : Nat → Destroy
  spawned : List String
  issued : List String
  log : List Event

structure TickInput where
  reply : Reply
  clock : Nat
  backoff : Bool
  created : List String
  aborted : List String

structure AcquireInput where
  reply : Reply
  opts : AcquireOptions
  connected : Bool
  cancelled : Bool
  renewed : Bool
  created : Option String

structure DestroyInput where
  reply : Reply
  opts : DestroyOptions

namespace State

variable (s : State) (call : Nat) (store : Store)

def setTick (owner : String) (store : Store) (tick : Tick) : State :=
  { s with store := store, ticks := Function.update s.ticks owner tick }

def setAcquire (acquire : Acquire) : State :=
  { s with store := store, acquires := Function.update s.acquires call acquire }

def setDestroy (destroy : Destroy) : State :=
  { s with store := store, destroys := Function.update s.destroys call destroy }

def spawnKills (ids : List String) : State := { s with spawned := s.spawned ++ ids }

def kill (id : String) : State := { s with log := s.log ++ [.killed id] }

def issue (ids : List String) : State := { s with issued := s.issued ++ ids }

def handOver (id : String) : State := { s with log := s.log ++ [.returned id] }

def unused (ids : List String) : Bool :=
  decide ids.Nodup && ids.all fun id => decide (id ≠ "") && decide (id ∉ s.issued)

def afterDestroyCheck : Except StoreError DestroyState → Tick
  | .ok .active => .locking
  | .ok _ => .resting
  | .error _ => .locking

def afterLock : Except StoreError Bool → Tick
  | .ok true => .reaping
  | _ => .resting

def afterReap : Except StoreError (List String) → Tick
  | .ok ids => .delete ids .counting
  | .error _ => .counting

def afterCount : Except StoreError Nat → Tick
  | .ok idleCount => .sizing idleCount
  | .error _ => .resting

def afterMaxIdle (cfg : PoolConfig) (backoff : Bool) (idleCount : Nat) :
    Except StoreError Int → Tick
  | .error _ => .resting
  | .ok maxIdle =>
    if maxIdle < idleCount then .shrink (min (idleCount - maxIdle).toNat cfg.warmupConcurrency)
    else if maxIdle - idleCount ≤ 0 then .resting
    else if backoff then .resting
    else .renewing (min (maxIdle - idleCount).toNat cfg.warmupConcurrency)

def afterRenew (next : Tick) (lost : Tick) : Except StoreError Bool → Tick
  | .ok true => next
  | _ => lost

def afterEvict (toRemove : Nat) : Except StoreError TakeIdleResult → Tick
  | .error _ => .resting
  | .ok taken =>
    if taken.sandboxID = "" then .resting
    else .deleting taken.sandboxID [] (.shrink (toRemove - 1))

def afterPut (id : String) (rest : List String) : Except StoreError Unit → Tick
  | .ok () => .publish rest
  | .error _ => .removing id rest

def reconcileTick (cfg : PoolConfig) (owner : String) (i : TickInput) : Option State :=
  match s.ticks owner with
  | .resting =>
    let r := i.reply.perform (Store.getDestroyState s.now) s.store
    some (s.setTick owner r.2 (afterDestroyCheck r.1))
  | .locking =>
    let r := i.reply.perform (Store.tryAcquirePrimaryLock s.now owner cfg.primaryLockTTL) s.store
    some (s.setTick owner r.2 (afterLock r.1))
  | .reaping =>
    if i.clock ≤ s.now then
      let r := i.reply.perform
        (Store.reapExpiredIdleWithMinTTL i.clock cfg.acquireMinRemainingTTL) s.store
      some (s.setTick owner r.2 (afterReap r.1))
    else none
  | .counting =>
    let r := i.reply.perform (Store.snapshotCounters s.now) s.store
    some (s.setTick owner r.2 (afterCount r.1))
  | .sizing idleCount =>
    let r := i.reply.perform Store.getMaxIdle s.store
    some (s.setTick owner r.2 (afterMaxIdle cfg i.backoff idleCount r.1))
  | .shrinking toRemove =>
    let r := i.reply.perform (Store.renewPrimaryLock s.now owner cfg.primaryLockTTL) s.store
    some (s.setTick owner r.2 (afterRenew (.evicting toRemove) .resting r.1))
  | .evicting toRemove =>
    let r := i.reply.perform (Store.tryTakeIdle s.now) s.store
    some (s.setTick owner r.2 (afterEvict toRemove r.1))
  | .renewing toCreate =>
    let r := i.reply.perform (Store.renewPrimaryLock s.now owner cfg.primaryLockTTL) s.store
    some (s.setTick owner r.2 (afterRenew (.creating toCreate) .resting r.1))
  | .creating toCreate =>
    if s.unused (i.created ++ i.aborted) && i.created.length + i.aborted.length ≤ toCreate then
      some (((s.issue (i.created ++ i.aborted)).spawnKills i.aborted).setTick owner s.store
        (.publish i.created))
    else none
  | .publishing id rest =>
    let r := i.reply.perform (Store.renewPrimaryLock s.now owner cfg.primaryLockTTL) s.store
    some (s.setTick owner r.2
      (afterRenew (.putting id rest (s.now + cfg.primaryLockTTL)) (.deleting id rest .resting)
        r.1))
  | .putting id rest _ =>
    let r := i.reply.perform (Store.putIdle s.now id) s.store
    some (s.setTick owner r.2 (afterPut id rest r.1))
  | .removing id rest =>
    let r := i.reply.perform (Store.removeIdle id) s.store
    some (s.setTick owner r.2 (.deleting id rest .resting))
  | .deleting id ids next => some ((s.kill id).setTick owner s.store (.delete ids next))

def refused (policy : AcquirePolicy) : Except StoreError DestroyState → Bool
  | .ok .active => false
  | .ok _ => true
  | .error _ => !policyFallsThroughToDirectCreate policy

def leaveLoop (attempt : Attempt) : State :=
  (s.spawnKills attempt.pendingKill).setAcquire call store
    (if policyFallsThroughToDirectCreate attempt.opts.policy then .creating attempt.opts else .done)

def giveUp (attempt : Attempt) : State :=
  (s.spawnKills attempt.pendingKill).setAcquire call store .done

def afterTake (attempt : Attempt) : Except StoreError TakeIdleResult → State
  | .error _ => s.leaveLoop call store attempt
  | .ok taken =>
    let next : Attempt :=
      { attempt with pendingKill := attempt.pendingKill ++ taken.discardedAliveSandboxIDs }
    if taken.sandboxID = "" then s.leaveLoop call store next
    else s.setAcquire call store (.connecting next taken.sandboxID)

def nextAttempt (attempt : Attempt) : State :=
  let next : Attempt := { attempt with left := attempt.left - 1 }
  if next.left = 0 then s.leaveLoop call store next
  else s.setAcquire call store (.taking next)

def acquire (i : AcquireInput) : Option State :=
  match s.acquires call with
  | .ready =>
    let r := i.reply.perform (Store.getDestroyState s.now) s.store
    let attempts := effectiveMaxIdleAttempts i.opts.policy i.opts.maxAcquireRetries
    some (s.setAcquire call r.2
      (if refused i.opts.policy r.1 then .done else .taking ⟨i.opts,attempts,[]⟩))
  | .taking attempt =>
    let r := i.reply.perform (Store.tryTakeIdleWithMinTTL s.now attempt.opts.minTTL) s.store
    some (s.afterTake call r.2 attempt r.1)
  | .connecting attempt id =>
    some (s.setAcquire call s.store
      (if !i.connected then .removing attempt id
      else if attempt.opts.renews then .renewing attempt id
      else .confirming attempt id))
  | .removing attempt id =>
    let r := i.reply.perform (Store.removeIdle id) s.store
    let t := s.spawnKills [id]
    some (if i.cancelled then t.giveUp call r.2 attempt
      else t.setAcquire call r.2 (.rechecking attempt))
  | .rechecking attempt =>
    let r := i.reply.perform (Store.getDestroyState s.now) s.store
    some (if refused attempt.opts.policy r.1 then s.giveUp call r.2 attempt
      else s.nextAttempt call r.2 attempt)
  | .renewing attempt id =>
    some (if i.renewed then s.setAcquire call s.store (.confirming attempt id)
      else (s.spawnKills [id]).giveUp call s.store attempt)
  | .confirming attempt id =>
    let r := i.reply.perform (Store.getDestroyState s.now) s.store
    some (match r.1 with
      | .ok .active => (s.handOver id).giveUp call r.2 attempt
      | _ => (s.spawnKills [id]).giveUp call r.2 attempt)
  | .creating opts =>
    match i.created with
    | none => some (s.setAcquire call s.store .done)
    | some id =>
      if s.unused [id] then
        some (if opts.renews && !i.renewed then
            ((s.issue [id]).spawnKills [id]).setAcquire call s.store .done
          else (s.issue [id]).setAcquire call s.store (.confirmingCreated opts id))
      else none
  | .confirmingCreated opts id =>
    let r := i.reply.perform (Store.getDestroyState s.now) s.store
    some (if refused opts.policy r.1 then (s.spawnKills [id]).setAcquire call r.2 .done
      else (s.handOver id).setAcquire call r.2 .done)
  | .done => none

def afterFence (opts : DestroyOptions) : Except StoreError Unit → Destroy
  | .ok () => .draining opts (s.now + opts.drainTimeout)
  | .error (.destroyed _) => .done .already
  | .error _ => .done .failed

def afterDrain (opts : DestroyOptions) (deadline : Nat) :
    Except StoreError TakeIdleResult → Destroy
  | .error _ => .done .incomplete
  | .ok taken =>
    if taken.sandboxID = "" then .clearing opts else .killing opts deadline taken.sandboxID

def destroy (i : DestroyInput) : Option State :=
  match s.destroys call with
  | .ready =>
    let r := i.reply.perform (Store.getDestroyState s.now) s.store
    some (s.setDestroy call r.2 (match r.1 with
      | .error _ => .done .failed
      | .ok .destroyed => .done .already
      | .ok _ => .fencing i.opts))
  | .fencing opts =>
    let r := i.reply.perform (Store.beginDestroy s.now opts.ownerID) s.store
    some (s.setDestroy call r.2 (s.afterFence opts r.1))
  | .draining opts deadline =>
    let r := i.reply.perform (Store.tryTakeIdle s.now) s.store
    some (s.setDestroy call r.2 (afterDrain opts deadline r.1))
  | .killing opts deadline id =>
    some ((s.kill id).setDestroy call s.store
      (if 0 < opts.drainTimeout ∧ deadline < s.now then .done .incomplete
      else .draining opts deadline))
  | .clearing opts =>
    let r := i.reply.perform Store.clearPoolState s.store
    some (s.setDestroy call r.2 (match r.1 with
      | .ok () => .marking opts
      | .error _ => .done .incomplete))
  | .marking opts =>
    let r := i.reply.perform (Store.markDestroyed s.now opts.ownerID opts.tombstoneTTL) s.store
    some (s.setDestroy call r.2 (match r.1 with
      | .ok () => .done .fresh
      | .error _ => .done .incomplete))
  | .done _ => none

def releaseAllIdle (reply : Reply) : State :=
  let r := reply.perform (Store.tryTakeIdle s.now) s.store
  match r.1 with
  | .error _ => { s with store := r.2 }
  | .ok taken =>
    if taken.sandboxID = "" then { s with store := r.2 }
    else { s.spawnKills [taken.sandboxID] with store := r.2 }

end State

inductive Action
  | advance (duration : Nat)
  | reconcileTick (owner : String) (i : TickInput)
  | releasePrimaryLock (owner : String) (reply : Reply)
  | setMaxIdle (maxIdle : Int) (reply : Reply)
  | setIdleEntryTTL (ttl : Nat) (reply : Reply)
  | acquire (call : Nat) (i : AcquireInput)
  | releaseAllIdle (reply : Reply)
  | killSandbox (id : String)
  | destroy (call : Nat) (i : DestroyInput)

def State.change {α : Type} (s : State) (reply : Reply)
    (call : Store → Except StoreError α × Store) : State :=
  { s with store := (reply.perform call s.store).2 }

def step (cfg : String → PoolConfig) (s : State) : Action → Option State
  | .advance duration => some { s with now := s.now + duration }
  | .reconcileTick owner i => if owner = "" then none else s.reconcileTick (cfg owner) owner i
  | .releasePrimaryLock owner reply =>
    if owner ≠ "" ∧ s.ticks owner = .resting then
      some (s.change reply (Store.releasePrimaryLock owner))
    else none
  | .setMaxIdle maxIdle reply => some (s.change reply (Store.setMaxIdle s.now maxIdle))
  | .setIdleEntryTTL ttl reply => some (s.change reply (Store.setIdleEntryTTL s.now ttl))
  | .acquire call i => s.acquire call i
  | .releaseAllIdle reply => some (s.releaseAllIdle reply)
  | .killSandbox id =>
    if id ∈ s.spawned then some { s.kill id with spawned := s.spawned.erase id } else none
  | .destroy call i => s.destroy call i

end OpenSandbox.ClientPool
