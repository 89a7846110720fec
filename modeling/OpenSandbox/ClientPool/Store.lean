import OpenSandbox.Library.GoMap
import OpenSandbox.Library.Runs

namespace OpenSandbox.ClientPool

inductive DestroyState
  | active
  | destroying
  | destroyed
  deriving DecidableEq

inductive StoreError
  | destroyed (state : DestroyState)
  | invalid
  | unavailable
  deriving DecidableEq

structure Lock where
  ownerID : String
  expiresAt : Nat

structure Store where
  idleMap : GoMap (Option Nat)
  idleQueue : List String
  lock : Lock
  idleTTL : Nat
  maxIdle : Int
  destroyState : DestroyState
  destroyOwnerID : String
  destroyExpiresAt : Option Nat

structure TakeIdleResult where
  sandboxID : String
  discardedAliveSandboxIDs : List String

def defaultIdleTimeout : Nat := 24 * 3600 * 1000000000

def millisecond : Nat := 1000000

def expired (now : Nat) : Option Nat → Bool
  | none => false
  | some expiresAt => decide (expiresAt < now)

def live (now : Nat) : Option Nat → Bool
  | none => true
  | some expiresAt => decide (now < expiresAt)

def belowThreshold (now minRemaining : Nat) : Option Nat → Bool
  | none => false
  | some expiresAt => decide (expiresAt - now < minRemaining)

def elapsed (now : Nat) : Option Nat → Bool
  | none => false
  | some expiresAt => decide (expiresAt ≤ now)

namespace Store

variable (now : Nat) (ownerID : String) (s : Store)

def destroyStateLocked : DestroyState × Store :=
  if s.destroyState = .active then (.active, s)
  else if elapsed now s.destroyExpiresAt then
    (.active,
      { s with destroyState := .active, destroyOwnerID := "", destroyExpiresAt := none })
  else (s.destroyState, s)

def rebuildQueue : Store :=
  { s with idleQueue := s.idleQueue.filter fun id => (s.idleMap.lookup id).isSome }

def takeFrom (now minRemaining : Nat) :
    List String → GoMap (Option Nat) → TakeIdleResult × List String × GoMap (Option Nat)
  | [], idle => (⟨"",[]⟩, [], idle)
  | id :: queue, idle =>
    match idle.lookup id with
    | none => takeFrom now minRemaining queue idle
    | some expiresAt =>
      if expired now expiresAt then takeFrom now minRemaining queue (idle.erase id)
      else if belowThreshold now minRemaining expiresAt then
        let rest := takeFrom now minRemaining queue (idle.erase id)
        (⟨rest.1.sandboxID,id :: rest.1.discardedAliveSandboxIDs⟩, rest.2)
      else (⟨id,[]⟩, queue, idle.erase id)

def tryTakeIdleWithMinTTL (now minRemaining : Nat) (s : Store) :
    Except StoreError TakeIdleResult × Store :=
  let taken := takeFrom now minRemaining s.idleQueue s.idleMap
  (.ok taken.1, { s with idleQueue := taken.2.1, idleMap := taken.2.2 })

def tryTakeIdle : Except StoreError TakeIdleResult × Store :=
  tryTakeIdleWithMinTTL now 0 s

def putIdle (sandboxID : String) (s : Store) : Except StoreError Unit × Store :=
  if sandboxID = "" then (.error .invalid, s)
  else
    let fence := destroyStateLocked now s
    if fence.1 ≠ .active then (.error (.destroyed fence.1), fence.2)
    else
      let store := fence.2
      let added (t : Store) : Store :=
        { t with
          idleMap := t.idleMap.insert sandboxID (some (now + t.idleTTL))
          idleQueue := t.idleQueue ++ [sandboxID] }
      match store.idleMap.lookup sandboxID with
      | none => (.ok (), added store)
      | some expiresAt =>
        if live now expiresAt then (.ok (), store)
        else (.ok (), added (rebuildQueue { store with idleMap := store.idleMap.erase sandboxID }))

def removeIdle (sandboxID : String) (s : Store) : Except StoreError Unit × Store :=
  (.ok (), { s with idleMap := s.idleMap.erase sandboxID })

def tryAcquirePrimaryLock (ttl : Nat) (s : Store) : Except StoreError Bool × Store :=
  let fence := destroyStateLocked now s
  if fence.1 ≠ .active then (.ok false, fence.2)
  else
    let store := fence.2
    if store.lock.ownerID ≠ "" ∧ now < store.lock.expiresAt then
      if store.lock.ownerID = ownerID then
        (.ok true, { store with lock := { store.lock with expiresAt := now + ttl } })
      else (.ok false, store)
    else (.ok true, { store with lock := ⟨ownerID,now + ttl⟩ })

def renewPrimaryLock (ttl : Nat) (s : Store) : Except StoreError Bool × Store :=
  let fence := destroyStateLocked now s
  if fence.1 ≠ .active then (.ok false, fence.2)
  else
    let store := fence.2
    if store.lock.ownerID ≠ ownerID then (.ok false, store)
    else if store.lock.expiresAt < now then
      (.ok false, { store with lock := { store.lock with ownerID := "" } })
    else (.ok true, { store with lock := { store.lock with expiresAt := now + ttl } })

def releasePrimaryLock : Except StoreError Unit × Store :=
  if s.lock.ownerID = ownerID then (.ok (), { s with lock := ⟨"",0⟩ }) else (.ok (), s)

def idsWhere (p : Option Nat → Bool) (idle : GoMap (Option Nat)) : List String :=
  idle.keys.filter fun id =>
    match idle.lookup id with
    | none => false
    | some expiresAt => p expiresAt

def reapExpiredIdleWithMinTTL (now minRemaining : Nat) (s : Store) :
    Except StoreError (List String) × Store :=
  let lapsed := idsWhere (expired now) s.idleMap
  let discardedAlive :=
    idsWhere (fun e => !expired now e && belowThreshold now minRemaining e) s.idleMap
  let idle := (lapsed ++ discardedAlive).foldl (fun idle id => idle.erase id) s.idleMap
  (.ok discardedAlive, rebuildQueue { s with idleMap := idle })

def idleCount : Nat := (idsWhere (live now) s.idleMap).length

def snapshotCounters : Except StoreError Nat × Store :=
  (.ok (idleCount now s), s)

def getMaxIdle : Except StoreError Int × Store := (.ok s.maxIdle, s)

def rejectIfFencedLocked (change : Store → Store) (s : Store) : Except StoreError Unit × Store :=
  let fence := destroyStateLocked now s
  if fence.1 ≠ .active then (.error (.destroyed fence.1), fence.2) else (.ok (), change fence.2)

def setMaxIdle (maxIdle : Int) : Store → Except StoreError Unit × Store :=
  rejectIfFencedLocked now fun s => { s with maxIdle := maxIdle }

def setIdleEntryTTL (now ttl : Nat) : Store → Except StoreError Unit × Store :=
  rejectIfFencedLocked now fun s => { s with idleTTL := max ttl millisecond }

def getDestroyState : Except StoreError DestroyState × Store :=
  let fence := destroyStateLocked now s
  (.ok fence.1, fence.2)

def beginDestroy : Except StoreError Unit × Store :=
  if ownerID = "" then (.error .invalid, s)
  else
    let fence := destroyStateLocked now s
    if fence.1 = .destroyed then (.error (.destroyed .destroyed), fence.2)
    else
      (.ok (),
        { fence.2 with
          destroyState := .destroying
          destroyOwnerID := ownerID
          destroyExpiresAt := none })

def clearPoolState : Except StoreError Unit × Store :=
  (.ok (),
    { s with
      idleMap := ∅
      idleQueue := []
      lock := ⟨"",0⟩
      idleTTL := defaultIdleTimeout
      maxIdle := 0 })

def markDestroyed (tombstoneTTL : Nat) (s : Store) : Except StoreError Unit × Store :=
  if ownerID = "" then (.error .invalid, s)
  else
    (.ok (),
      { s with
        destroyState := .destroyed
        destroyOwnerID := ownerID
        destroyExpiresAt := if tombstoneTTL = 0 then none else some (now + tombstoneTTL) })

end Store

end OpenSandbox.ClientPool
