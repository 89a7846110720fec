import OpenSandbox.Library.SecondaryIndex
import OpenSandbox.Egress.Policy
import OpenSandbox.Egress.Slots

namespace OpenSandbox.Registry

open Netip Policy Slots SecondaryIndex Function

structure Subject where
  name : String
  deriving DecidableEq

def fromSandboxUID (sandboxUID : String) : Subject := ⟨"s-" ++ sandboxUID⟩

structure Fencing where
  sandboxUID : String
  instanceGeneration : Nat
  assignmentAttempt : Nat
  deriving DecidableEq

def Fencing.matches (f other : Fencing) : Bool :=
  f.sandboxUID = other.sandboxUID && f.instanceGeneration = other.instanceGeneration &&
    f.assignmentAttempt = other.assignmentAttempt

theorem Fencing.matches_iff (f other : Fencing) : f.matches other = true ↔ f = other := by
  cases f; cases other
  simp [Fencing.matches,and_assoc]

def fromSlotOwner (o : Owner) : Fencing := ⟨o.sandboxUID,o.instanceGeneration,o.assignmentAttempt⟩

inductive State where
  | absent
  | denying
  | active
  deriving DecidableEq

structure SubjectKey where
  netNSPath : String
  sourceIP : Addr
  uid : Nat
  cgroup : String
  deriving DecidableEq

def keyEquals (a b : SubjectKey) : Bool :=
  a.netNSPath = b.netNSPath && a.sourceIP = b.sourceIP && a.uid = b.uid && a.cgroup = b.cgroup

theorem keyEquals_iff (a b : SubjectKey) : keyEquals a b = true ↔ a = b := by
  cases a; cases b
  simp [keyEquals,and_assoc]

def SubjectKey.ipKey (key : SubjectKey) : Option Addr :=
  if key.sourceIP.isValid then some key.sourceIP else none

def SubjectKey.netnsKey (key : SubjectKey) : Option String :=
  if key.netNSPath ≠ "" then some key.netNSPath else none

structure Entry where
  subject : Subject
  key : SubjectKey
  fence : Fencing
  state : State
  user : Option NetworkPolicy
  effective : Option NetworkPolicy
  deriving DecidableEq

def newEntry (s : Subject) (key : SubjectKey) (fence : Fencing) : Entry :=
  ⟨s,key,fence,.denying,none,none⟩

structure MemoryRegistry where
  bySubject : Subject → Option Entry
  byIP : Addr → Option Subject
  byNetns : String → Option Subject
  alwaysDeny : List EgressRule
  alwaysAllow : List EgressRule

def newRegistry (alwaysDeny alwaysAllow : List EgressRule) : MemoryRegistry :=
  ⟨fun _ => none,fun _ => none,fun _ => none,alwaysDeny,alwaysAllow⟩

namespace MemoryRegistry

variable (r : MemoryRegistry) (s : Subject) (key : SubjectKey) (fence : Fencing)

def addIndex (e : Entry) : MemoryRegistry :=
  { r with
    byIP := Index.add r.byIP e.subject e.key.ipKey
    byNetns := Index.add r.byNetns e.subject e.key.netnsKey }

def dropIndex (e : Entry) : MemoryRegistry :=
  { r with
    byIP := Index.drop r.byIP e.key.ipKey
    byNetns := Index.drop r.byNetns e.key.netnsKey }

def store (e : Option Entry) : MemoryRegistry :=
  { r with bySubject := Function.update r.bySubject s e }

def rekey (r : MemoryRegistry) (s : Subject) (e : Entry) (key : SubjectKey) : MemoryRegistry :=
  if keyEquals e.key key then r
  else ((r.dropIndex e).store s (some { e with key })).addIndex { e with key }

def enroll : MemoryRegistry :=
  (r.store s (some (newEntry s key fence))).addIndex (newEntry s key fence)

def observe : State × MemoryRegistry :=
  match r.bySubject s with
  | none => (.denying, r.enroll s key fence)
  | some e =>
      if e.fence.matches fence then
        if e.state = .active then (.active, r.rekey s e key)
        else (.denying, (r.rekey s e key).enroll s key fence)
      else (.denying, ((r.dropIndex e).store s none).enroll s key fence)

def registerAndEnforce (enforce : Except String Unit) :
    (State × Except String Unit) × MemoryRegistry :=
  match r.observe s key fence with
  | (.active, r') => ((.active, .ok ()), r')
  | (_, r') => ((.denying, enforce), r')

def register : State × MemoryRegistry :=
  let out := r.registerAndEnforce s key fence (.ok ())
  (out.1.1, out.2)

def get : State × Bool :=
  match r.bySubject s with
  | none => (.absent, false)
  | some e => (e.state, true)

def resolve : Option Subject :=
  (key.ipKey.bind r.byIP).or (key.netnsKey.bind r.byNetns)

def errUnknownSubject : String := "subject not registered"

def activate (e : Entry) (pol : NetworkPolicy) : Entry :=
  { e with
    user := some pol
    effective := some (mergeAlwaysOverlay (some pol) r.alwaysDeny r.alwaysAllow)
    state := .active }

def applyPolicy (pol : Option NetworkPolicy) : Except String MemoryRegistry :=
  match r.bySubject s with
  | none => .error errUnknownSubject
  | some e => .ok (r.store s (some (r.activate e (pol.getD defaultDenyPolicy))))

def effectiveOf (pol : Option NetworkPolicy) : NetworkPolicy :=
  mergeAlwaysOverlay (some (pol.getD defaultDenyPolicy)) r.alwaysDeny r.alwaysAllow

def setAlwaysRules (alwaysDeny alwaysAllow : List EgressRule) : MemoryRegistry :=
  { r with
    alwaysDeny := alwaysDeny
    alwaysAllow := alwaysAllow
    bySubject := fun s => (r.bySubject s).map fun e =>
      if e.user.isSome then
        { e with effective := some (mergeAlwaysOverlay e.user alwaysDeny alwaysAllow) }
      else e }

def unregister : State × MemoryRegistry :=
  match r.bySubject s with
  | none => (.absent, r)
  | some e => (e.state, (r.dropIndex e).store s none)

end MemoryRegistry

inductive Op where
  | register (s : Subject) (key : SubjectKey) (fence : Fencing) (enforce : Except String Unit)
  | applyPolicy (s : Subject) (pol : Option NetworkPolicy)
  | setAlwaysRules (alwaysDeny alwaysAllow : List EgressRule)
  | unregister (s : Subject)

def MemoryRegistry.step (r : MemoryRegistry) : Op → MemoryRegistry
  | .register s key fence enforce => (r.registerAndEnforce s key fence enforce).2
  | .applyPolicy s pol => match r.applyPolicy s pol with
      | .ok r' => r'
      | .error _ => r
  | .setAlwaysRules alwaysDeny alwaysAllow => r.setAlwaysRules alwaysDeny alwaysAllow
  | .unregister s => (r.unregister s).2

namespace MemoryRegistry

variable (r : MemoryRegistry) (s : Subject) (key : SubjectKey) (fence : Fencing)

theorem registerAndEnforce_registry (enforce : Except String Unit) :
    (r.registerAndEnforce s key fence enforce).2 = (r.observe s key fence).2 := by
  unfold registerAndEnforce
  split <;> simp_all

theorem bySubject_rekey {r : MemoryRegistry} {s : Subject} {e : Entry} {key : SubjectKey}
    (he : r.bySubject s = some e) :
    (r.rekey s e key).bySubject = Function.update r.bySubject s (some { e with key }) := by
  unfold rekey
  split
  · next h =>
    have hk := (keyEquals_iff _ _).mp h
    subst hk
    rw [← he,update_eq_self]
  · rfl

theorem bySubject_observe : (∃ e, r.bySubject s = some e ∧ e.fence = fence ∧ e.state = .active ∧
      (r.observe s key fence).1 = .active ∧ (r.observe s key fence).2 = r.rekey s e key ∧
      (r.observe s key fence).2.bySubject = Function.update r.bySubject s (some { e with key })) ∨
    ((r.observe s key fence).1 = .denying ∧
      (∀ e, r.bySubject s = some e → ¬ (e.fence = fence ∧ e.state = .active)) ∧
      (r.observe s key fence).2.bySubject =
        Function.update r.bySubject s (some (newEntry s key fence))) := by
  unfold observe
  split
  · next he => exact .inr ⟨rfl,by simp [he],rfl⟩
  next e he =>
  split
  · next hf =>
    have hfence := (Fencing.matches_iff _ _).mp hf
    split_ifs with ha
    · exact .inl ⟨e,he,hfence,ha,rfl,rfl,bySubject_rekey he⟩
    · refine .inr ⟨rfl,by simp [he,ha],?_⟩
      simp [enroll,addIndex,store,bySubject_rekey he]
  · next hf =>
    have hfence : e.fence ≠ fence := fun h => hf ((Fencing.matches_iff _ _).mpr h)
    refine .inr ⟨rfl,by simp [he,hfence],?_⟩
    simp [enroll,addIndex,store,dropIndex]

theorem always_observe : (r.observe s key fence).2.alwaysDeny = r.alwaysDeny ∧
      (r.observe s key fence).2.alwaysAllow = r.alwaysAllow := by
  unfold observe rekey
  split
  · exact ⟨rfl,rfl⟩
  · split_ifs <;> exact ⟨rfl,rfl⟩

theorem bySubject_unregister :
    (r.unregister s).2.bySubject = Function.update r.bySubject s none := by
  unfold unregister
  split
  · next he => rw [← he,update_eq_self]
  · rfl

end MemoryRegistry

end OpenSandbox.Registry
