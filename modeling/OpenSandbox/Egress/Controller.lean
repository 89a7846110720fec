import OpenSandbox.Library.KeyedLog
import OpenSandbox.Library.Retry
import OpenSandbox.Egress.Registry

namespace OpenSandbox.Lifecycle

open Policy Slots Registry MemoryRegistry

structure Backoff where
  duration : Nat
  factor : Nat
  steps : Nat
  cap : Nat

structure WaitHelper (σ : Type) where
  exponentialBackoff : (σ → Bool × σ) → Backoff → σ → Bool × σ
  attempts : Backoff → Nat
  called : ∀ b : Backoff, b.steps ≠ 0 → attempts b ≠ 0
  retried : ∀ condition b st,
    exponentialBackoff condition b st = Retry.upTo condition (attempts b) st

def WaitHelper.perStep {σ : Type} : WaitHelper σ :=
  ⟨fun condition b => Retry.upTo condition b.steps,Backoff.steps,fun _ h => h,fun _ _ _ => rfl⟩

def registerBackoff : Backoff := ⟨100,2,6,2000⟩

variable {σ : Type} (wait : WaitHelper σ)

theorem WaitHelper.registerBackoff_eq (condition : σ → Bool × σ) (st : σ) :
    ∃ n, wait.attempts registerBackoff = n + 1 ∧
      wait.exponentialBackoff condition registerBackoff st = Retry.upTo condition (n + 1) st := by
  obtain ⟨n,hn⟩ := Nat.exists_eq_succ_of_ne_zero (wait.called registerBackoff (by decide))
  exact ⟨n,hn,by rw [wait.retried,hn]⟩

def errWaitTimeout : String := "timed out waiting for the condition"

structure LifecycleHooks (H : Type) where
  onRegistered : Subject → Slot → H → Except String Unit × H
  onRegisteredComplete : Subject → Slot → H → List (Subject × NetworkPolicy) × H
  onSlotUpdated : Subject → Slot → H → Except String Unit × H
  onUnloaded : Subject → Slot → H → Except String Unit × H

structure LifecycleHooks.Reliable {H : Type} (hooks : LifecycleHooks H) : Prop where
  registered : ∀ s slot w, (hooks.onRegistered s slot w).1 = .ok ()
  updated : ∀ s slot w, (hooks.onSlotUpdated s slot w).1 = .ok ()
  unloaded : ∀ s slot w, (hooks.onUnloaded s slot w).1 = .ok ()

structure Controller (H : Type) where
  reg : MemoryRegistry
  world : H

variable {H : Type} (wait : WaitHelper (State × Controller H))

def slotSubject (slot : Slot) : Subject := fromSandboxUID slot.owner.sandboxUID

def slotKey (slot : Slot) : SubjectKey := ⟨slot.hostNetnsPath,slot.ip,0,""⟩

def attempt (hooks : LifecycleHooks H) (slot : Slot) (st : State × Controller H) :
    Bool × State × Controller H :=
  let c := st.2
  let enforced := hooks.onRegistered (slotSubject slot) slot c.world
  let out := c.reg.registerAndEnforce (slotSubject slot) (slotKey slot) (fromSlotOwner slot.owner)
    enforced.1
  (out.1.2.isOk, out.1.1, ⟨out.2,if out.1.1 = .active then c.world else enforced.2⟩)

variable (r : MemoryRegistry) (s : Subject)

def flush (pushes : List (Subject × NetworkPolicy)) : MemoryRegistry :=
  pushes.foldl (fun r push => r.step (.applyPolicy push.1 (some push.2))) r

def registeredComplete (hooks : LifecycleHooks H) (slot : Slot) (c : Controller H) :
    Controller H :=
  let out := hooks.onRegisteredComplete (slotSubject slot) slot c.world
  ⟨flush c.reg out.1,out.2⟩

def registerSubject (hooks : Option (LifecycleHooks H)) (slot : Slot) (c : Controller H) :
    Except String State × Controller H :=
  if slot.phase ≠ .bound then (.ok .absent, c)
  else match hooks with
    | none =>
        let out := c.reg.register (slotSubject slot) (slotKey slot) (fromSlotOwner slot.owner)
        (.ok out.1, ⟨out.2,c.world⟩)
    | some hooks =>
        match wait.exponentialBackoff (attempt hooks slot) registerBackoff (.absent, c) with
        | (false, _, c') => (.error errWaitTimeout, c')
        | (true, state, c') => (.ok state, registeredComplete hooks slot c')

def slotUpdated (hooks : Option (LifecycleHooks H)) (slot : Slot) (state : State)
    (c : Controller H) : Except String Unit × Controller H :=
  match state, hooks with
  | .active, some hooks =>
      let out := hooks.onSlotUpdated (slotSubject slot) slot c.world
      (out.1, ⟨c.reg,out.2⟩)
  | _, _ => (.ok (), c)

def unload (hooks : Option (LifecycleHooks H)) (slot : Slot) (prev : State)
    (c : Controller H) : Except String Unit × Controller H :=
  match prev, hooks with
  | .absent, _ | _, none => (.ok (), c)
  | _, some hooks =>
      let out := hooks.onUnloaded (slotSubject slot) slot c.world
      (out.1, ⟨c.reg,out.2⟩)

def applyEvent (hooks : Option (LifecycleHooks H)) (c : Controller H) :
    Event → Except String Unit × Controller H
  | .bound slot =>
      match registerSubject wait hooks slot c with
      | (.error e, c') => (.error e, c')
      | (.ok _, c') => (.ok (), c')
  | .updated slot =>
      match registerSubject wait hooks slot c with
      | (.error e, c') => (.error e, c')
      | (.ok state, c') => slotUpdated hooks slot state c'
  | .deleted slot =>
      let out := c.reg.unregister (slotSubject slot)
      unload hooks slot out.1 ⟨out.2,c.world⟩
  | .error _ => (.ok (), c)

def consume (hooks : Option (LifecycleHooks H)) (c : Controller H) :
    List Event → Except String Unit × Controller H
  | [] => (.ok (), c)
  | ev :: evs =>
      match applyEvent wait hooks c ev with
      | (.error e, c') => (.error e, c')
      | (.ok _, c') => consume hooks c' evs

def registered : Option Unit := (r.bySubject s).map fun _ => ()

theorem registered_isSome : (registered r s).isSome = (r.bySubject s).isSome := by
  simp [registered]

theorem registered_of_update {r r' : MemoryRegistry} {s : Subject} {e : Option Entry}
    (h : r'.bySubject = Function.update r.bySubject s e) :
    registered r' = KeyedLog.write (registered r) (s, e.map fun _ => ()) := by
  funext t
  by_cases ht : t = s <;> simp [registered,KeyedLog.write,h,ht]

theorem registered_observe (key : SubjectKey) (fence : Fencing) :
    registered (r.observe s key fence).2 = KeyedLog.write (registered r) (s, some ()) := by
  rcases r.bySubject_observe s key fence with ⟨_,_,_,_,_,_,hb⟩ | ⟨_,_,hb⟩
  all_goals exact registered_of_update hb

theorem registered_applyPolicy (pol : Option NetworkPolicy) :
    registered (r.step (.applyPolicy s pol)) = registered r := by
  funext t
  cases he : r.bySubject s with
  | none => simp [MemoryRegistry.step,applyPolicy,he]
  | some e =>
    by_cases h : t = s <;> simp [MemoryRegistry.step,applyPolicy,registered,store,he,h]

theorem registered_flush (pushes : List (Subject × NetworkPolicy)) :
    registered (flush r pushes) = registered r := by
  induction pushes generalizing r with
  | nil => rfl
  | cons push pushes ih => exact (ih _).trans (registered_applyPolicy r push.1 (some push.2))

def subjectWrite : Event → Option (Subject × Option Unit)
  | .bound slot | .updated slot =>
    if slot.phase = .bound then some (slotSubject slot, some ()) else none
  | .deleted slot => some (slotSubject slot, none)
  | .error _ => none

section Reliable

variable {hooks : Option (LifecycleHooks H)}

theorem attempt_reliable {hooks : LifecycleHooks H} (hr : hooks.Reliable) (slot : Slot)
    (st : State × Controller H) :
    ∃ state c', attempt hooks slot st = (true, state, c') ∧
      registered c'.reg = KeyedLog.write (registered st.2.reg) (slotSubject slot, some ()) := by
  refine ⟨_,_,Prod.ext ?_ rfl,?_⟩
  · rw [attempt,hr.registered]
    unfold MemoryRegistry.registerAndEnforce
    split <;> rfl
  · change registered (MemoryRegistry.registerAndEnforce ..).2 = _
    rw [registerAndEnforce_registry,registered_observe]

variable (hr : ∀ k ∈ hooks, k.Reliable)

include hr

theorem registerSubject_reliable (slot : Slot) (c : Controller H) :
    ∃ state c', registerSubject wait hooks slot c = (.ok state, c') ∧ registered c'.reg =
        KeyedLog.replay (registered c.reg) (subjectWrite (.bound slot)).toList := by
  by_cases hb : slot.phase = .bound
  · rw [subjectWrite,if_pos hb]
    cases hooks with
    | none =>
      refine ⟨_,_,if_neg (not_not.mpr hb),?_⟩
      change registered (MemoryRegistry.registerAndEnforce ..).2 = _
      rw [registerAndEnforce_registry,registered_observe]
      rfl
    | some hooks =>
      obtain ⟨state,c',ha,hc⟩ := attempt_reliable (hr hooks rfl) slot (.absent, c)
      obtain ⟨n,-,hwait⟩ := wait.registerBackoff_eq (attempt hooks slot) (.absent, c)
      refine ⟨state,registeredComplete hooks slot c',?_,?_⟩
      · rw [registerSubject,if_neg (not_not.mpr hb),hwait,Retry.upTo_first ha]
      · rw [registeredComplete,registered_flush,hc]
        rfl
  · refine ⟨.absent,c,if_pos hb,?_⟩
    rw [subjectWrite,if_neg hb]
    rfl

theorem slotUpdated_reliable (slot : Slot) (state : State) (c : Controller H) :
    (slotUpdated hooks slot state c).1 = .ok () ∧
      (slotUpdated hooks slot state c).2.reg = c.reg := by
  unfold slotUpdated
  split
  · exact ⟨(hr _ rfl).updated ..,rfl⟩
  · exact ⟨rfl,rfl⟩

theorem unload_reliable (slot : Slot) (prev : State) (c : Controller H) :
    (unload hooks slot prev c).1 = .ok () ∧ (unload hooks slot prev c).2.reg = c.reg := by
  unfold unload
  split
  · exact ⟨rfl,rfl⟩
  · exact ⟨rfl,rfl⟩
  · exact ⟨(hr _ rfl).unloaded ..,rfl⟩

theorem applyEvent_reliable (c : Controller H) (ev : Event) :
    ∃ c', applyEvent wait hooks c ev = (.ok (), c') ∧
      registered c'.reg = KeyedLog.replay (registered c.reg) (subjectWrite ev).toList := by
  cases ev with
  | bound slot =>
    obtain ⟨state,c',hs,hc⟩ := registerSubject_reliable wait hr slot c
    exact ⟨c',by rw [applyEvent,hs],hc⟩
  | updated slot =>
    obtain ⟨state,c',hs,hc⟩ := registerSubject_reliable wait hr slot c
    obtain ⟨hok,hreg⟩ := slotUpdated_reliable hr slot state c'
    refine ⟨(slotUpdated hooks slot state c').2,?_,?_⟩
    · rw [applyEvent,hs]
      exact Prod.ext hok rfl
    · rwa [hreg]
  | deleted slot =>
    obtain ⟨hok,hreg⟩ := unload_reliable hr slot (c.reg.unregister (slotSubject slot)).1
      ⟨(c.reg.unregister (slotSubject slot)).2,c.world⟩
    refine ⟨_,Prod.ext hok rfl,?_⟩
    rw [applyEvent,hreg]
    exact registered_of_update (c.reg.bySubject_unregister _)
  | error e => exact ⟨c,rfl,rfl⟩

theorem consume_reliable (c : Controller H) (evs : List Event) :
    ∃ c', consume wait hooks c evs = (.ok (), c') ∧
      registered c'.reg = KeyedLog.replay (registered c.reg) (evs.filterMap subjectWrite) := by
  induction evs generalizing c with
  | nil => exact ⟨c,rfl,rfl⟩
  | cons ev evs ih =>
    obtain ⟨c₁,h₁,hw₁⟩ := applyEvent_reliable wait hr c ev
    obtain ⟨c₂,h₂,hw₂⟩ := ih c₁
    refine ⟨c₂,by rw [consume,h₁]; exact h₂,?_⟩
    rw [hw₂,hw₁,List.filterMap_cons]
    cases subjectWrite ev <;> rfl

end Reliable

end OpenSandbox.Lifecycle
