import OpenSandbox.Egress.Controller

namespace OpenSandbox.Lifecycle

open Slots Registry MemoryRegistry

def EnforcedAlready (r : MemoryRegistry) (slot : Slot) : Prop :=
  ∃ e, r.bySubject (slotSubject slot) = some e ∧ e.fence = fromSlotOwner slot.owner ∧
    e.state = .active

variable {r : MemoryRegistry}

theorem registerAndEnforce_of_state {s : Subject} {key : SubjectKey} {fence : Fencing}
    {state : State} (h : (r.observe s key fence).1 = state) (enforce : Except String Unit) :
    r.registerAndEnforce s key fence enforce =
      (if state = .active then (.active, .ok ()) else (.denying, enforce),
        (r.observe s key fence).2) := by
  subst h
  unfold registerAndEnforce
  split
  · next ho => rw [ho]; rfl
  · next hne ho =>
    rw [ho,if_neg fun h => hne (by rw [← h])]

theorem attempt_cases {H : Type} (hooks : LifecycleHooks H) (slot : Slot) (state : State)
    (c : Controller H) :
    ∃ reg, registered reg = KeyedLog.write (registered c.reg) (slotSubject slot, some ()) ∧
      (EnforcedAlready c.reg slot ∧
          attempt hooks slot (state, c) = (true, .active, ⟨reg,c.world⟩) ∨
        ¬ EnforcedAlready c.reg slot ∧ ¬ EnforcedAlready reg slot ∧ attempt hooks slot (state, c) =
            ((hooks.onRegistered (slotSubject slot) slot c.world).1.isOk, .denying,
              ⟨reg,(hooks.onRegistered (slotSubject slot) slot c.world).2⟩)) := by
  refine ⟨(c.reg.observe (slotSubject slot) (slotKey slot) (fromSlotOwner slot.owner)).2,
    registered_observe ..,?_⟩
  rcases c.reg.bySubject_observe (slotSubject slot) (slotKey slot) (fromSlotOwner slot.owner) with
    ⟨e,he,hfence,hactive,hst,-,-⟩ | ⟨hst,hno,hby⟩
  · refine .inl ⟨⟨e,he,hfence,hactive⟩,?_⟩
    rw [attempt,registerAndEnforce_of_state hst]
    rfl
  refine .inr ⟨?_,?_,?_⟩
  · rintro ⟨e,he,h⟩
    exact hno e he h
  · rintro ⟨e,he,-,hactive⟩
    rw [hby,Function.update_self] at he
    cases he
    cases hactive
  · rw [attempt,registerAndEnforce_of_state hst]
    rfl

section Preserves

variable {H : Type} (wait : WaitHelper (State × Controller H)) {hooks : LifecycleHooks H}
  {P : MemoryRegistry → Prop}
  (hP : ∀ r op, P r → P (r.step op))

include hP

theorem flush_preserves {r : MemoryRegistry} (h : P r)
    (pushes : List (Subject × Policy.NetworkPolicy)) : P (flush r pushes) := by
  induction pushes generalizing r with
  | nil => exact h
  | cons push pushes ih => exact ih (hP r _ h)

theorem registerSubject_preserves (slot : Slot) {c : Controller H} (h : P c.reg) :
    P (registerSubject wait (some hooks) slot c).2.reg := by
  unfold registerSubject
  split
  · exact h
  have hloop : P (wait.exponentialBackoff (attempt hooks slot) registerBackoff
      (.absent, c)).2.2.reg := by
    rw [wait.retried]
    exact Retry.upTo_preserves (P := fun st : State × Controller H => P st.2.reg)
      (fun st hst => hP st.2.reg (.register _ _ _ _) hst) _ h
  simp only
  split
  · next hout =>
    rwa [hout] at hloop
  · next hout =>
    rw [hout] at hloop
    exact flush_preserves hP hloop _

theorem applyEvent_preserves {c : Controller H} (h : P c.reg) (ev : Event) :
    P (applyEvent wait (some hooks) c ev).2.reg := by
  have hreg (slot : Slot) : P (registerSubject wait (some hooks) slot c).2.reg :=
    registerSubject_preserves wait hP slot h
  cases ev with
  | bound slot =>
    replace hreg := hreg slot
    simp only [applyEvent]
    split
    · next hout =>
      rwa [hout] at hreg
    · next hout =>
      rwa [hout] at hreg
  | updated slot =>
    replace hreg := hreg slot
    simp only [applyEvent]
    split
    · next hout =>
      rwa [hout] at hreg
    next hout =>
    rw [hout] at hreg
    unfold slotUpdated
    split <;> exact hreg
  | deleted slot =>
    have hreg := hP c.reg (.unregister (slotSubject slot)) h
    simp only [applyEvent]
    unfold unload
    split
    · exact hreg
    · exact hreg
    · exact hreg
  | error e => exact h

end Preserves

def Present (r : MemoryRegistry) : Prop := ∀ s e, r.bySubject s = some e → e.state ≠ .absent

theorem Present.update {r' : MemoryRegistry} (h : Present r) {s : Subject} {e : Option Entry}
    (hr : r'.bySubject = Function.update r.bySubject s e) (he : ∀ x ∈ e, x.state ≠ .absent) :
    Present r' := by
  intro t x hx
  rw [hr] at hx
  rcases KeyedLog.update_cases hx with ⟨-,hx⟩ | ⟨-,hx⟩
  · exact he x hx
  · exact h t x hx

theorem Present.step (h : Present r) (op : Op) : Present (r.step op) := by
  cases op with
  | register s key fence enforce =>
    simp only [MemoryRegistry.step,registerAndEnforce_registry]
    rcases r.bySubject_observe s key fence with ⟨e,he,-,hactive,-,-,hby⟩ | ⟨-,-,hby⟩
    · exact h.update hby fun x hx => by
        cases hx
        simp [hactive]
    · exact h.update hby fun x hx => by
        cases hx
        simp [newEntry]
  | applyPolicy s pol =>
    simp only [MemoryRegistry.step,applyPolicy]
    cases he : r.bySubject s with
    | none => exact h
    | some e =>
      refine h.update (s := s) rfl fun x hx => ?_
      cases hx
      simp [activate]
  | setAlwaysRules deny allow =>
    intro s x hx
    obtain ⟨e,he,rfl⟩ := Option.map_eq_some_iff.mp hx
    have := h s e he
    split <;> exact this
  | unregister s => exact h.update (r.bySubject_unregister s) (by simp)

end OpenSandbox.Lifecycle
