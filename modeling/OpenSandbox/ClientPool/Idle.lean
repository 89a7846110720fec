import OpenSandbox.ClientPool.Model

namespace OpenSandbox.ClientPool

open List AList

namespace Store

variable {id : String}

theorem mem_idsWhere {p : Option Nat → Bool} {idle : GoMap (Option Nat)} :
    id ∈ idsWhere p idle ↔ ∃ e, idle.lookup id = some e ∧ p e = true := by
  constructor
  · intro h
    obtain ⟨_,hp⟩ := mem_filter.mp h
    cases hl : idle.lookup id with
    | none =>
      rw [hl] at hp
      cases hp
    | some e =>
      rw [hl] at hp
      exact ⟨e,rfl,hp⟩
  · rintro ⟨e,hl,hp⟩
    refine mem_filter.mpr ⟨GoMap.mem_keys_of_lookup hl,?_⟩
    rwa [hl]

theorem idsWhere_nodup (p : Option Nat → Bool) (idle : GoMap (Option Nat)) :
    (idsWhere p idle).Nodup :=
  idle.keys_nodup.filter _

def Shrinks (s t : GoMap (Option Nat)) : Prop := ∀ id e, t.lookup id = some e → s.lookup id = some e

theorem Shrinks.refl (s : GoMap (Option Nat)) : Shrinks s s := fun _ _ h => h

variable {s t : GoMap (Option Nat)}

theorem Shrinks.trans {u : GoMap (Option Nat)} (h : Shrinks s t) (h' : Shrinks t u) :
    Shrinks s u := fun id e he => h id e (h' id e he)

theorem shrinks_erase (s : GoMap (Option Nat)) (id : String) : Shrinks s (s.erase id) := by
  intro k e h
  rw [GoMap.lookup_erased] at h
  split_ifs at h
  exact h

theorem shrinks_foldl_erase (ids : List String) (s : GoMap (Option Nat)) :
    Shrinks s (ids.foldl (fun idle id => idle.erase id) s) := by
  induction ids generalizing s with
  | nil => exact Shrinks.refl s
  | cons id ids ih => exact (shrinks_erase s id).trans (ih (s.erase id))

theorem length_idsWhere_le {p q : Option Nat → Bool} (hpq : ∀ e, q e = true → p e = true)
    (h : Shrinks s t) : (idsWhere q t).length ≤ (idsWhere p s).length := by
  refine (subperm_of_subset (idsWhere_nodup q t) ?_).length_le
  intro id hid
  obtain ⟨e,hl,hq⟩ := mem_idsWhere.mp hid
  exact mem_idsWhere.mpr ⟨e,h id e hl,hpq e hq⟩

variable {now : Nat}

theorem live_earlier {later : Nat} (h : now ≤ later) (e : Option Nat) (he : live later e = true) :
    live now e = true := by
  cases e with
  | none => rfl
  | some e => exact decide_eq_true (lt_of_le_of_lt h (of_decide_eq_true he))

theorem idleCount_le {later : Nat} (hle : now ≤ later) {s t : Store}
    (h : Shrinks s.idleMap t.idleMap) : idleCount later t ≤ idleCount now s :=
  length_idsWhere_le (live_earlier hle) h

structure Taken (s : GoMap (Option Nat)) (r : TakeIdleResult) (t : GoMap (Option Nat)) : Prop where
  shrinks : Shrinks s t
  gone : r.sandboxID ≠ "" → t.lookup r.sandboxID = none
  held : r.sandboxID ≠ "" → ∃ e, s.lookup r.sandboxID = some e
  discarded_held : ∀ id ∈ r.discardedAliveSandboxIDs, ∃ e, s.lookup id = some e
  discarded_gone : ∀ id ∈ r.discardedAliveSandboxIDs, t.lookup id = none
  discarded_nodup : r.discardedAliveSandboxIDs.Nodup
  apart : r.sandboxID ≠ "" → r.sandboxID ∉ r.discardedAliveSandboxIDs

theorem Taken.of_erase {s t : GoMap (Option Nat)} {r : TakeIdleResult} {id : String}
    (h : Taken (s.erase id) r t) : Taken s r t :=
  { h with
    shrinks := (shrinks_erase s id).trans h.shrinks
    held := fun hne => by
      obtain ⟨e,he⟩ := h.held hne
      exact ⟨e,shrinks_erase s id _ e he⟩
    discarded_held := fun k hk => by
      obtain ⟨e,he⟩ := h.discarded_held k hk
      exact ⟨e,shrinks_erase s id k e he⟩ }

theorem Taken.discard {r : TakeIdleResult} {e : Option Nat} (hid : s.lookup id = some e)
    (h : Taken (s.erase id) r t) : Taken s ⟨r.sandboxID,id :: r.discardedAliveSandboxIDs⟩ t := by
  have habsent : (s.erase id).lookup id = none := lookup_erase id s
  have hbase : Taken s r t := h.of_erase
  refine ⟨hbase.shrinks,hbase.gone,hbase.held,forall_mem_cons.mpr ⟨⟨e,hid⟩,hbase.discarded_held⟩,
    forall_mem_cons.mpr ⟨?_,hbase.discarded_gone⟩,?_,?_⟩
  · by_contra hne
    obtain ⟨e',he'⟩ := Option.ne_none_iff_exists'.mp hne
    have hin := h.shrinks id e' he'
    rw [habsent] at hin
    cases hin
  · refine nodup_cons.mpr ⟨?_,hbase.discarded_nodup⟩
    intro hin
    obtain ⟨e',he'⟩ := h.discarded_held id hin
    rw [habsent] at he'
    cases he'
  · intro hne hin
    rcases mem_cons.mp hin with heq | hin
    · obtain ⟨e',he'⟩ := h.held hne
      simp only at heq
      rw [heq,habsent] at he'
      cases he'
    · exact hbase.apart hne hin

theorem takeFrom_taken (now minRemaining : Nat) (queue : List String) (s : GoMap (Option Nat)) :
    Taken s (takeFrom now minRemaining queue s).1 (takeFrom now minRemaining queue s).2.2 := by
  induction queue generalizing s with
  | nil =>
    exact ⟨Shrinks.refl s,absurd rfl,absurd rfl,fun _ h => (not_mem_nil h).elim,
      fun _ h => (not_mem_nil h).elim,nodup_nil,(absurd rfl)⟩
  | cons id queue ih =>
    unfold takeFrom
    split
    · exact ih s
    rename_i e he
    split
    · exact (ih (s.erase id)).of_erase
    split
    · exact (ih (s.erase id)).discard he
    · exact ⟨shrinks_erase s id,fun _ => lookup_erase id s,fun _ => ⟨e,he⟩,
        fun _ h => (not_mem_nil h).elim,fun _ h => (not_mem_nil h).elim,
        nodup_nil,fun _ => not_mem_nil⟩

section Fence

variable (now : Nat) (s : Store)

theorem destroyStateLocked_frame : (destroyStateLocked now s).2.idleMap = s.idleMap ∧
      (destroyStateLocked now s).2.lock = s.lock ∧
      (destroyStateLocked now s).2.maxIdle = s.maxIdle := by
  unfold destroyStateLocked
  split
  · exact ⟨rfl,rfl,rfl⟩
  · split <;> exact ⟨rfl,rfl,rfl⟩

@[simp] theorem destroyStateLocked_idleMap :
    (destroyStateLocked now s).2.idleMap = s.idleMap := (destroyStateLocked_frame now s).1

@[simp] theorem destroyStateLocked_lock :
    (destroyStateLocked now s).2.lock = s.lock := (destroyStateLocked_frame now s).2.1

@[simp] theorem destroyStateLocked_maxIdle :
    (destroyStateLocked now s).2.maxIdle = s.maxIdle := (destroyStateLocked_frame now s).2.2

end Fence

def fence (s : Store) : DestroyState × String × Option Nat :=
  (s.destroyState, s.destroyOwnerID, s.destroyExpiresAt)

def openFence : DestroyState × String × Option Nat := (.active, "", none)

def Refences (now : Nat) (s t : Store) : Prop :=
  t.fence = s.fence ∨ elapsed now s.destroyExpiresAt = true ∧ t.fence = openFence

theorem refences_destroyStateLocked (now : Nat) (s : Store) :
    Refences now s (destroyStateLocked now s).2 := by
  unfold destroyStateLocked
  split
  · exact .inl rfl
  split_ifs with helapsed
  · exact .inr ⟨helapsed,rfl⟩
  · exact .inl rfl

structure Drawn (now : Nat) (s t : Store) : Prop where
  shrinks : Shrinks s.idleMap t.idleMap
  lock : t.lock = s.lock
  maxIdle : t.maxIdle = s.maxIdle
  refences : Refences now s t

theorem Drawn.refl (now : Nat) (s : Store) : Drawn now s s :=
  ⟨Shrinks.refl s.idleMap,rfl,rfl,.inl rfl⟩

theorem drawn_getDestroyState (now : Nat) (s : Store) : Drawn now s (getDestroyState now s).2 :=
  ⟨fun _ _ h => by simpa [getDestroyState] using h,by simp [getDestroyState],
    by simp [getDestroyState],refences_destroyStateLocked now s⟩

theorem drawn_take (now minRemaining : Nat) (s : Store) :
    Drawn now s (tryTakeIdleWithMinTTL now minRemaining s).2 :=
  ⟨(takeFrom_taken now minRemaining s.idleQueue s.idleMap).shrinks,rfl,rfl,.inl rfl⟩

theorem drawn_removeIdle (now : Nat) (id : String) (s : Store) : Drawn now s (removeIdle id s).2 :=
  ⟨shrinks_erase s.idleMap id,rfl,rfl,.inl rfl⟩

structure Still (s t : Store) : Prop where
  idle : t.idleMap = s.idleMap
  lock : t.lock = s.lock
  maxIdle : t.maxIdle = s.maxIdle

theorem still_beginDestroy (now : Nat) (ownerID : String) (s : Store) :
    Still s (beginDestroy now ownerID s).2 := by
  unfold beginDestroy
  split
  · exact ⟨rfl,rfl,rfl⟩
  · dsimp only
    split <;> exact ⟨by simp,by simp,by simp⟩

theorem still_markDestroyed (now : Nat) (ownerID : String) (ttl : Nat) (s : Store) :
    Still s (markDestroyed now ownerID ttl s).2 := by
  unfold markDestroyed
  split <;> exact ⟨rfl,rfl,rfl⟩

structure Put (now : Nat) (id : String) (s t : Store) : Prop where
  named : id ≠ ""
  lock : t.lock = s.lock
  maxIdle : t.maxIdle = s.maxIdle
  kept : ∀ k e, k ≠ id → t.idleMap.lookup k = some e → s.idleMap.lookup k = some e
  stored : ∃ e, t.idleMap.lookup id = some e

inductive PutIdle (now : Nat) (id : String) (s : Store) : Except StoreError Unit → Store → Prop
  | refused (e : StoreError) (t : Store) (hidle : t.idleMap = s.idleMap) (hlock : t.lock = s.lock)
      (hmax : t.maxIdle = s.maxIdle) : PutIdle now id s (.error e) t
  | stored (t : Store) (h : Put now id s t) : PutIdle now id s (.ok ()) t

theorem putIdle_spec (now : Nat) (id : String) (s : Store) :
    PutIdle now id s (putIdle now id s).1 (putIdle now id s).2 := by
  unfold putIdle
  split
  · exact .refused _ _ rfl rfl rfl
  rename_i hid
  dsimp only
  split
  · exact .refused _ _ (by simp) (by simp) (by simp)
  split
  · refine .stored _ ⟨hid,by simp,by simp,?_,⟨_,lookup_insert _⟩⟩
    intro k e hne h
    simp only [destroyStateLocked_idleMap] at h
    rwa [lookup_insert_ne hne] at h
  rename_i e he
  split
  · refine .stored _ ⟨hid,by simp,by simp,?_,⟨e,he⟩⟩
    intro k e' _ h
    simpa using h
  refine .stored _ ⟨hid,by simp [rebuildQueue],by simp [rebuildQueue],?_,⟨_,lookup_insert _⟩⟩
  intro k e' hne h
  simp only [rebuildQueue,destroyStateLocked_idleMap] at h
  rw [lookup_insert_ne hne] at h
  exact shrinks_erase s.idleMap id k e' h

theorem Put.idleCount_le {s t : Store} (h : Put now id s t) :
    idleCount now t ≤ idleCount now s + 1 := by
  have hsub : idsWhere (live now) t.idleMap ⊆ id :: idsWhere (live now) s.idleMap := by
    intro k hk
    obtain ⟨e,he,hlive⟩ := mem_idsWhere.mp hk
    by_cases hne : k = id
    · exact mem_cons.mpr (.inl hne)
    · exact mem_cons_of_mem id (mem_idsWhere.mpr ⟨e,h.kept k e hne he,hlive⟩)
  exact (subperm_of_subset (idsWhere_nodup _ _) hsub).length_le

end Store

namespace Reply

variable {α : Type} {call : Store → Except StoreError α × Store}

theorem perform_store {P : Store → Prop} (reply : Reply) (s : Store) (hs : P s)
    (hcall : P (call s).2) : P (reply.perform call s).2 := by
  cases reply with
  | answered | lost => exact hcall
  | failed => exact hs

theorem perform_ok {reply : Reply} {s : Store} {a : α} (h : (reply.perform call s).1 = .ok a) :
    (call s).1 = .ok a ∧ (reply.perform call s).2 = (call s).2 := by
  cases reply with
  | answered => exact ⟨h,rfl⟩
  | failed | lost => cases h

theorem perform_drawn {now : Nat} (reply : Reply) {s : Store} (h : Store.Drawn now s (call s).2) :
    Store.Drawn now s (reply.perform call s).2 :=
  perform_store reply s (Store.Drawn.refl now s) h

theorem perform_still (reply : Reply) {s : Store} (h : Store.Still s (call s).2) :
    Store.Still s (reply.perform call s).2 :=
  perform_store reply s ⟨rfl,rfl,rfl⟩ h

end Reply

structure Draws (s t : State) : Prop where
  now : t.now = s.now
  ticks : t.ticks = s.ticks
  destroys : t.destroys = s.destroys
  store : Store.Drawn s.now s.store t.store

namespace State

theorem draws_leaveLoop {s : State} {store : Store} (h : Store.Drawn s.now s.store store)
    (call : Nat) (attempt : Attempt) : Draws s (s.leaveLoop call store attempt) :=
  ⟨rfl,rfl,rfl,h⟩

theorem acquire_draws {s t : State} {call : Nat} {i : AcquireInput}
    (h : s.acquire call i = some t) : Draws s t := by
  have hcheck := i.reply.perform_drawn (Store.drawn_getDestroyState s.now s.store)
  have hsame := Store.Drawn.refl s.now s.store
  unfold acquire at h
  split at h
  · cases h
    exact ⟨rfl,rfl,rfl,hcheck⟩
  · rename_i attempt _
    have htake := i.reply.perform_drawn (Store.drawn_take s.now attempt.opts.minTTL s.store)
    cases h
    unfold afterTake
    split
    · exact draws_leaveLoop htake call attempt
    dsimp only
    split
    · exact draws_leaveLoop htake call _
    · exact ⟨rfl,rfl,rfl,htake⟩
  · cases h
    exact ⟨rfl,rfl,rfl,hsame⟩
  · rename_i attempt id _
    have hremove := i.reply.perform_drawn (Store.drawn_removeIdle s.now id s.store)
    cases h
    split <;> exact ⟨rfl,rfl,rfl,hremove⟩
  · cases h
    split
    · exact ⟨rfl,rfl,rfl,hcheck⟩
    · unfold nextAttempt
      dsimp only
      split <;> exact ⟨rfl,rfl,rfl,hcheck⟩
  · cases h
    split <;> exact ⟨rfl,rfl,rfl,hsame⟩
  · cases h
    split <;> exact ⟨rfl,rfl,rfl,hcheck⟩
  · split at h
    · cases h
      exact ⟨rfl,rfl,rfl,hsame⟩
    · split at h
      · cases h
        split <;> exact ⟨rfl,rfl,rfl,hsame⟩
      · cases h
  · cases h
    split <;> exact ⟨rfl,rfl,rfl,hcheck⟩
  · cases h

theorem releaseAllIdle_draws (s : State) (reply : Reply) : Draws s (s.releaseAllIdle reply) := by
  have htake := reply.perform_drawn (Store.drawn_take s.now 0 s.store)
  unfold releaseAllIdle
  dsimp only
  split
  · exact ⟨rfl,rfl,rfl,htake⟩
  · split <;> exact ⟨rfl,rfl,rfl,htake⟩

end State

end OpenSandbox.ClientPool
