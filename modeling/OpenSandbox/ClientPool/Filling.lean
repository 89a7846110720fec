import OpenSandbox.ClientPool.Idle

namespace OpenSandbox.ClientPool

open Function Store

namespace Store

structure SameIdle (s t : Store) : Prop where
  idle : t.idleMap = s.idleMap
  maxIdle : t.maxIdle = s.maxIdle

theorem SameIdle.shrinks {s t : Store} (h : SameIdle s t) : Shrinks s.idleMap t.idleMap := by
  rw [h.idle]
  exact Shrinks.refl s.idleMap

inductive LockCall (now : Nat) (owner : String) (ttl : Nat) (s : Store) :
    Except StoreError Bool → Store → Prop
  | kept {r t} : t.lock = s.lock → SameIdle s t → r ≠ .ok true → LockCall now owner ttl s r t
  | lapsed {r t} : s.lock.ownerID = owner →
      s.lock.expiresAt < now → t.lock.ownerID = "" → SameIdle s t → r ≠ .ok true →
      LockCall now owner ttl s r t
  | granted {r t} : (s.lock.ownerID = "" ∨ s.lock.expiresAt ≤ now ∨ s.lock.ownerID = owner) →
      t.lock = ⟨owner,now + ttl⟩ → SameIdle s t → LockCall now owner ttl s r t

theorem tryAcquirePrimaryLock_spec (now : Nat) (owner : String) (ttl : Nat) (s : Store) :
    LockCall now owner ttl s (tryAcquirePrimaryLock now owner ttl s).1
      (tryAcquirePrimaryLock now owner ttl s).2 := by
  unfold tryAcquirePrimaryLock
  dsimp only
  have hsame : SameIdle s (destroyStateLocked now s).2 := ⟨by simp,by simp⟩
  split
  · exact .kept (by simp) hsame (by simp)
  split
  · split
    · rename_i howner
      rw [destroyStateLocked_lock] at howner
      refine .granted (.inr (.inr howner)) ?_ ⟨hsame.idle,hsame.maxIdle⟩
      rw [destroyStateLocked_lock,← howner]
    · exact .kept (by simp) hsame (by simp)
  · rename_i hfree
    rw [destroyStateLocked_lock] at hfree
    refine .granted ?_ rfl ⟨hsame.idle,hsame.maxIdle⟩
    by_cases hempty : s.lock.ownerID = ""
    · exact .inl hempty
    · exact .inr (.inl (Nat.le_of_not_lt fun hlt => hfree ⟨hempty,hlt⟩))

theorem renewPrimaryLock_spec (now : Nat) (owner : String) (ttl : Nat) (s : Store) :
    LockCall now owner ttl s (renewPrimaryLock now owner ttl s).1
      (renewPrimaryLock now owner ttl s).2 := by
  unfold renewPrimaryLock
  dsimp only
  have hsame : SameIdle s (destroyStateLocked now s).2 := ⟨by simp,by simp⟩
  split
  · exact .kept (by simp) hsame (by simp)
  split
  · exact .kept (by simp) hsame (by simp)
  rename_i howner
  rw [destroyStateLocked_lock,not_not] at howner
  split
  · rename_i hlate
    rw [destroyStateLocked_lock] at hlate
    exact .lapsed howner hlate rfl ⟨hsame.idle,hsame.maxIdle⟩ (by simp)
  · refine .granted (.inr (.inr howner)) ?_ ⟨hsame.idle,hsame.maxIdle⟩
    rw [destroyStateLocked_lock,← howner]

theorem renewPrimaryLock_owner {now : Nat} {owner : String} {ttl : Nat} {s : Store}
    (h : (renewPrimaryLock now owner ttl s).1 = .ok true) : s.lock.ownerID = owner := by
  unfold renewPrimaryLock at h
  dsimp only at h
  split at h
  · cases h
  split at h
  · cases h
  · rename_i howner
    rwa [destroyStateLocked_lock,not_not] at howner

theorem LockCall.perform {now : Nat} {owner : String} {ttl : Nat} {s : Store}
    {call : Store → Except StoreError Bool × Store}
    (h : LockCall now owner ttl s (call s).1 (call s).2) (reply : Reply) :
    LockCall now owner ttl s (reply.perform call s).1 (reply.perform call s).2 := by
  cases reply with
  | answered => exact h
  | failed => exact .kept rfl ⟨rfl,rfl⟩ nofun
  | lost =>
    cases h with
    | kept hlock hsame _ => exact .kept hlock hsame nofun
    | lapsed howner hlate hfree hsame _ =>
      exact .lapsed howner hlate hfree hsame nofun
    | granted hfree hlock hsame => exact .granted hfree hlock hsame

end Store

namespace State

def idleCount (s : State) : Nat := s.store.idleCount s.now

def holds (s : State) (owner : String) : Prop := s.store.lock.ownerID = owner

structure Yields (owner : String) (s t : State) : Prop where
  tick : t.ticks owner = s.ticks owner
  now : s.now ≤ t.now
  room : t.holds owner → s.holds owner ∧ t.idleCount ≤ s.idleCount
  lease : s.holds owner → t.now < s.store.lock.expiresAt →
    t.holds owner ∧ s.store.lock.expiresAt ≤ t.store.lock.expiresAt

end State

def Tick.Unplanned : Tick → Prop
  | .sizing _ | .renewing _ | .creating _ | .publishing _ _ | .putting _ _ _ | .deleting _ _ _ =>
    False
  | _ => True

def Room (maxIdle : Int) (owner : String) (s : State) : Tick → Prop
  | .sizing idleCount => s.holds owner → s.idleCount ≤ idleCount
  | .renewing toCreate | .creating toCreate =>
    (toCreate : Int) ≤ maxIdle ∧ (s.holds owner → (s.idleCount : Int) + toCreate ≤ maxIdle)
  | .publishing _ rest =>
    (rest.length : Int) + 1 ≤ maxIdle ∧
      (s.holds owner → (s.idleCount : Int) + (rest.length + 1) ≤ maxIdle)
  | .putting _ rest granted =>
    (rest.length : Int) + 1 ≤ maxIdle ∧
      (s.holds owner → (s.idleCount : Int) + (rest.length + 1) ≤ maxIdle) ∧
      (s.now < granted → s.holds owner ∧ granted ≤ s.store.lock.expiresAt)
  | .deleting _ _ next => next.Unplanned
  | _ => True

theorem Tick.Unplanned.room {tick : Tick} (h : tick.Unplanned) (maxIdle : Int) (owner : String)
    (s : State) : Room maxIdle owner s tick := by
  cases tick <;> trivial

theorem unplanned_shrink (n : Nat) : (Tick.shrink n).Unplanned := by
  cases n <;> trivial

theorem room_delete {ids : List String} {next : Tick} (h : next.Unplanned) (maxIdle : Int)
    (owner : String) (s : State) : Room maxIdle owner s (.delete ids next) := by
  cases ids with
  | nil => exact h.room maxIdle owner s
  | cons id ids => exact h

theorem Room.yields {maxIdle : Int} {owner : String} {s t : State} {tick : Tick}
    (hy : State.Yields owner s t) (h : Room maxIdle owner s tick) : Room maxIdle owner t tick := by
  have hroom {n : Int} (hn : s.holds owner → (s.idleCount : Int) + n ≤ maxIdle)
      (ht : t.holds owner) : (t.idleCount : Int) + n ≤ maxIdle := by
    obtain ⟨hs,hle⟩ := hy.room ht
    have := hn hs
    omega
  cases tick with
  | sizing idleCount =>
    intro ht
    obtain ⟨hs,hle⟩ := hy.room ht
    exact hle.trans (h hs)
  | renewing toCreate | creating toCreate | publishing id rest => exact ⟨h.1,hroom h.2⟩
  | putting id rest granted =>
    refine ⟨h.1,hroom h.2.1,fun hlt => ?_⟩
    obtain ⟨hs,hle⟩ := h.2.2 (lt_of_le_of_lt hy.now hlt)
    obtain ⟨ht,hle'⟩ := hy.lease hs (lt_of_lt_of_le hlt hle)
    exact ⟨ht,hle.trans hle'⟩
  | deleting id ids next => exact h
  | resting | locking | reaping | counting | shrinking toRemove | evicting toRemove
  | removing id rest => trivial

structure Filled (maxIdle : Int) (bound : Int) (s : State) : Prop where
  count : (s.idleCount : Int) ≤ bound
  limit : s.store.maxIdle = maxIdle
  room : ∀ owner, owner ≠ "" → Room maxIdle owner s (s.ticks owner)

structure Quiet (s t : State) : Prop where
  ticks : t.ticks = s.ticks
  now : s.now ≤ t.now
  shrinks : Store.Shrinks s.store.idleMap t.store.idleMap
  lock : t.store.lock = s.store.lock

theorem Quiet.idleCount_le {s t : State} (h : Quiet s t) : t.idleCount ≤ s.idleCount :=
  Store.idleCount_le h.now h.shrinks

theorem Quiet.yields {s t : State} (h : Quiet s t) (owner : String) : State.Yields owner s t where
  tick := congrFun h.ticks owner
  now := h.now
  room := fun ht => ⟨by rwa [State.holds,h.lock] at ht,h.idleCount_le⟩
  lease := fun hs _ => ⟨by rwa [State.holds,h.lock],by rw [h.lock]⟩

theorem Filled.quiet {maxIdle bound : Int} {s t : State} (h : Filled maxIdle bound s)
    (hmax : t.store.maxIdle = maxIdle) (hq : Quiet s t) : Filled maxIdle bound t := by
  refine ⟨(Int.ofNat_le.mpr hq.idleCount_le).trans h.count,hmax,fun owner hne => ?_⟩
  rw [(hq.yields owner).tick]
  exact (h.room owner hne).yields (hq.yields owner)

section Ticking

variable {maxIdle bound : Int} {owner : String} {s t : State} {tick : Tick}

section Ticked

variable (h : Filled maxIdle bound s) (hticks : t.ticks = Function.update s.ticks owner tick)
  (hnow : t.now = s.now) (hown : Room maxIdle owner t tick)

include h hticks hnow hown

theorem Filled.ticked (hmax : t.store.maxIdle = maxIdle) (hcount : (t.idleCount : Int) ≤ bound)
    (hroom : ∀ other, other ≠ owner → other ≠ "" → t.holds other →
      s.holds other ∧ t.idleCount ≤ s.idleCount)
    (hlease : ∀ other, other ≠ owner → other ≠ "" → s.holds other → s.now < s.store.lock.expiresAt →
      t.holds other ∧ s.store.lock.expiresAt ≤ t.store.lock.expiresAt) :
    Filled maxIdle bound t := by
  refine ⟨hcount,hmax,fun other hne => ?_⟩
  by_cases heq : other = owner
  · subst heq
    rwa [hticks,update_self]
  have htick : t.ticks other = s.ticks other := by
    rw [hticks,update_of_ne heq]
  have hy : State.Yields other s t :=
    ⟨htick,hnow.ge,hroom other heq hne,fun hs hlt => hlease other heq hne hs (hnow ▸ hlt)⟩
  rw [htick]
  exact (h.room other hne).yields hy

theorem Filled.ticked_still (hmax : t.store.maxIdle = maxIdle) (hlock : t.store.lock = s.store.lock)
    (hshrinks : Store.Shrinks s.store.idleMap t.store.idleMap) : Filled maxIdle bound t := by
  have hle : t.idleCount ≤ s.idleCount := idleCount_le hnow.ge hshrinks
  refine h.ticked hticks hnow hown hmax ?_ ?_ ?_
  · have := h.count
    omega
  · intro other _ _ ht
    rw [State.holds,hlock] at ht
    exact ⟨ht,hle⟩
  · intro other _ _ hs _
    rw [State.holds,hlock]
    exact ⟨hs,le_rfl⟩

theorem Filled.ticked_lock {ttl : Nat} {r : Except StoreError Bool}
    (hcall : Store.LockCall s.now owner ttl s.store r t.store) : Filled maxIdle bound t := by
  have hsame : Store.SameIdle s.store t.store := by
    cases hcall <;> assumption
  have hcount : t.idleCount ≤ s.idleCount := idleCount_le hnow.ge hsame.shrinks
  refine h.ticked hticks hnow hown (hsame.maxIdle.trans h.limit) ?_ ?_ ?_
  · have := h.count
    omega
  · intro other hne hnamed ht
    cases hcall with
    | kept hlock _ _ =>
      rw [State.holds,hlock] at ht
      exact ⟨ht,hcount⟩
    | lapsed _ _ hfree _ _ =>
      rw [State.holds,hfree] at ht
      exact absurd ht.symm hnamed
    | granted _ hlock _ =>
      rw [State.holds,hlock] at ht
      exact absurd ht.symm hne
  intro other hne hnamed ho hlt
  cases hcall with
  | kept hlock _ _ =>
    rw [State.holds,hlock]
    exact ⟨ho,le_rfl⟩
  | lapsed howner _ _ _ _ => exact absurd (ho.symm.trans howner) hne
  | granted hfree _ _ =>
    rcases hfree with hfree | hfree | hfree
    · exact absurd (ho.symm.trans hfree) hnamed
    · exact absurd hlt (Nat.not_lt.mpr hfree)
    · exact absurd (ho.symm.trans hfree) hne

end Ticked

theorem Filled.ticked_renew (h : Filled maxIdle bound s) {ttl : Nat} {reply : Reply}
    {next lost : Tick}
    (ht : t = s.setTick owner (reply.perform (Store.renewPrimaryLock s.now owner ttl) s.store).2
      (State.afterRenew next lost
        (reply.perform (Store.renewPrimaryLock s.now owner ttl) s.store).1))
    (hnext : s.holds owner → t.idleCount = s.idleCount → t.store.lock = ⟨owner,s.now + ttl⟩ →
      Room maxIdle owner t next)
    (hlost : Room maxIdle owner t lost) : Filled maxIdle bound t := by
  have hcall := (renewPrimaryLock_spec s.now owner ttl s.store).perform reply
  have hresult := @Reply.perform_ok Bool (renewPrimaryLock s.now owner ttl) reply s.store
  generalize hr : reply.perform (renewPrimaryLock s.now owner ttl) s.store = r at *
  subst ht
  refine h.ticked_lock rfl rfl ?_ hcall
  by_cases hok : r.1 = .ok true
  · rw [hok]
    obtain ⟨hcalled,_⟩ := hresult hok
    have hholds := renewPrimaryLock_owner hcalled
    rw [hok] at hcall
    cases hcall with
    | kept _ _ hne | lapsed _ _ _ _ hne => exact absurd rfl hne
    | granted _ hlock hsame =>
      refine hnext hholds ?_ hlock
      change idleCount s.now r.2 = idleCount s.now s.store
      rw [idleCount,hsame.idle,idleCount]
  have hout : State.afterRenew next lost r.1 = lost := by
    unfold State.afterRenew
    split
    · rename_i heq
      exact absurd heq hok
    · rfl
  rwa [hout]

theorem room_afterMaxIdle {cfg : PoolConfig} {backoff : Bool} {idleCount : Nat}
    (h : t.holds owner → t.idleCount ≤ idleCount) {r : Except StoreError Int}
    (hr : ∀ n, r = .ok n → n = maxIdle) :
    Room maxIdle owner t (State.afterMaxIdle cfg backoff idleCount r) := by
  cases r with
  | error e => trivial
  | ok n =>
    obtain rfl := hr n rfl
    unfold State.afterMaxIdle
    dsimp only
    split
    · exact (unplanned_shrink _).room n owner t
    split
    · trivial
    split
    · trivial
    · refine ⟨by omega,fun hholds => ?_⟩
      have := h hholds
      omega

theorem room_publish {ids : List String} {toCreate : Nat} (hlen : ids.length ≤ toCreate)
    (h : Room maxIdle owner t (.creating toCreate)) :
    Room maxIdle owner t (.publish ids) := by
  cases ids with
  | nil => trivial
  | cons id rest =>
    rw [List.length_cons] at hlen
    refine ⟨?_,fun hholds => ?_⟩
    · have := h.1
      omega
    · have := h.2 hholds
      omega

section

variable (h : Filled maxIdle bound s)

include h

theorem Filled.put (hle : maxIdle ≤ bound) {id : String}
    {rest : List String} {granted : Nat} (htick : s.ticks owner = .putting id rest granted)
    (hnamed : owner ≠ "") (htimely : s.now < granted) (reply : Reply)
    (ht : t = s.setTick owner (reply.perform (Store.putIdle s.now id) s.store).2
      (State.afterPut id rest (reply.perform (Store.putIdle s.now id) s.store).1)) :
    Filled maxIdle bound t := by
  have hroom := h.room owner hnamed
  rw [htick] at hroom
  obtain ⟨_,hspace,hlease⟩ := hroom
  obtain ⟨hholds,_⟩ := hlease htimely
  have hspace := hspace hholds
  have hrefused {store : Store} {e : StoreError} (hidle : store.idleMap = s.store.idleMap)
      (hlock : store.lock = s.store.lock) (hmax : store.maxIdle = s.store.maxIdle) :
      Filled maxIdle bound (s.setTick owner store (State.afterPut id rest (.error e))) := by
    refine h.ticked_still rfl rfl trivial (hmax.trans h.limit) hlock ?_
    exact (Store.SameIdle.mk hidle hmax).shrinks
  have hstored {store : Store} (hput : Store.Put s.now id s.store store)
      {r : Except StoreError Unit} :
      Filled maxIdle bound (s.setTick owner store (State.afterPut id rest r)) := by
    have hcount : idleCount s.now store ≤ s.idleCount + 1 := hput.idleCount_le
    refine h.ticked rfl rfl ?_ (hput.maxIdle.trans h.limit) ?_ ?_ ?_
    · cases r with
      | error e => trivial
      | ok u =>
        cases rest with
        | nil => trivial
        | cons next rest =>
          rw [List.length_cons] at hspace
          refine ⟨by omega,fun _ => ?_⟩
          change (idleCount s.now store : Int) + _ ≤ maxIdle
          omega
    · change (idleCount s.now store : Int) ≤ bound
      omega
    · intro other hne _ hother
      change store.lock.ownerID = other at hother
      rw [hput.lock] at hother
      exact absurd (hother.symm.trans hholds) hne
    · intro other _ _ hother _
      change store.lock.ownerID = other ∧ _ ≤ store.lock.expiresAt
      rw [hput.lock]
      exact ⟨hother,le_rfl⟩
  subst ht
  have hspec := putIdle_spec s.now id s.store
  have hput {r : Except StoreError Unit}
      (hr : r = (putIdle s.now id s.store).1 ∨ r = .error .unavailable) :
      Filled maxIdle bound
        (s.setTick owner (putIdle s.now id s.store).2 (State.afterPut id rest r)) := by
    generalize putIdle s.now id s.store = put at hspec hr
    obtain ⟨result,store⟩ := put
    cases hspec with
    | refused e _ hidle hlock hmax => rcases hr with rfl | rfl <;> exact hrefused hidle hlock hmax
    | stored _ hput => exact hstored hput
  cases reply with
  | failed => exact hrefused rfl rfl rfl
  | answered => exact hput (.inl rfl)
  | lost => exact hput (.inr rfl)

theorem Filled.drawn_tick
    (hticks : t.ticks = Function.update s.ticks owner tick) (hnow : t.now = s.now)
    (hdrawn : Store.Drawn s.now s.store t.store) (hown : Room maxIdle owner t tick) :
    Filled maxIdle bound t :=
  h.ticked_still hticks hnow hown (hdrawn.maxIdle.trans h.limit) hdrawn.lock hdrawn.shrinks

theorem Filled.reconcileTick (hle : maxIdle ≤ bound)
    {cfg : PoolConfig} {i : TickInput} (hnamed : owner ≠ "")
    (htimely : ∀ id rest granted, s.ticks owner = .putting id rest granted → s.now < granted)
    (hstep : s.reconcileTick cfg owner i = some t) : Filled maxIdle bound t := by
  have hroom := h.room owner hnamed
  have hsame := Store.Drawn.refl s.now s.store
  unfold State.reconcileTick at hstep
  split at hstep <;> rename_i htick
  · cases hstep
    refine h.drawn_tick rfl rfl
      (i.reply.perform_drawn (drawn_getDestroyState s.now s.store)) ?_
    unfold State.afterDestroyCheck
    split <;> trivial
  · cases hstep
    refine h.ticked_lock rfl rfl ?_
      ((tryAcquirePrimaryLock_spec s.now owner cfg.primaryLockTTL s.store).perform i.reply)
    unfold State.afterLock
    split <;> trivial
  · split_ifs at hstep
    cases hstep
    refine h.drawn_tick rfl rfl (i.reply.perform_drawn
      ⟨shrinks_foldl_erase _ s.store.idleMap,rfl,rfl,.inl rfl⟩) ?_
    unfold State.afterReap
    split
    · exact room_delete (show Tick.counting.Unplanned from trivial) maxIdle owner _
    · trivial
  · cases hstep
    refine h.drawn_tick rfl rfl (i.reply.perform_drawn hsame) ?_
    cases i.reply with
    | answered => exact fun _ => le_rfl
    | failed | lost => trivial
  · rename_i idleCount
    rw [htick] at hroom
    cases hstep
    refine h.drawn_tick rfl rfl (i.reply.perform_drawn hsame) ?_
    cases i.reply with
    | answered =>
      refine room_afterMaxIdle hroom fun n hn => ?_
      cases hn
      exact h.limit
    | failed | lost => trivial
  · cases hstep
    exact h.ticked_renew rfl (fun _ _ _ => trivial) trivial
  · cases hstep
    refine h.drawn_tick rfl rfl (i.reply.perform_drawn (drawn_take s.now 0 s.store)) ?_
    unfold State.afterEvict
    split
    · trivial
    · split
      · trivial
      · exact unplanned_shrink _
  · rw [htick] at hroom
    cases hstep
    refine h.ticked_renew rfl (fun hholds hcount _ => ⟨hroom.1,fun _ => ?_⟩) trivial
    rw [hcount]
    exact hroom.2 hholds
  · rw [htick] at hroom
    split_ifs at hstep with hguard
    cases hstep
    refine h.drawn_tick rfl rfl hsame (room_publish ?_ hroom)
    have hlen := of_decide_eq_true (Bool.and_eq_true_iff.mp hguard).2
    omega
  · rw [htick] at hroom
    cases hstep
    refine h.ticked_renew rfl (fun hholds hcount hlock => ⟨hroom.1,fun _ => ?_,?_⟩) trivial
    · rw [hcount]
      exact hroom.2 hholds
    · intro _
      rw [State.holds,hlock]
      exact ⟨rfl,le_rfl⟩
  · cases hstep
    exact h.put hle htick hnamed (htimely _ _ _ htick) i.reply rfl
  · rename_i id rest
    cases hstep
    exact h.drawn_tick rfl rfl (i.reply.perform_drawn (drawn_removeIdle s.now id s.store))
      trivial
  · rw [htick] at hroom
    cases hstep
    exact h.drawn_tick rfl rfl hsame (room_delete hroom maxIdle owner _)

theorem Filled.draws (hd : Draws s t) : Filled maxIdle bound t :=
  h.quiet (hd.store.maxIdle.trans h.limit) ⟨hd.ticks,hd.now.ge,hd.store.shrinks,hd.store.lock⟩

theorem Filled.release (hrest : s.ticks owner = .resting)
    (reply : Reply) : Filled maxIdle bound (s.change reply (Store.releasePrimaryLock owner)) := by
  refine Reply.perform_store (P := fun store => Filled maxIdle bound { s with store := store })
    reply s.store h ?_
  unfold releasePrimaryLock
  split
  · rename_i howner
    have hticks : s.ticks = update s.ticks owner .resting := by
      rw [← hrest,update_eq_self]
    refine @Filled.ticked maxIdle bound owner s _ .resting h hticks rfl trivial h.limit h.count
      ?_ ?_
    · intro other _ hnamed hother
      exact absurd hother.symm hnamed
    · intro other hne _ hother _
      exact absurd (hother.symm.trans howner) hne
  · exact h

end

theorem Room.cleared (h : Room maxIdle owner s tick) (hmax : maxIdle ≤ 0)
    (hempty : t.idleCount = 0) : Room maxIdle owner t tick := by
  cases tick with
  | sizing idleCount => exact fun _ => by omega
  | renewing toCreate | creating toCreate => exact ⟨h.1,fun _ => by have := h.1; omega⟩
  | publishing id rest | putting id rest granted => exact absurd h.1 (by omega)
  | deleting id ids next => exact h
  | _ => trivial

theorem Filled.destroy (h : Filled maxIdle bound s) (hpos : 0 ≤ bound) {call : Nat}
    {i : DestroyInput} (hmax : t.store.maxIdle = maxIdle) (hstep : s.destroy call i = some t) :
    Filled maxIdle bound t := by
  have hdrawn {store : Store} (hd : Store.Drawn s.now s.store store) (pc : Destroy)
      (log : List Event) : Filled maxIdle bound { s.setDestroy call store pc with log := log } :=
    h.quiet (hd.maxIdle.trans h.limit) ⟨rfl,le_rfl,hd.shrinks,hd.lock⟩
  have hstill {store : Store} (hd : Store.Still s.store store) (pc : Destroy) :
      Filled maxIdle bound (s.setDestroy call store pc) :=
    h.quiet (hd.maxIdle.trans h.limit)
      ⟨rfl,le_rfl,(Store.SameIdle.mk hd.idle hd.maxIdle).shrinks,hd.lock⟩
  unfold State.destroy at hstep
  split at hstep
  · cases hstep
    exact hdrawn (i.reply.perform_drawn (drawn_getDestroyState s.now s.store)) _ _
  · rename_i opts _
    cases hstep
    exact hstill (i.reply.perform_still (still_beginDestroy s.now opts.ownerID s.store)) _
  · cases hstep
    exact hdrawn (i.reply.perform_drawn (drawn_take s.now 0 s.store)) _ _
  · cases hstep
    exact hdrawn (Store.Drawn.refl s.now s.store) _ _
  · cases hstep
    rename_i opts _
    cases hreply : i.reply with
    | failed => exact hstill ⟨rfl,rfl,rfl⟩ _
    | answered | lost =>
      rw [hreply] at hmax
      have hzero : maxIdle = 0 := hmax.symm
      refine ⟨hpos,hmax,fun other hne => (h.room other hne).cleared hzero.le rfl⟩
  · rename_i opts _
    cases hstep
    exact hstill (i.reply.perform_still
      (still_markDestroyed s.now opts.ownerID opts.tombstoneTTL s.store)) _
  · cases hstep

theorem Filled.setting (h : Filled maxIdle bound s) (change : Store → Store)
    (hidle : ∀ u : Store, (change u).idleMap = u.idleMap)
    (hlock : ∀ u : Store, (change u).lock = u.lock)
    {reply : Reply}
    (hmax : (s.change reply (Store.rejectIfFencedLocked s.now change)).store.maxIdle = maxIdle) :
    Filled maxIdle bound (s.change reply (Store.rejectIfFencedLocked s.now change)) := by
  have hkept : (s.change reply (rejectIfFencedLocked s.now change)).store.idleMap =
      s.store.idleMap ∧
      (s.change reply (rejectIfFencedLocked s.now change)).store.lock = s.store.lock := by
    refine Reply.perform_store
      (P := fun u => u.idleMap = s.store.idleMap ∧ u.lock = s.store.lock) reply s.store
      ⟨rfl,rfl⟩ ?_
    unfold rejectIfFencedLocked
    dsimp only
    split
    · exact ⟨by simp,by simp⟩
    · rw [hidle,hlock]
      exact ⟨by simp,by simp⟩
  refine h.quiet hmax ⟨rfl,le_rfl,?_,hkept.2⟩
  rw [hkept.1]
  exact Store.Shrinks.refl s.store.idleMap

end Ticking

def Timely (s : State) : Action → Prop
  | .reconcileTick owner _ =>
    ∀ id rest granted, s.ticks owner = .putting id rest granted → s.now < granted
  | _ => True

def Constant (cfg : String → PoolConfig) (s : State) (a : Action) : Prop :=
  ∀ t, step cfg s a = some t → t.store.maxIdle = s.store.maxIdle

theorem Filled.step {cfg : String → PoolConfig} {maxIdle bound : Int} {s t : State} {a : Action}
    (h : Filled maxIdle bound s) (hle : maxIdle ≤ bound) (hpos : 0 ≤ bound)
    (htimely : Timely s a) (hconstant : Constant cfg s a) (hstep : step cfg s a = some t) :
    Filled maxIdle bound t := by
  have hmax := (hconstant t hstep).trans h.limit
  cases a with
  | advance duration =>
    cases hstep
    exact h.quiet hmax ⟨rfl,Nat.le_add_right _ _,Store.Shrinks.refl _,rfl⟩
  | reconcileTick owner i =>
    simp only [ClientPool.step] at hstep
    split_ifs at hstep with hnamed
    exact h.reconcileTick hle hnamed htimely hstep
  | releasePrimaryLock owner reply =>
    simp only [ClientPool.step] at hstep
    split_ifs at hstep with hrest
    cases hstep
    exact h.release hrest.2 reply
  | setMaxIdle n reply =>
    cases hstep
    exact h.setting (fun u => { u with maxIdle := n }) (fun _ => rfl) (fun _ => rfl) hmax
  | setIdleEntryTTL ttl reply =>
    cases hstep
    exact h.setting (fun u => { u with idleTTL := max ttl millisecond }) (fun _ => rfl)
      (fun _ => rfl) hmax
  | acquire call i => exact h.draws (State.acquire_draws hstep)
  | releaseAllIdle reply =>
    cases hstep
    exact h.draws (State.releaseAllIdle_draws s reply)
  | killSandbox id =>
    simp only [ClientPool.step] at hstep
    split_ifs at hstep
    cases hstep
    exact h.quiet hmax ⟨rfl,le_rfl,Store.Shrinks.refl _,rfl⟩
  | destroy call i => exact h.destroy hpos hmax hstep

theorem idle_never_over_filled (cfg : String → PoolConfig) {start s : State}
    (hstart : ∀ owner, start.ticks owner = .resting)
    (h : Runs.Reach (fun s a t => step cfg s a = some t)
      (fun s a => Timely s a ∧ Constant cfg s a) (· = start) s) :
    (s.idleCount : Int) ≤ max start.store.maxIdle start.idleCount := by
  have hfilled : Filled start.store.maxIdle (max start.store.maxIdle start.idleCount) s := by
    refine h.invariant (fun u hu => ?_) fun u a t hu hok hstep => ?_
    · subst hu
      refine ⟨le_max_right _ _,rfl,fun owner _ => ?_⟩
      rw [hstart owner]
      trivial
    · exact hu.step (le_max_left _ _) (le_max_of_le_right (by omega)) hok.1 hok.2 hstep
  exact hfilled.count

def emptyState (maxIdle : Int) : State where
  now := 0
  store := ⟨∅,[],⟨"",0⟩,defaultIdleTimeout,maxIdle,.active,"",none⟩
  ticks := fun _ => .resting
  acquires := fun _ => .ready
  destroys := fun _ => .ready
  spawned := []
  issued := []
  log := []

def smallConfig : String → PoolConfig := fun _ => ⟨10,0,1⟩

def ticksOf (owner : String) (n : Nat) : List Action :=
  List.replicate n (.reconcileTick owner ⟨.answered,0,false,[],[]⟩)

def creates (owner id : String) : Action := .reconcileTick owner ⟨.answered,0,false,[id],[]⟩

def fills (owner id : String) : List Action :=
  ticksOf owner 6 ++ [creates owner id] ++ ticksOf owner 2

def timely (s : State) : Action → Bool
  | .reconcileTick owner _ =>
    match s.ticks owner with
    | .putting _ _ granted => decide (s.now < granted)
    | _ => true
  | _ => true

theorem timely_sound {s : State} {a : Action} (h : timely s a = true) : Timely s a := by
  cases a with
  | reconcileTick owner i =>
    intro id rest granted htick
    simp only [timely,htick] at h
    exact of_decide_eq_true h
  | _ => trivial

instance (cfg : String → PoolConfig) (s : State) (a : Action) : Decidable (Constant cfg s a) := by
  unfold Constant
  infer_instance

theorem idle_never_over_filled_takeover :
    ∃ s : State, s.idleCount = 2 ∧ (s.idleCount : Int) ≤ max 2 0 := by
  obtain ⟨s,hs,hcount⟩ : ∃ s ∈ Runs.follow
      (fun s a => if timely s a ∧ Constant smallConfig s a then step smallConfig s a else none)
      (emptyState 2) (fills "a" "x" ++ [.advance 20] ++ fills "b" "y"), s.idleCount = 2 := by
    decide
  have hreach : Runs.Reach (fun s a t => step smallConfig s a = some t)
      (fun s a => Timely s a ∧ Constant smallConfig s a) (· = emptyState 2) s :=
    Runs.Reach.mono (fun _ _ => And.imp_left timely_sound) (fun _ _ _ => id)
      (.follow_checked (.start rfl) hs)
  exact ⟨s,hcount,idle_never_over_filled smallConfig (fun _ => rfl) hreach⟩

end OpenSandbox.ClientPool
