import OpenSandbox.Egress.Fleet.Plane

namespace OpenSandbox.Fleet

open Netip Policy Slots Registry MemoryRegistry Lifecycle List Option Function Plane Pc

structure Ledger where
  plane : Plane
  accepted : List PendingRequest
  applied : List PendingRequest

variable (s : Subject) (f : Plane)

def Plane.Known (s : Subject) : Prop := (f.reg.bySubject s).isSome = true

def Plane.storedPush : List Applying :=
  f.applying.toList.filter fun a => (f.reg.bySubject a.push.subj).isSome

def Plane.acceptedBy : Label → List PendingRequest
  | .cache push => [push]
  | .pushReg => (f.storedPush.filter fun a => !a.replayed).map Applying.push
  | _ => []

def Plane.appliedBy : Label → List PendingRequest
  | .pushReg => f.storedPush.map Applying.push
  | _ => []

def Records (t : Ledger) (l : Label) (t' : Ledger) : Prop :=
  Step t.plane l t'.plane ∧ t'.accepted = t.plane.acceptedBy l ++ t.accepted ∧
    t'.applied = t.plane.appliedBy l ++ t.applied

def Ledger.Opened (t : Ledger) : Prop := Launched t.plane ∧ t.accepted = [] ∧ t.applied = []

def Pc.observed : Pc → Option Subject
  | .denyFirst r | .resolv r | .gateway r | .complete r _ => some r.subject
  | _ => none

def Pc.undrained : Pc → Option Subject
  | .attempt r => some r.subject
  | pc => pc.observed

def Pc.queue : Pc → List PendingRequest
  | .flush _ _ queue | .replaying _ _ queue => queue
  | _ => []

def Pc.halted : Pc → Bool
  | .stopped _ => true
  | _ => false

def Quiet : Label → Prop
  | .event (.deleted slot) => slotSubject slot = s → f.reg.bySubject s = none
  | .complete expired | .sweep expired => ∀ p ∈ f.pending s, expired p = false
  | .arrive push => push.subj = s → push.gen = none
  | .pushNft fault => ∀ a, f.applying = some a → a.push.subj = s →
      (Fleetnft.applyPolicy fault f.nft a.push.subj (some a.eff)).1.isOk = true
  | _ => True

def CachesInTime : Label → Prop
  | .cache push => push.subj = s → f.reg.bySubject s = none ∨ f.pc.undrained = some s
  | _ => True

@[mk_iff] structure Finished (f : Plane) : Prop where
  pc : f.pc = .idle
  applying : f.applying = none
  caching : f.caching = []
  waiting : f.waiting = []

def Plane.inFlight : List PendingRequest :=
  (f.applying.toList.filter fun a => a.replayed).map Applying.push

def Plane.held : List PendingRequest :=
  f.pc.queue ++ f.waiting ++ f.applying.toList.map Applying.push

def Plane.Awaited (s : Subject) : Prop :=
  f.reg.bySubject s = none ∨ f.pc.undrained = some s ∨ f.pc.halted = true

structure Tallied (s : Subject) (t : Ledger) : Prop where
  owned : ∀ u, ∀ p ∈ t.plane.pending u, p.subj = u
  unfenced : ∀ p ∈ t.plane.caching ++ t.plane.pending s, p.subj = s → p.gen = none
  observed : t.plane.pc.observed = some s → t.plane.Known s
  held : ∀ p ∈ t.plane.held, p.subj = s → t.plane.Known s
  loaded : t.plane.pc.unloading ≠ some s
  drained : t.plane.pending s ≠ [] → t.plane.Awaited s
  counted : ∀ p : PendingRequest, p.subj = s →
    t.accepted.count p = t.applied.count p + (t.plane.pending s).count p +
      t.plane.pc.queue.count p + t.plane.inFlight.count p

theorem Tallied.opened {s : Subject} {t : Ledger} (h : t.Opened) : Tallied s t := by
  obtain ⟨f,accepted,applied⟩ := t
  obtain ⟨⟨_,_,_,_,rfl⟩,rfl,rfl⟩ := h
  exact ⟨nofun,nofun,nofun,nofun,nofun,absurd rfl,fun _ _ => rfl⟩

theorem Pc.resume_views (pc : Pc) : pc.resume.queue = pc.queue ∧
    pc.resume.observed = pc.observed ∧ pc.resume.undrained = pc.undrained ∧
      pc.resume.halted = pc.halted := by
  cases pc <;> exact ⟨rfl,rfl,rfl,rfl⟩

section Steps

variable {s : Subject} {f f' : Plane} {accepted applied : List PendingRequest} {r : Registration}

theorem Plane.Known.update {reg : MemoryRegistry} {u : Subject} {e : Entry} (h : f.Known s)
    (hreg : reg.bySubject = Function.update f.reg.bySubject u (some e)) :
    (reg.bySubject s).isSome = true := by
  rw [hreg]
  by_cases hu : s = u
  · rw [hu,update_self]
    rfl
  · rwa [update_of_ne hu]

structure Undisturbed (s : Subject) (f f' : Plane) : Prop where
  pending : f'.pending = f.pending
  caching : f'.caching = f.caching
  waiting : f'.waiting = f.waiting
  applying : f'.applying = f.applying
  queue : f'.pc.queue = f.pc.queue
  known : f.Known s → f'.Known s
  observed : f'.pc.observed = some s → f'.Known s
  loaded : f'.pc.unloading ≠ some s
  awaited : f.Awaited s → f'.Awaited s

theorem Tallied.frame (h : Tallied s ⟨f,accepted,applied⟩) (hf : Undisturbed s f f') :
    Tallied s ⟨f',accepted,applied⟩ := by
  have hheld : f'.held = f.held := by
    rw [Plane.held,hf.queue,hf.waiting,hf.applying]
    rfl
  have hflight : f'.inFlight = f.inFlight := by
    rw [inFlight,hf.applying]
    rfl
  refine ⟨?_,?_,hf.observed,?_,hf.loaded,?_,?_⟩
  · simp only [hf.pending]
    exact h.owned
  · simp only [hf.pending,hf.caching]
    exact h.unfenced
  · simp only [hheld]
    exact fun p hp hs => hf.known (h.held p hp hs)
  · simp only [hf.pending]
    exact fun hne => hf.awaited (h.drained hne)
  · simp only [hf.pending,hf.queue,hflight]
    exact h.counted

theorem Undisturbed.sameEntry (hreg : f'.reg.bySubject s = f.reg.bySubject s)
    (hpending : f'.pending = f.pending) (hcaching : f'.caching = f.caching)
    (hwaiting : f'.waiting = f.waiting) (happlying : f'.applying = f.applying)
    (hqueue : f'.pc.queue = f.pc.queue) (hobserved : f'.pc.observed = some s → f.Known s)
    (hloaded : f'.pc.unloading ≠ some s)
    (hpc : f.pc.undrained = some s ∨ f.pc.halted = true →
      f'.pc.undrained = some s ∨ f'.pc.halted = true) : Undisturbed s f f' := by
  refine ⟨hpending,hcaching,hwaiting,happlying,hqueue,?_,?_,hloaded,?_⟩
  · rw [Plane.Known,Plane.Known,hreg]
    exact id
  · rwa [Plane.Known,hreg]
  · rw [Plane.Awaited,Plane.Awaited,hreg]
    exact Or.imp_right hpc

theorem Tallied.applyEvent {ev : Event} (h : Tallied s ⟨f,accepted,applied⟩)
    (hpc : f.pc = .idle) (hok : Quiet s f (.event ev)) :
    Tallied s ⟨f.applyEvent ev,accepted,applied⟩ := by
  have hmove {reg : MemoryRegistry} {pc : Pc} (hreg : reg.bySubject s = f.reg.bySubject s)
      (hqueue : pc.queue = []) (hobs : pc.observed ≠ some s) (hunl : pc.unloading ≠ some s) :
      Tallied s ⟨{ f with reg := reg, pc := pc },accepted,applied⟩ := by
    refine h.frame (.sameEntry hreg rfl rfl rfl rfl (by rw [hpc]; exact hqueue)
      (fun hs => absurd hs hobs) hunl fun hpc' => ?_)
    rw [hpc] at hpc'
    rcases hpc' with h | h <;> cases h
  cases ev with
  | bound slot | updated slot =>
    simp only [Plane.applyEvent]
    split
    · exact hmove rfl rfl (by simp [Pc.observed]) (by simp [Pc.unloading])
    · exact h
  | deleted slot =>
    by_cases hs : slotSubject slot = s
    · have hnone := hok hs
      rw [← hs] at hnone
      simp only [Plane.applyEvent,unregister,hnone]
      exact h
    have hby := congrFun (f.reg.bySubject_unregister (slotSubject slot)) s
    rw [update_of_ne (Ne.symm hs)] at hby
    simp only [Plane.applyEvent]
    generalize f.reg.unregister (slotSubject slot) = out at hby ⊢
    obtain ⟨_ | _ | _,reg⟩ := out
    · exact h.frame (.sameEntry hby rfl rfl rfl rfl rfl h.observed h.loaded id)
    · exact hmove hby rfl (by simp [Pc.observed]) (by simpa [Pc.unloading] using hs)
    · exact hmove hby rfl (by simp [Pc.observed]) (by simpa [Pc.unloading] using hs)
  | error e => exact h

theorem Tallied.registerAndEnforce (h : Tallied s ⟨f,accepted,applied⟩)
    (hpc : f.pc = .attempt r) : Tallied s ⟨f.registerAndEnforce r,accepted,applied⟩ := by
  have hawait {reg : MemoryRegistry} {pc : Pc} {e : Entry}
      (hby : reg.bySubject = update f.reg.bySubject r.subject (some e))
      (hund : pc.undrained = some r.subject) (ha : f.Awaited s) :
      reg.bySubject s = none ∨ pc.undrained = some s ∨ pc.halted = true := by
    by_cases hs : s = r.subject
    · rw [hs]
      exact .inr (.inl hund)
    rcases ha with ha | ha | ha
    · rw [hby,update_of_ne hs]
      exact .inl ha
    · rw [hpc] at ha
      exact absurd (some.inj ha).symm hs
    · rw [hpc] at ha
      cases ha
  have hobs {reg : MemoryRegistry} {e : Entry} (hs : some r.subject = some s)
      (hby : reg.bySubject = update f.reg.bySubject r.subject (some e)) :
      (reg.bySubject s).isSome = true := by
    rw [hby,some.inj hs,update_self]
    rfl
  rcases f.registerAndEnforce_cases r with ⟨e,reg,-,-,-,hby,hr⟩ | ⟨reg,-,-,hby,hr⟩
  all_goals
    rw [hr]
    refine h.frame ⟨rfl,rfl,rfl,rfl,by rw [hpc]; rfl,fun hk => hk.update hby,
      fun hs => hobs hs hby,?_,hawait hby rfl⟩
    intro h
    cases h

variable {expired : PendingRequest → Bool}

theorem mem_of_mem_cleared {u v : Subject} {p : PendingRequest}
    (h : p ∈ update f.pending v [] u) : p ∈ f.pending u := by
  by_cases hu : u = v
  · simp [hu] at h
  · rwa [update_of_ne hu] at h

variable {state : State}

theorem Tallied.onRegisteredComplete (h : Tallied s ⟨f,accepted,applied⟩)
    (hpc : f.pc = .complete r state) (hok : Quiet s f (.complete expired)) :
    Tallied s ⟨f.onRegisteredComplete r state expired,accepted,applied⟩ := by
  have hqueue : ∀ p ∈ takePendingAll expired r.slot (f.pending r.subject), p.subj = r.subject :=
    fun p hp => h.owned _ p (mem_of_mem_filter hp)
  have hobs : r.subject = s → f.Known s := fun hs => h.observed (by rw [hpc,← hs]; rfl)
  unfold Plane.onRegisteredComplete
  refine ⟨fun u p hp => ?_,fun p hp hs => ?_,nofun,fun p hp hs => ?_,
    nofun,fun hne => ?_,fun p hp => ?_⟩
  · exact h.owned u p (mem_of_mem_cleared hp)
  · refine h.unfenced p ?_ hs
    rcases mem_append.mp hp with hp | hp
    · exact mem_append_left _ hp
    · exact mem_append_right _ (mem_of_mem_cleared hp)
  · simp only [Plane.held,queue,mem_append] at hp
    rcases hp with (hp | hp) | hp
    · exact hobs ((hqueue p hp).symm.trans hs)
    · exact h.held p (by simp [Plane.held,hp]) hs
    · exact h.held p (by simp only [Plane.held,mem_append]; exact .inr hp) hs
  · by_cases hu : s = r.subject
    · simp [hu] at hne
    · simp only [update_of_ne hu] at hne
      rcases h.drained hne with ha | ha | ha
      · exact .inl ha
      · simp only [hpc] at ha
        exact absurd (some.inj ha).symm hu
      · simp only [hpc] at ha
        cases ha
  have hcount := h.counted p hp
  simp only [hpc,queue,Plane.inFlight,count_nil] at hcount ⊢
  by_cases hu : s = r.subject
  · subst hu
    rw [takePendingAll,filter_eq_self.mpr fun q hq => ?_,update_self,count_nil]
    · omega
    · rw [h.unfenced q (mem_append_right _ hq) (h.owned _ q hq),hok q hq]
      rfl
  · rwa [update_of_ne hu,count_eq_zero.mpr fun hmem => hu (hp ▸ hqueue p hmem)]

variable {push : PendingRequest}

theorem Tallied.replay {queue : List PendingRequest} (h : Tallied s ⟨f,accepted,applied⟩)
    (hpc : f.pc = .flush r state (push :: queue)) (hmu : f.applying = none) :
    Tallied s ⟨{ f with pc := .replaying r state queue }.begin push true,accepted,applied⟩ := by
  unfold Plane.begin
  refine ⟨h.owned,h.unfenced,nofun,fun p hp hs => ?_,nofun,fun hne => ?_,fun p hp => ?_⟩
  · refine h.held p ?_ hs
    simp only [Plane.held,hpc,hmu,Pc.queue,toList_some,map_cons,map_nil,
      mem_append,mem_cons,not_mem_nil,toList_none] at hp ⊢
    tauto
  · exact .inl ((h.drained hne).resolve_right (by simp [hpc,Pc.undrained,Pc.observed,Pc.halted]))
  · have hcount := h.counted p hp
    simp only [hpc,hmu,Pc.queue,Plane.inFlight,toList_none,toList_some,filter_nil,map_nil,count_nil,
      filter_cons_of_pos,map_cons,count_cons] at hcount ⊢
    omega

theorem Plane.pending_cachePending (f : Plane) (push : PendingRequest) (u : Subject) :
    (f.cachePending push).pending u =
      f.pending u ++ if push.subj = u then [push] else [] := by
  by_cases hu : push.subj = u
  · subst hu
    simp [cachePending]
  · simp [cachePending,hu,update_of_ne (Ne.symm hu)]

theorem Plane.owned_cachePending {f : Plane} (h : ∀ u, ∀ p ∈ f.pending u, p.subj = u)
    (u : Subject) {p : PendingRequest} (hp : p ∈ (f.cachePending push).pending u) : p.subj = u := by
  rw [pending_cachePending,mem_append] at hp
  rcases hp with hp | hp
  · exact h u p hp
  split_ifs at hp with hu
  · rwa [mem_singleton.mp hp]
  · cases hp

theorem Plane.cachePending_other {f : Plane} (h : push.subj ≠ s) :
    (f.cachePending push).pending s = f.pending s := by
  rw [pending_cachePending,if_neg h,append_nil]

variable (h : Tallied s ⟨f,accepted,applied⟩)

include h

theorem Tallied.recache {queue : List PendingRequest}
    (hpc : f.pc = .flush r state (push :: queue)) (hget : (f.reg.get push.subj).2 = false) :
    Tallied s ⟨{ f with pc := .flush r state queue }.cachePending push,accepted,applied⟩ := by
  have hother : push.subj ≠ s := by
    intro hs
    have hk := h.held push (by simp [Plane.held,hpc,Pc.queue]) hs
    obtain ⟨e,he⟩ := isSome_iff_exists.mp hk
    simp only [hs,MemoryRegistry.get] at hget he
    rw [he] at hget
    cases hget
  refine ⟨fun u p hp => Plane.owned_cachePending h.owned u hp,fun p hp hs => ?_,nofun,
    fun p hp hs => ?_,nofun,fun hne => ?_,fun p hp => ?_⟩
  · simp only [Plane.cachePending_other hother] at hp
    exact h.unfenced p hp hs
  · refine h.held p ?_ hs
    simp only [Plane.held,Plane.cachePending,hpc,Pc.queue,mem_append,mem_cons] at hp ⊢
    tauto
  · simp only [Plane.cachePending_other hother] at hne
    exact .inl ((h.drained hne).resolve_right (by simp [hpc,Pc.undrained,Pc.observed,Pc.halted]))
  · have hcount := h.counted p hp
    have hne : push ≠ p := by
      rintro rfl
      exact hother hp
    simp only [Plane.cachePending_other hother]
    simp only [hpc,Pc.queue,count_cons_of_ne hne] at hcount
    exact hcount

theorem Tallied.cachePending (hmem : push ∈ f.caching)
    (hok : push.subj = s → f.reg.bySubject s = none ∨ f.pc.undrained = some s) :
    Tallied s ⟨{ f with caching := f.caching.erase push }.cachePending push,
      push :: accepted,applied⟩ := by
  refine ⟨fun u p hp => Plane.owned_cachePending h.owned u hp,fun p hp hs => ?_,h.observed,
    h.held,h.loaded,fun hne => ?_,fun p hp => ?_⟩
  · simp only [Plane.pending_cachePending,mem_append] at hp
    rcases hp with hp | hp | hp
    · exact h.unfenced p (mem_append_left _ (mem_of_mem_erase hp)) hs
    · exact h.unfenced p (mem_append_right _ hp) hs
    split at hp
    · rw [mem_singleton.mp hp] at hs ⊢
      exact h.unfenced push (mem_append_left _ hmem) hs
    · cases hp
  · by_cases hs : push.subj = s
    · exact (hok hs).imp_right .inl
    · simp only [Plane.cachePending_other hs] at hne
      exact h.drained hne
  have hcount := h.counted p hp
  simp only [Plane.pending_cachePending,count_append]
  simp only [Plane.inFlight,Plane.cachePending] at hcount ⊢
  by_cases hs : push.subj = s
  · rw [if_pos hs,count_cons,count_cons,count_nil]
    omega
  have hne : push ≠ p := by
    rintro rfl
    exact hs hp
  rwa [if_neg hs,count_cons_of_ne hne,count_nil]

theorem Tallied.unloadPending {slot : Slot}
    (hpc : f.pc = .dropPending slot) : Tallied s ⟨f.unloadPending slot,accepted,applied⟩ := by
  have hother : s ≠ slotSubject slot := by
    rintro rfl
    exact h.loaded (by rw [hpc]; rfl)
  have hpending : (f.unloadPending slot).pending s = f.pending s := update_of_ne hother ..
  refine ⟨fun u p hp => ?_,fun p hp => ?_,nofun,?_,?_,?_,?_⟩
  · exact h.owned u p (mem_of_mem_cleared hp)
  · simp only [hpending] at hp
    exact h.unfenced p hp
  · intro p hp hs
    refine h.held p ?_ hs
    simpa [Plane.held,Plane.unloadPending,hpc,queue] using hp
  · simpa [Plane.unloadPending,unloading] using hother.symm
  · intro hne
    simp only [hpending] at hne
    exact .inl ((h.drained hne).resolve_right (by simp [hpc,Pc.undrained,Pc.observed,Pc.halted]))
  · simp only [hpending]
    simpa [Plane.unloadPending,Plane.inFlight,queue,hpc] using h.counted

theorem Tallied.resolvePolicyPush (hok : push.subj = s → push.gen = none) :
    Tallied s ⟨f.resolvePolicyPush push,accepted,applied⟩ := by
  unfold Plane.resolvePolicyPush
  split_ifs with hget
  · refine { h with held := fun p hp hs => ?_ }
    simp only [Plane.held,mem_append,mem_singleton] at hp
    rcases hp with (hp | hp | rfl) | hp
    · exact h.held p (by simp only [Plane.held,mem_append]; exact .inl (.inl hp)) hs
    · exact h.held p (by simp only [Plane.held,mem_append]; exact .inl (.inr hp)) hs
    · rw [hs] at hget
      simp only [MemoryRegistry.get] at hget
      split at hget
      · cases hget
      · next he => simp [Plane.Known,he]
    · exact h.held p (by simp only [Plane.held,mem_append]; exact .inr hp) hs
  · refine ⟨h.owned,fun p hp hs => ?_,h.observed,h.held,h.loaded,h.drained,h.counted⟩
    simp only [mem_append,mem_singleton] at hp
    rcases hp with (hp | rfl) | hp
    · exact h.unfenced p (mem_append_left _ hp) hs
    · exact hok hs
    · exact h.unfenced p (mem_append_right _ hp) hs

theorem Tallied.sweep (hok : ∀ p ∈ f.pending s, expired p = false) :
    Tallied s ⟨{ f with pending := fun u => (f.pending u).filter (!expired ·) },accepted,
      applied⟩ := by
  have hpending : (f.pending s).filter (!expired ·) = f.pending s :=
    filter_eq_self.mpr fun p hp => by rw [hok p hp]; rfl
  refine ⟨fun u p hp => h.owned u p (mem_of_mem_filter hp),?_,h.observed,h.held,h.loaded,?_,?_⟩
  · simp only [hpending]
    exact h.unfenced
  · simp only [hpending]
    exact h.drained
  · simp only [hpending]
    exact h.counted

theorem Tallied.begin (hmem : push ∈ f.waiting) (hmu : f.applying = none) :
    Tallied s ⟨{ f with waiting := f.waiting.erase push }.begin push false,accepted,applied⟩ := by
  refine { h with held := fun p hp hs => ?_, counted := fun p hp => ?_ }
  · refine h.held p ?_ hs
    simp only [Plane.held,Plane.begin,hmu,toList_some,map_cons,map_nil,
      mem_append,mem_singleton,toList_none] at hp ⊢
    rcases hp with (hp | hp) | rfl
    · exact .inl (.inl hp)
    · exact .inl (.inr (mem_of_mem_erase hp))
    · exact .inl (.inr hmem)
  · have hcount := h.counted p hp
    simpa [Plane.begin,Plane.inFlight,hmu] using hcount

variable {a : Applying}

theorem Tallied.finish {accepted' applied' : List PendingRequest}
    (hcount : ∀ p : PendingRequest, p.subj = s →
      accepted'.count p + applied.count p + f.inFlight.count p =
        accepted.count p + applied'.count p) : Tallied s ⟨f.finish a,accepted',applied'⟩ := by
  obtain ⟨⟨hqueue,hobserved,hundrained,hhalted⟩,hunloading⟩ :
      ((f.finish a).pc.queue = f.pc.queue ∧ (f.finish a).pc.observed = f.pc.observed ∧
        (f.finish a).pc.undrained = f.pc.undrained ∧ (f.finish a).pc.halted = f.pc.halted) ∧
        (f.finish a).pc.unloading = f.pc.unloading := by
    unfold Plane.finish
    split
    · exact ⟨resume_views _,unloading_resume _⟩
    · exact ⟨⟨rfl,rfl,rfl,rfl⟩,rfl⟩
  refine ⟨h.owned,h.unfenced,?_,fun p hp hs => ?_,?_,fun hne => ?_,fun p hp => ?_⟩
  · rw [hobserved]
    exact h.observed
  · refine h.held p ?_ hs
    simp only [Plane.held,mem_append] at hp ⊢
    rw [hqueue] at hp
    rcases hp with hp | hp
    · exact .inl hp
    · cases hp
  · rw [hunloading]
    exact h.loaded
  · rw [Plane.Awaited,hundrained,hhalted]
    exact h.drained hne
  · have hold := h.counted p hp
    have hnew := hcount p hp
    rw [hqueue]
    simp only [Plane.finish,Plane.inFlight,toList_none,filter_nil,map_nil,count_nil] at hold hnew ⊢
    omega

theorem Tallied.nftApplyPolicy {fault : Option String}
    (ha : f.applying = some a) (hok : Quiet s f (.pushNft fault)) :
    Tallied s ⟨f.nftApplyPolicy a fault,accepted,applied⟩ := by
  have hnft (nft : Fleetnft.World) : Tallied s ⟨{ f with nft := nft },accepted,applied⟩ :=
    h.frame (.sameEntry rfl rfl rfl rfl rfl rfl h.observed h.loaded id)
  unfold Plane.nftApplyPolicy
  split
  · refine { h with held := fun p hp => ?_, counted := fun p hp => ?_ }
    · refine h.held p ?_
      simpa [Plane.held,ha] using hp
    · have hcount := h.counted p hp
      simp only [inFlight,ha,toList_some] at hcount ⊢
      cases hr : a.replayed <;> simpa [hr] using hcount
  next hfail =>
  refine (hnft _).finish fun p hp => ?_
  have hother : a.push.subj ≠ s := by
    intro hs
    have := hok a ha hs
    rw [hfail] at this
    cases this
  have hne : a.push ≠ p := by
    rintro rfl
    exact hother hp
  cases hr : a.replayed <;> simp [inFlight,ha,hr,hne]

theorem Tallied.regApplyPolicy (ha : f.applying = some a) :
    Tallied s ⟨f.regApplyPolicy a,f.acceptedBy .pushReg ++ accepted,
      f.appliedBy .pushReg ++ applied⟩ := by
  rcases f.regApplyPolicy_cases a with ⟨e,reg,he,-,hby,hr⟩ | ⟨hnone,hr⟩
  · have hstored : Tallied s ⟨{ f with
        reg := reg
        stored := update f.stored a.push.subj (some a.began) },accepted,applied⟩ := by
      refine h.frame ⟨rfl,rfl,rfl,rfl,rfl,fun hk => hk.update hby,
        fun hs => (h.observed hs).update hby,h.loaded,fun haw => ?_⟩
      refine haw.imp_left fun hno => ?_
      by_cases hs : s = a.push.subj
      · rw [hs,he] at hno
        cases hno
      · simp only [hby,update_of_ne hs]
        exact hno
    rw [hr]
    refine hstored.finish fun p hp => ?_
    simp only [acceptedBy,appliedBy,storedPush,inFlight,ha,toList_some]
    cases hrep : a.replayed <;> simp [he,hrep,count_cons] <;> omega
  rw [hr]
  refine h.finish fun p hp => ?_
  have hother : a.push.subj ≠ s := by
    rintro rfl
    have hk := h.held a.push (by simp [Plane.held,ha]) rfl
    rw [Plane.Known,hnone] at hk
    cases hk
  have hne : a.push ≠ p := by
    rintro rfl
    exact hother hp
  cases hrep : a.replayed <;>
    simp [acceptedBy,appliedBy,storedPush,inFlight,ha,hnone,hrep,hne]

structure Pc.Onward (pc pc' : Pc) : Prop where
  queue : pc'.queue = pc.queue
  observed : pc'.observed = none ∨ pc'.observed = pc.observed
  unloading : pc'.unloading = none ∨ pc'.unloading = pc.unloading
  undrained : pc'.halted = true ∨ pc'.undrained = pc.undrained ∧ pc.halted = false

theorem Tallied.onward (hreg : f'.reg = f.reg)
    (hpending : f'.pending = f.pending) (hcaching : f'.caching = f.caching)
    (hwaiting : f'.waiting = f.waiting) (happlying : f'.applying = f.applying)
    (hpc : f.pc.Onward f'.pc) : Tallied s ⟨f',accepted,applied⟩ := by
  refine h.frame (.sameEntry (by rw [hreg]) hpending hcaching hwaiting happlying hpc.queue
    (fun hs => ?_) ?_ fun ha => ?_)
  · rcases hpc.observed with hobs | hobs
    · rw [hobs] at hs
      cases hs
    · exact h.observed (hobs ▸ hs)
  · rcases hpc.unloading with hunl | hunl
    · rw [hunl]
      simp
    · rw [hunl]
      exact h.loaded
  · rcases hpc.undrained with hund | ⟨hund,hrun⟩
    · exact .inr hund
    · rw [hund]
      exact ha.imp_right fun hh => by rw [hrun] at hh; cases hh

theorem tallied_step {l : Label} (hq : Quiet s f l) (hc : CachesInTime s f l) (hs : Step f l f') :
    Tallied s ⟨f',f.acceptedBy l ++ accepted,f.appliedBy l ++ applied⟩ := by
  cases hs with
  | event ev hpc => exact h.applyEvent hpc hq
  | attempt hpc => exact h.registerAndEnforce hpc
  | denyFirst outcome hpc | resolv outcome hpc | gateway outcome hpc =>
    simp only [applyDenyFirst,rewriteResolv,redirectGateway]
    split <;> refine h.onward rfl rfl rfl rfl rfl ?_ <;> rw [hpc]
    · exact ⟨rfl,.inr rfl,.inl rfl,.inr ⟨rfl,rfl⟩⟩
    · exact ⟨rfl,.inl rfl,.inl rfl,.inr ⟨rfl,rfl⟩⟩
  | giveUp hpc =>
    refine h.onward rfl rfl rfl rfl rfl ?_
    rw [hpc]
    exact ⟨rfl,.inl rfl,.inl rfl,.inl rfl⟩
  | complete expired hpc => exact h.onRegisteredComplete hpc hq
  | replay hpc hget hmu => exact h.replay hpc hmu
  | recache hpc hget => exact h.recache hpc hget
  | flushed hpc =>
    unfold Plane.registered
    refine h.onward rfl rfl rfl rfl rfl ?_
    rw [hpc]
    simp only
    split <;> exact ⟨rfl,.inl rfl,.inl rfl,.inr ⟨rfl,rfl⟩⟩
  | slotResolv outcome hpc | slotGateway outcome hpc | slotDispatch outcome hpc
  | unloadNft outcome _ hpc =>
    simp only [updateResolv,updateGateway,updateDispatch,unloadNft]
    split <;> refine h.onward rfl rfl rfl rfl rfl ?_ <;> rw [hpc]
    · exact ⟨rfl,.inl rfl,.inl rfl,.inr ⟨rfl,rfl⟩⟩
    · exact ⟨rfl,.inl rfl,.inl rfl,.inl rfl⟩
  | unloadPending hpc => exact h.unloadPending hpc
  | unloadGateway hpc =>
    refine h.onward rfl rfl rfl rfl rfl ?_
    rw [hpc]
    exact ⟨rfl,.inl rfl,.inr rfl,.inr ⟨rfl,rfl⟩⟩
  | arrive push => exact h.resolvePolicyPush hq
  | cache hmem => exact h.cachePending hmem hc
  | sweep expired => exact h.sweep hq
  | begin hmem hmu => exact h.begin hmem hmu
  | pushNft fault ha => exact h.nftApplyPolicy ha hq
  | pushReg ha => exact h.regApplyPolicy ha
  | resolved => exact h.frame (.sameEntry rfl rfl rfl rfl rfl rfl h.observed h.loaded id)

end Steps

theorem Tallied.settles {s : Subject} {t : Ledger} (h : Tallied s t) (hfin : Finished t.plane)
    (hk : t.plane.Known s) :
    t.plane.pending s = [] ∧
      (t.accepted.filter fun p => p.subj = s).Perm (t.applied.filter fun p => p.subj = s) := by
  have hempty : t.plane.pending s = [] := by
    by_contra hne
    rcases h.drained hne with ha | ha | ha
    · rw [Plane.Known,ha] at hk
      cases hk
    · rw [hfin.pc] at ha
      cases ha
    · rw [hfin.pc] at ha
      cases ha
  refine ⟨hempty,perm_iff_count.mpr fun p => ?_⟩
  by_cases hp : p.subj = s
  · have hcount := h.counted p hp
    rw [hempty,hfin.pc,inFlight,hfin.applying] at hcount
    rwa [count_filter (by simpa using hp),count_filter (by simpa using hp)]
  · rw [count_eq_zero.mpr (by simp [hp]),count_eq_zero.mpr (by simp [hp])]

theorem pushes_applied_once {t : Ledger}
    (h : Runs.Reach Records (fun t l => Quiet s t.plane l ∧ CachesInTime s t.plane l)
      Ledger.Opened t)
    (hfin : Finished t.plane) (hk : t.plane.Known s) : t.plane.pending s = [] ∧
      (t.accepted.filter fun p => p.subj = s).Perm (t.applied.filter fun p => p.subj = s) := by
  have htallied : Tallied s t := by
    refine h.invariant (fun _ => Tallied.opened) ?_
    rintro ⟨f,accepted,applied⟩ l ⟨f',_,_⟩ ht ⟨hq,hc⟩ ⟨hs,rfl,rfl⟩
    exact tallied_step ht hq hc hs
  exact htallied.settles hfin hk

def Ledger.act (t : Ledger) (l : Label) : Option Ledger :=
  (t.plane.act l).map fun f =>
    ⟨f,t.plane.acceptedBy l ++ t.accepted,t.plane.appliedBy l ++ t.applied⟩

theorem Ledger.act_records (t : Ledger) (l : Label) (t' : Ledger) (h : t.act l = some t') :
    Records t l t' := by
  obtain ⟨f,hf,rfl⟩ := map_eq_some_iff.mp h
  exact ⟨act_step hf,rfl,rfl⟩

section

variable (ok : Ledger → Label → Prop) [∀ t l, Decidable (ok t l)]

def Ledger.replay (labels : List Label) : Option Ledger :=
  Runs.follow (fun t l => if ok t l then t.act l else none) ⟨freshPlane,[],[]⟩ labels

theorem Ledger.replay_reaches {labels : List Label} {t : Ledger}
    (h : Ledger.replay ok labels = some t) : Runs.Reach Records ok Ledger.Opened t :=
  (Runs.Reach.follow_checked (.start ⟨launched_freshPlane,rfl,rfl⟩) h).mono (fun _ _ => id)
    Ledger.act_records

end

instance (l : Label) : Decidable (Quiet s f l) := by unfold Quiet; split <;> infer_instance

instance (l : Label) : Decidable (CachesInTime s f l) := by
  unfold CachesInTime
  split <;> infer_instance

instance : Decidable (Finished f) := decidable_of_iff' _ (finished_iff f)

theorem pushes_applied_once_early :
    ∃ t, Runs.Reach Records (fun t l => Quiet earlyPush.subj t.plane l ∧
        CachesInTime earlyPush.subj t.plane l) Ledger.Opened t ∧
      Finished t.plane ∧ t.plane.Known earlyPush.subj ∧ t.accepted = [earlyPush] ∧
      t.plane.pending earlyPush.subj = [] ∧
      (t.accepted.filter fun p => p.subj = earlyPush.subj).Perm
        (t.applied.filter fun p => p.subj = earlyPush.subj) := by
  obtain ⟨t,ht,hfin,hknown,haccepted⟩ : ∃ t ∈ Ledger.replay
      (fun t l => Quiet earlyPush.subj t.plane l ∧ CachesInTime earlyPush.subj t.plane l)
      ([.arrive earlyPush,.cache earlyPush] ++ enforcing (.bound slotX) ++
        [.complete fun _ => false,.replay,.pushNft none,.pushReg,.flushed]),
      Finished t.plane ∧ (t.plane.reg.bySubject earlyPush.subj).isSome = true ∧
        t.accepted = [earlyPush] := by
    decide +kernel
  have hreach := Ledger.replay_reaches _ ht
  exact ⟨t,hreach,hfin,hknown,haccepted,pushes_applied_once earlyPush.subj hreach hfin hknown⟩

theorem push_stranded_after_drain :
    ∃ t, Runs.Reach Records (fun t l => Quiet earlyPush.subj t.plane l) Ledger.Opened t ∧
      Finished t.plane ∧ t.plane.Known earlyPush.subj ∧ t.accepted = [earlyPush] ∧
      t.applied = [] ∧ t.plane.pending earlyPush.subj = [earlyPush] := by
  obtain ⟨t,ht,hfinished,hrest⟩ : ∃ t ∈ Ledger.replay (fun t => Quiet earlyPush.subj t.plane)
      ([.arrive earlyPush] ++ enforcing (.bound slotX) ++
        [.complete fun _ => false,.flushed,.cache earlyPush]),
      Finished t.plane ∧ (t.plane.reg.bySubject earlyPush.subj).isSome = true ∧
        t.accepted = [earlyPush] ∧ t.applied = [] ∧
        t.plane.pending earlyPush.subj = [earlyPush] := by
    decide +kernel
  exact ⟨t,Ledger.replay_reaches _ ht,hfinished,hrest⟩

end OpenSandbox.Fleet
