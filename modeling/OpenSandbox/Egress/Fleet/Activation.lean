import OpenSandbox.Egress.Fleet.Plane

namespace OpenSandbox.Fleet

open Netip Policy Slots Registry MemoryRegistry Lifecycle Option KeyedLog
open Fleetnft (World Faults ResolvedIP)

def Activated (f : Plane) : Prop :=
  ∀ s e, f.reg.bySubject s = some e → e.state = .active → (s, e.fence) ∈ f.completed

def Unhurried (f : Plane) : Label → Prop
  | .pushReg => ∀ a, f.applying = some a → f.pc.owed ≠ some a.push.subj
  | _ => True

structure Accounted (f : Plane) : Prop where
  entries : ∀ s e, f.reg.bySubject s = some e → (s, e.fence) ∈ f.completed ∨
    e.state = .denying ∧ (f.pc.enforcing.map Registration.subject = some s ∨ f.pc.owed = some s)
  current : ∀ r, f.pc.enforcing = some r →
    ∃ e, f.reg.bySubject r.subject = some e ∧ e.fence = r.fence

theorem Accounted.activated {f : Plane} (h : Accounted f) : Activated f := by
  intro s e hs hact
  refine (h.entries s e hs).resolve_right fun hden => ?_
  rw [hact] at hden
  cases hden.1

section Steps

variable {f f' : Plane} {r : Registration}

variable (h : Accounted f)

include h

theorem Accounted.frame (hreg : f'.reg.bySubject = f.reg.bySubject)
    (hdone : f'.completed = f.completed) (he : f'.pc.enforcing = f.pc.enforcing)
    (ho : f'.pc.owed = f.pc.owed) : Accounted f' := by
  refine ⟨fun s e hs => ?_,fun r hr => ?_⟩
  · rw [hdone,he,ho]
    exact h.entries s e (hreg ▸ hs)
  · rw [hreg]
    exact h.current r (he ▸ hr)

theorem Accounted.retry (hpc : f.pc.enforcing = some r)
    (ho : f.pc.owed = none) (hreg : f'.reg.bySubject = f.reg.bySubject)
    (hdone : f'.completed = f.completed)
    (hpc' : f'.pc = .attempt { r with failures := r.failures + 1 }) : Accounted f' := by
  refine ⟨fun s e hs => ?_,fun r' hr' => ?_⟩
  · rw [hdone]
    refine (h.entries s e (hreg ▸ hs)).imp_right ?_
    rintro ⟨hden,hs | hs⟩
    · rw [hpc] at hs
      rw [hpc']
      exact ⟨hden,.inr hs⟩
    · rw [ho] at hs
      cases hs
  · rw [hpc'] at hr'
    cases hr'

theorem Accounted.settled (hpc : f.pc = .attempt r) {s : Subject} {e : Entry}
    (hs : f.reg.bySubject s = some e) (hne : s ≠ r.subject) : (s, e.fence) ∈ f.completed := by
  refine (h.entries s e hs).resolve_right ?_
  rintro ⟨-,henf | howed⟩
  · rw [hpc] at henf
    cases henf
  rw [hpc,Pc.owed] at howed
  split_ifs at howed
  exact hne (some.inj howed).symm

theorem Accounted.registerAndEnforce (hpc : f.pc = .attempt r) :
    Accounted (f.registerAndEnforce r) := by
  rcases f.registerAndEnforce_cases r with ⟨e,reg,he,hact,-,hby,hr⟩ | ⟨reg,-,-,hby,hr⟩
  · rw [hr]
    refine ⟨fun s e' hs => .inl ?_,fun r' hr' => by cases hr'⟩
    rw [hby] at hs
    rcases update_cases hs with ⟨rfl,⟨⟩⟩ | ⟨hsr,hs⟩
    · exact h.activated _ e he hact
    · exact h.settled hpc hs hsr
  rw [hr]
  refine ⟨fun s e' hs => ?_,fun r' hr' => ?_⟩
  · rw [hby] at hs
    rcases update_cases hs with ⟨rfl,⟨⟩⟩ | ⟨hsr,hs⟩
    · exact .inr ⟨rfl,.inl rfl⟩
    · exact .inl (h.settled hpc hs hsr)
  · cases hr'
    exact ⟨_,by rw [hby,Function.update_self],rfl⟩

theorem Accounted.applyEvent (hpc : f.pc = .idle) (ev : Event) : Accounted (f.applyEvent ev) := by
  rcases f.applyEvent_cases ev with hr | ⟨slot,updated,hr⟩ | ⟨slot,reg,-,hby,hr⟩
  · rwa [hr]
  · rw [hr]
    exact h.frame rfl rfl (by rw [hpc]; rfl) (by rw [hpc]; rfl)
  have hdone (s : Subject) (e : Entry) (hs : reg.bySubject s = some e) :
      (s, e.fence) ∈ f.completed := by
    rw [hby] at hs
    rcases update_cases hs with ⟨-,⟨⟩⟩ | ⟨-,hs⟩
    refine (h.entries s e hs).resolve_right ?_
    rw [hpc]
    rintro ⟨-,henf | howed⟩
    · cases henf
    · cases howed
  rcases hr with hr | hr
  · rw [hr]
    refine ⟨fun s e hs => .inl (hdone s e hs),fun r hr => ?_⟩
    simp only [hpc] at hr
    cases hr
  · rw [hr]
    exact ⟨fun s e hs => .inl (hdone s e hs),fun r hr => by cases hr⟩

theorem Accounted.redirectGateway (hpc : f.pc = .gateway r) (installs : Bool) :
    Accounted (f.redirectGateway r installs) := by
  unfold Plane.redirectGateway
  split
  · refine ⟨fun s e hs => .inl ?_,fun r' hr' => by cases hr'⟩
    rcases h.entries s e hs with hin | ⟨-,henf | howed⟩
    · exact List.mem_cons_of_mem _ hin
    · rw [hpc] at henf
      obtain rfl : r.subject = s := some.inj henf
      obtain ⟨e',he',hfence⟩ := h.current r (by rw [hpc]; rfl)
      obtain rfl : e' = e := some.inj (he'.symm.trans hs)
      rw [hfence]
      exact List.mem_cons_self
    · rw [hpc] at howed
      cases howed
  · exact h.retry (by rw [hpc]; rfl) (by rw [hpc]; rfl) rfl rfl rfl

theorem Accounted.finish (a : Applying) : Accounted (f.finish a) := by
  unfold Plane.finish
  refine h.frame rfl rfl ?_ ?_
  · simp only
    split
    · exact Pc.enforcing_resume _
    · rfl
  · simp only
    split
    · exact Pc.owed_resume _
    · rfl

theorem Accounted.regApplyPolicy {a : Applying}
    (ha : f.pc.owed ≠ some a.push.subj) (hlock : f.pc.enforcing = none) :
    Accounted (f.regApplyPolicy a) := by
  rcases f.regApplyPolicy_cases a with ⟨e,reg,he,-,hby,hr⟩ | ⟨-,hr⟩
  · rw [hr]
    refine Accounted.finish ⟨fun s e' hs => ?_,fun r hr => ?_⟩ a
    · rw [hby] at hs
      rcases update_cases hs with ⟨rfl,⟨⟩⟩ | ⟨-,hs⟩
      · refine .inl ((h.entries _ e he).resolve_right ?_)
        rintro ⟨-,henf | howed⟩
        · rw [hlock] at henf
          cases henf
        · exact ha howed
      · exact h.entries s e' hs
    · simp only [hlock] at hr
      cases hr
  · rw [hr]
    exact h.finish a

theorem accounted_step {l : Label} (hok : Unhurried f l) (hs : Step f l f') : Accounted f' := by
  cases hs with
  | event ev hpc => exact h.applyEvent hpc ev
  | attempt hpc => exact h.registerAndEnforce hpc
  | denyFirst outcome hpc | resolv outcome hpc =>
    simp only [Plane.applyDenyFirst,Plane.rewriteResolv]
    split
    · exact h.frame rfl rfl (by rw [hpc]; rfl) (by rw [hpc]; rfl)
    · exact h.retry (by rw [hpc]; rfl) (by rw [hpc]; rfl) rfl rfl rfl
  | gateway installs hpc => exact h.redirectGateway hpc installs
  | giveUp hpc | complete expired hpc | replay hpc | recache hpc | unloadPending hpc
  | unloadGateway hpc => exact h.frame rfl rfl (by rw [hpc]; rfl) (by rw [hpc]; rfl)
  | flushed hpc | slotResolv outcome hpc | slotGateway outcome hpc | slotDispatch outcome hpc
  | unloadNft outcome _ hpc =>
    simp only [Plane.registered,Plane.updateResolv,Plane.updateGateway,Plane.updateDispatch,
      Plane.unloadNft]
    split <;> exact h.frame rfl rfl (by rw [hpc]; rfl) (by rw [hpc]; rfl)
  | arrive push =>
    unfold Plane.resolvePolicyPush
    split <;> exact h.frame rfl rfl rfl rfl
  | cache | sweep | begin | resolved => exact h.frame rfl rfl rfl rfl
  | pushNft fault =>
    unfold Plane.nftApplyPolicy
    split
    · exact h.frame rfl rfl rfl rfl
    · refine Accounted.finish ?_ _
      exact h.frame rfl rfl rfl rfl
  | pushReg ha _ hlock => exact h.regApplyPolicy (hok _ ha) hlock

end Steps

theorem Reached.accounted {f : Plane} (h : Reached Unhurried f) : Accounted f := by
  refine Runs.Reach.invariant (fun g hg => ?_) (fun g l g' hi hok hs => ?_) h
  · obtain ⟨alwaysDeny,alwaysAllow,nft,-,rfl⟩ := hg
    refine ⟨fun s e hs => ?_,fun r hr => ?_⟩
    · cases hs
    · cases hr
  · exact accounted_step hi hok hs

theorem activation_enforced {f : Plane} (h : Reached Unhurried f) : Activated f :=
  h.accounted.activated

instance (f : Plane) (l : Label) : Decidable (Unhurried f l) := by
  unfold Unhurried
  split <;> infer_instance

theorem activation_enforced_after_push : ∃ f, Reached Unhurried f ∧
      (f.reg.bySubject (fromSandboxUID "a")).map Entry.state = some .active ∧ Activated f := by
  obtain ⟨f,hf,hactive⟩ : ∃ f ∈ replay Unhurried
      (enforcing (.bound slotX) ++ beginning earlyPush ++ [.pushReg]),
      (f.reg.bySubject (fromSandboxUID "a")).map Entry.state = some .active := by
    decide +kernel
  have hreach := replay_reached hf
  exact ⟨f,hreach,hactive,activation_enforced hreach⟩

theorem activation_between_attempts : ¬ ∀ f, Reached (fun _ _ => True) f → Activated f := by
  intro hall
  obtain ⟨f,hf,⟨e,he,hst⟩,hnone⟩ : ∃ f ∈ replay (fun _ _ => True)
      ([.event (.bound slotX),.attempt,.denyFirst ⟨none,none⟩,.resolv false] ++
        beginning allowPush ++ [.pushReg]),
      (∃ e ∈ f.reg.bySubject (fromSandboxUID "a"), e.state = .active) ∧ f.completed = [] := by
    decide +kernel
  have hin := hall f (replay_reached hf) _ e he hst
  rw [hnone] at hin
  cases hin

end OpenSandbox.Fleet
