import OpenSandbox.Egress.Fleet.Plane

namespace OpenSandbox.Fleet

open Netip Policy Slots Registry MemoryRegistry Lifecycle Option Function KeyedLog Fleetnft
open Fleetnft (World Faults ResolvedIP)

def Agrees (nft : World) (s : Subject) (e : Entry) : Prop :=
  ∃ i, nft.inst s = some i ∧ (e.state = .denying → i.pol = none) ∧
    (e.state = .active → i.pol = e.effective)

structure Agreed (f : Plane) : Prop where
  layers : f.pc.enforcing = none → f.applying = none →
    ∀ s e, f.reg.bySubject s = some e → Agrees f.nft s e
  fencing : ∀ s b, f.stored s = some b → f.since s < b

def Serial (f : Plane) : Label → Prop
  | .attempt => ∀ r, f.pc = .attempt r → ¬ f.ActiveFor r →
      ∀ a, f.applying = some a → a.push.subj ≠ r.subject
  | .denyFirst faults => ∀ r, f.pc = .denyFirst r →
      (Fleetnft.applyDenyFirst faults f.nft r.subject r.slot).1 = .ok ()
  | _ => True

structure Fenced (f : Plane) : Prop where
  ready : f.nft.applier.tableReady = true
  agrees : ∀ s e, f.reg.bySubject s = some e → (∀ r, f.pc = .denyFirst r → r.subject ≠ s) →
    (∀ a, f.applying = some a → a.swapped = true → a.push.subj ≠ s) → Agrees f.nft s e
  swapped : ∀ a e, f.applying = some a → a.swapped = true →
    f.reg.bySubject a.push.subj = some e →
      ∃ i, f.nft.inst a.push.subj = some i ∧ i.pol = some a.eff
  effective : ∀ a, f.applying = some a → a.eff = f.reg.effectiveOf (some a.push.pol)
  current : ∀ r e, f.pc.enforcing = some r → f.reg.bySubject r.subject = some e →
    e.state = .denying
  apart : ∀ a r, f.applying = some a → f.pc.enforcing = some r → a.push.subj ≠ r.subject
  fresh : ∀ a e, f.applying = some a → f.reg.bySubject a.push.subj = some e →
    f.since a.push.subj < a.began
  stored : ∀ s b, f.stored s = some b → f.since s < b
  past : ∀ s, f.since s < f.clock
  gone : ∀ s, f.pc.unloading = some s → f.reg.bySubject s = none

theorem Fenced.agreed {f : Plane} (h : Fenced f) : Agreed f := by
  refine ⟨fun hlock hidle s e hs => h.agrees s e hs (fun r hr => ?_) fun a ha => ?_,h.stored⟩
  · rw [hr] at hlock
    cases hlock
  · rw [hidle] at ha
    cases ha

structure SameInstalls (nft nft' : World) : Prop where
  ready : nft'.applier.tableReady = nft.applier.tableReady
  inst : ∀ s, nft'.inst s = nft.inst s

theorem SameInstalls.refl (nft : World) : SameInstalls nft nft := ⟨rfl,fun _ => rfl⟩

theorem sameInstalls_addResolvedIPs (fault : Option String) (w : World) (s : Subject)
    (ips : List ResolvedIP) : SameInstalls w (Fleetnft.addResolvedIPs fault w s ips).2 := by
  have hchange := addResolvedIPs_change fault w s ips
  generalize Fleetnft.addResolvedIPs fault w s ips = out at hchange ⊢
  cases hchange <;> exact ⟨rfl,fun _ => rfl⟩

theorem sameInstalls_applyDispatchUpdate (fault : Option String) (w : World) (s : Subject)
    (slot : Slot) : SameInstalls w (Fleetnft.applyDispatchUpdate fault w s slot).2 := by
  have hchange := applyDispatchUpdate_change fault w s slot
  generalize Fleetnft.applyDispatchUpdate fault w s slot = out at hchange ⊢
  cases hchange <;> exact ⟨rfl,fun _ => rfl⟩

structure Replaces (w w' : World) (s : Subject) (i : Option Fleetnft.InstalledSubject) : Prop where
  ready : w'.applier.tableReady = true
  inst : ∀ v, w'.inst v = if v = s then i else w.inst v

variable {w w' : World} {s : Subject} {i : Option Fleetnft.InstalledSubject}

theorem Replaces.other {v : Subject} (h : Replaces w w' s i) (hv : v ≠ s) :
    w'.inst v = w.inst v := by
  rw [h.inst,if_neg hv]

theorem Replaces.self (h : Replaces w w' s i) : w'.inst s = i := by
  rw [h.inst,if_pos rfl]

theorem Replaces.agrees {v : Subject} (h : Replaces w w' s i) (hv : v ≠ s) {e : Entry}
    (ha : Agrees w v e) : Agrees w' v e := by
  obtain ⟨j,hj,hrest⟩ := ha
  exact ⟨j,(h.other hv).trans hj,hrest⟩

section

variable (hw : w.applier.tableReady = true)

include hw

theorem replaces_remove (faults : Faults) (s : Subject) (order : List Subject)
    : Replaces w (Fleetnft.remove faults w s order).2 s none := by
  have hforget (v : Subject) := w.inst_forget s v
  have hchange := remove_change faults w s order
  generalize Fleetnft.remove faults w s order = out at hchange ⊢
  cases hchange with
  | removeAbsent hi =>
    refine ⟨hw,fun v => ?_⟩
    split
    · next hv => rw [hv,hi]
    · rfl
  | removeFailed => exact ⟨hw,hforget⟩
  | removeLast hrest =>
    refine ⟨rfl,fun v => ?_⟩
    rw [← hforget v,World.inst,World.inst,World.forget,hrest]
  | rebuilt => exact ⟨rfl,hforget⟩

theorem replaces_applyDenyFirst {faults : Faults} {slot : Slot}
    (hok : (Fleetnft.applyDenyFirst faults w s slot).1 = .ok ()) :
    ∃ w', Fleetnft.applyDenyFirst faults w s slot = (.ok (), w') ∧
      Replaces w w' s (some ⟨slot,none⟩) := by
  have hchange := applyDenyFirst_change faults hw s slot
  generalize Fleetnft.applyDenyFirst faults w s slot = out at hchange hok ⊢
  cases hchange with
  | denyFirst => exact ⟨_,rfl,hw,fun v => World.inst_install _ s v _⟩
  | denyFirstFailed => cases hok

theorem replaces_applyPolicy (fault : Option String) (s : Subject) (pol : NetworkPolicy) :
    (∃ i w', Fleetnft.applyPolicy fault w s (some pol) = (.ok (), w') ∧ i.pol = some pol ∧
      Replaces w w' s (some i)) ∨
      ∃ e, Fleetnft.applyPolicy fault w s (some pol) = (.error e, w) := by
  have hchange := applyPolicy_change fault w s (some pol)
  generalize Fleetnft.applyPolicy fault w s (some pol) = out at hchange ⊢
  cases hchange with
  | policy => exact .inl ⟨_,_,rfl,rfl,hw,fun v => World.inst_install _ s v _⟩
  | policyFailed => exact .inr ⟨_,rfl⟩

end

theorem SameAlways.effectiveOf {r r' : MemoryRegistry} (h : SameAlways r r')
    (pol : Option NetworkPolicy) : r'.effectiveOf pol = r.effectiveOf pol := by
  rw [MemoryRegistry.effectiveOf,MemoryRegistry.effectiveOf,h.deny,h.allow]

structure Kept (f f' : Plane) : Prop where
  reg : f'.reg = f.reg
  nft : SameInstalls f.nft f'.nft
  applying : f'.applying = f.applying
  since : f'.since = f.since
  stored : f'.stored = f.stored
  clock : f'.clock = f.clock

structure Pc.Relaxes (pc pc' : Pc) : Prop where
  installing : ∀ r, pc = .denyFirst r → pc' = .denyFirst r
  enforcing : ∀ r, pc'.enforcing = some r → pc.enforcing = some r
  unloading : ∀ s, pc'.unloading = some s → pc.unloading = some s

theorem Pc.Relaxes.refl (pc : Pc) : pc.Relaxes pc := ⟨fun _ h => h,fun _ h => h,fun _ h => h⟩

theorem Pc.Relaxes.resume (pc : Pc) (replayed : Bool) :
    pc.Relaxes (if replayed then pc.resume else pc) := by
  split
  · refine ⟨fun r hr => ?_,fun r hr => ?_,fun s hs => ?_⟩
    · rw [hr]
      rfl
    · rwa [Pc.enforcing_resume] at hr
    · rwa [Pc.unloading_resume] at hs
  · exact .refl pc

section Steps

variable {f f' : Plane} {r : Registration}

theorem Fenced.frame (h : Fenced f) (hk : Kept f f') (hpc : f.pc.Relaxes f'.pc) : Fenced f' := by
  constructor
  · rw [hk.nft.ready,h.ready]
  · intro s e hs hdeny happ
    rw [hk.reg] at hs
    rw [hk.applying] at happ
    obtain ⟨i,hi,hrest⟩ := h.agrees s e hs (fun r hr => hdeny r (hpc.installing r hr)) happ
    exact ⟨i,(hk.nft.inst s).trans hi,hrest⟩
  · intro a e ha hsw he
    rw [hk.applying] at ha
    rw [hk.reg] at he
    rw [hk.nft.inst]
    exact h.swapped a e ha hsw he
  · intro a ha
    rw [hk.applying] at ha
    rw [hk.reg,h.effective a ha]
  · intro r e hr he
    rw [hk.reg] at he
    exact h.current r e (hpc.enforcing r hr) he
  · intro a r ha hr
    rw [hk.applying] at ha
    exact h.apart a r ha (hpc.enforcing r hr)
  · intro a e ha he
    rw [hk.applying] at ha
    rw [hk.reg] at he
    rw [hk.since]
    exact h.fresh a e ha he
  · rw [hk.stored,hk.since]
    exact h.stored
  · rw [hk.since,hk.clock]
    exact h.past
  · intro s hs
    rw [hk.reg]
    exact h.gone s (hpc.unloading s hs)

theorem Fenced.leave (h : Fenced f) (hk : Kept f f') (hdeny : ∀ r, f.pc ≠ .denyFirst r)
    (henf : f'.pc.enforcing = none) (hun : f'.pc.unloading = none) : Fenced f' := by
  refine h.frame hk ⟨fun r hr => absurd hr (hdeny r),fun r hr => ?_,fun s hs => ?_⟩
  · rw [henf] at hr
    cases hr
  · rw [hun] at hs
    cases hs

theorem Fenced.shrink (h : Fenced f) {reg : MemoryRegistry} {pc : Pc} (hal : SameAlways f.reg reg)
    (hsub : ∀ v e', reg.bySubject v = some e' → ∃ e, f.reg.bySubject v = some e ∧
      e'.state = e.state ∧ e'.effective = e.effective)
    (hdeny : ∀ r, f.pc ≠ .denyFirst r) (henf : pc.enforcing = none)
    (hgone : ∀ s, pc.unloading = some s → reg.bySubject s = none) :
    Fenced { f with reg := reg, pc := pc } := by
  have hnone (r : Registration) : pc.enforcing ≠ some r := by
    rw [henf]
    exact some_ne_none r |>.symm
  constructor
  · exact h.ready
  · intro s e' hs _ happ
    obtain ⟨e,he,hstate,heff⟩ := hsub s e' hs
    obtain ⟨i,hi,hd,ha⟩ := h.agrees s e he (fun r hr => absurd hr (hdeny r)) happ
    exact ⟨i,hi,fun hst => hd (hstate ▸ hst),fun hst => (ha (hstate ▸ hst)).trans heff.symm⟩
  · intro a e' ha hsw hs
    obtain ⟨e,he,-⟩ := hsub _ e' hs
    exact h.swapped a e ha hsw he
  · intro a ha
    rw [hal.effectiveOf]
    exact h.effective a ha
  · intro r e' hr
    exact absurd hr (hnone r)
  · intro a r _ hr
    exact absurd hr (hnone r)
  · intro a e' ha hs
    obtain ⟨e,he,-⟩ := hsub _ e' hs
    exact h.fresh a e ha he
  · exact h.stored
  · exact h.past
  · exact hgone

theorem Fenced.applyEvent (h : Fenced f) (hpc : f.pc = .idle) (ev : Event) :
    Fenced (f.applyEvent ev) := by
  have hdeny (r : Registration) : f.pc ≠ .denyFirst r := by
    rw [hpc]
    exact Pc.noConfusion
  rcases f.applyEvent_cases ev with hr | ⟨slot,updated,hr⟩ | ⟨slot,reg,hal,hby,hr⟩
  · rwa [hr]
  · rw [hr]
    exact h.leave ⟨rfl,.refl _,rfl,rfl,rfl,rfl⟩ hdeny rfl rfl
  have hsub (v : Subject) (e' : Entry) (hv : reg.bySubject v = some e') :
      ∃ e, f.reg.bySubject v = some e ∧ e'.state = e.state ∧ e'.effective = e.effective := by
    rw [hby] at hv
    rcases update_cases hv with ⟨-,⟨⟩⟩ | ⟨-,hv⟩
    exact ⟨e',hv,rfl,rfl⟩
  rcases hr with hr | hr
  · rw [hr]
    refine h.shrink hal hsub hdeny (by rw [hpc]; rfl) fun s hs => ?_
    rw [hpc] at hs
    cases hs
  · rw [hr]
    refine h.shrink hal hsub hdeny rfl fun s hs => ?_
    cases hs
    rw [hby,update_self]

theorem boundSince_other {v : Subject} (hv : v ≠ r.subject) : f.boundSince r v = f.since v := by
  unfold Plane.boundSince
  split
  · rfl
  · exact update_of_ne hv ..

theorem boundSince_le (h : ∀ s, f.since s < f.clock) (v : Subject) :
    f.boundSince r v < f.clock + 1 := by
  unfold Plane.boundSince
  split
  · exact (h v).trans (Nat.lt_succ_self _)
  by_cases hv : v = r.subject
  · rw [hv,update_self]
    exact Nat.lt_succ_self _
  · rw [update_of_ne hv]
    exact (h v).trans (Nat.lt_succ_self _)

theorem Fenced.registerAndEnforce (h : Fenced f) (hpc : f.pc = .attempt r)
    (hok : Serial f .attempt) : Fenced (f.registerAndEnforce r) := by
  have hdeny (r' : Registration) : f.pc ≠ .denyFirst r' := by
    rw [hpc]
    exact Pc.noConfusion
  rcases f.registerAndEnforce_cases r with ⟨e,reg,he,-,hal,hby,hr⟩ | ⟨reg,hno,hal,hby,hr⟩
  · rw [hr]
    refine h.shrink hal (fun v e' hv => ?_) hdeny rfl nofun
    rw [hby] at hv
    rcases update_cases hv with ⟨rfl,⟨⟩⟩ | ⟨-,hv⟩
    · exact ⟨e,he,rfl,rfl⟩
    · exact ⟨e',hv,rfl,rfl⟩
  rw [hr]
  have hapart (a : Applying) (ha : f.applying = some a) : a.push.subj ≠ r.subject :=
    hok r hpc hno a ha
  have hother (v : Subject) (hv : v ≠ r.subject) : reg.bySubject v = f.reg.bySubject v := by
    rw [hby,update_of_ne hv]
  constructor
  · exact h.ready
  · intro s e hs hinst happ
    have hsr : s ≠ r.subject := fun heq => hinst r rfl heq.symm
    rw [hother s hsr] at hs
    exact h.agrees s e hs (fun r' hr' => absurd hr' (hdeny r')) happ
  · intro a e ha hsw hs
    rw [hother _ (hapart a ha)] at hs
    exact h.swapped a e ha hsw hs
  · intro a ha
    rw [hal.effectiveOf]
    exact h.effective a ha
  · intro r' e hr' hs
    cases hr'
    rw [hby,update_self] at hs
    cases hs
    rfl
  · intro a r' ha hr'
    cases hr'
    exact hapart a ha
  · intro a e ha hs
    rw [hother _ (hapart a ha)] at hs
    simp only [boundSince_other (hapart a ha)]
    exact h.fresh a e ha hs
  · intro s b hs
    rcases update_cases hs with ⟨-,⟨⟩⟩ | ⟨hsr,hs⟩
    simp only [boundSince_other hsr]
    exact h.stored s b hs
  · exact boundSince_le h.past
  · exact nofun

theorem Fenced.applyDenyFirst (h : Fenced f) (hpc : f.pc = .denyFirst r) {faults : Faults}
    (hok : Serial f (.denyFirst faults)) : Fenced (f.applyDenyFirst r faults) := by
  obtain ⟨nft,hr,hrep⟩ := replaces_applyDenyFirst h.ready (hok r hpc)
  have henf : f.pc.enforcing = some r := by
    rw [hpc]
    rfl
  unfold Plane.applyDenyFirst
  rw [hr]
  constructor
  · exact hrep.ready
  · intro s e hs _ happ
    by_cases hsr : s = r.subject
    · subst hsr
      refine ⟨_,hrep.self,fun _ => rfl,fun hact => ?_⟩
      rw [h.current r e henf hs] at hact
      cases hact
    · refine hrep.agrees hsr (h.agrees s e hs (fun r' hr' heq => ?_) happ)
      rw [hpc] at hr'
      cases hr'
      exact hsr heq.symm
  · intro a e ha hsw hs
    simp only [hrep.other (h.apart a r ha henf)]
    exact h.swapped a e ha hsw hs
  · exact h.effective
  · intro r' e hr' hs
    cases hr'
    exact h.current r e henf hs
  · intro a r' ha hr'
    cases hr'
    exact h.apart a r ha henf
  · exact h.fresh
  · exact h.stored
  · exact h.past
  · exact nofun

theorem Fenced.begin (h : Fenced f) (hmu : f.applying = none) (hlock : f.pc.enforcing = none)
    (push : PendingRequest) (replayed : Bool) : Fenced (f.begin push replayed) := by
  have hnone (r : Registration) : f.pc.enforcing ≠ some r := by
    rw [hlock]
    exact some_ne_none r |>.symm
  constructor
  · exact h.ready
  · intro s e hs hdeny _
    refine h.agrees s e hs hdeny fun a ha => ?_
    rw [hmu] at ha
    cases ha
  · intro a e ha hsw
    cases ha
    cases hsw
  · intro a ha
    cases ha
    rfl
  · intro r e hr
    exact absurd hr (hnone r)
  · intro a r _ hr
    exact absurd hr (hnone r)
  · intro a e ha _
    cases ha
    exact h.past push.subj
  · exact h.stored
  · exact fun s => (h.past s).trans (Nat.lt_succ_self _)
  · exact h.gone

variable {a : Applying}

variable (h : Fenced f)

include h

theorem Fenced.finish (ha : f.applying = some a)
    (hquiet : ∀ e, a.swapped = true → f.reg.bySubject a.push.subj = some e →
      Agrees f.nft a.push.subj e) : Fenced (f.finish a) := by
  have hpc := Pc.Relaxes.resume f.pc a.replayed
  constructor
  · exact h.ready
  · intro s e hs hdeny _
    by_cases hsw : a.swapped = true ∧ a.push.subj = s
    · obtain ⟨hsw,rfl⟩ := hsw
      exact hquiet e hsw hs
    · refine h.agrees s e hs (fun r hr => hdeny r (hpc.installing r hr)) fun a' ha' hsw' heq => ?_
      obtain rfl : a = a' := some.inj (ha.symm.trans ha')
      exact hsw ⟨hsw',heq⟩
  · intro a' e ha'
    cases ha'
  · intro a' ha'
    cases ha'
  · intro r e hr
    exact h.current r e (hpc.enforcing r hr)
  · intro a' r ha'
    cases ha'
  · intro a' e ha'
    cases ha'
  · exact h.stored
  · exact h.past
  · exact fun s hs => h.gone s (hpc.unloading s hs)

theorem Fenced.nftApplyPolicy (ha : f.applying = some a) (hsw : a.swapped = false)
    (fault : Option String) : Fenced (f.nftApplyPolicy a fault) := by
  have hquiet (a' : Applying) (ha' : f.applying = some a') : a'.swapped ≠ true := by
    obtain rfl : a = a' := some.inj (ha.symm.trans ha')
    rw [hsw]
    exact Bool.false_ne_true
  unfold Plane.nftApplyPolicy
  rcases replaces_applyPolicy h.ready fault a.push.subj a.eff with
    ⟨i,nft,hr,hpol,hrep⟩ | ⟨e,hr⟩
  · rw [hr]
    constructor
    · exact hrep.ready
    · intro s e hs hdeny happ
      have hsa : s ≠ a.push.subj := fun heq => happ _ rfl rfl heq.symm
      exact hrep.agrees hsa (h.agrees s e hs hdeny fun a' ha' hsw' => absurd hsw' (hquiet a' ha'))
    · intro a' e ha' _ _
      cases ha'
      exact ⟨i,hrep.self,hpol⟩
    · intro a' ha'
      cases ha'
      exact h.effective a ha
    · exact h.current
    · intro a' r ha' hr'
      cases ha'
      exact h.apart a r ha hr'
    · intro a' e ha' hs
      cases ha'
      exact h.fresh a e ha hs
    · exact h.stored
    · exact h.past
    · exact h.gone
  · rw [hr]
    refine h.finish ha fun e hswt => ?_
    rw [hsw] at hswt
    cases hswt

theorem Fenced.regApplyPolicy (ha : f.applying = some a) (hsw : a.swapped = true)
    (hlock : f.pc.enforcing = none) : Fenced (f.regApplyPolicy a) := by
  have hnone (r : Registration) : f.pc.enforcing ≠ some r := by
    rw [hlock]
    exact some_ne_none r |>.symm
  rcases f.regApplyPolicy_cases a with ⟨e,reg,he,hal,hby,hr⟩ | ⟨he,hr⟩
  · rw [hr]
    obtain ⟨i,hi,hpol⟩ := h.swapped a e ha hsw he
    have hother (v : Subject) (hv : v ≠ a.push.subj) : reg.bySubject v = f.reg.bySubject v := by
      rw [hby,update_of_ne hv]
    have hsome (v : Subject) (e' : Entry) (hv : reg.bySubject v = some e') :
        ∃ e, f.reg.bySubject v = some e := by
      by_cases hva : v = a.push.subj
      · exact ⟨e,hva ▸ he⟩
      · exact ⟨e',(hother v hva).symm.trans hv⟩
    refine Fenced.finish (f := { f with
      reg := reg, stored := update f.stored a.push.subj (some a.began) }) ?_ ha
      fun e' _ hs => ?_
    · constructor
      · exact h.ready
      · intro s e' hs hdeny happ
        have hsa : s ≠ a.push.subj := fun heq => happ a ha hsw heq.symm
        rw [hother s hsa] at hs
        exact h.agrees s e' hs hdeny happ
      · intro a' e' ha' hsw' hs
        obtain ⟨e₀,he₀⟩ := hsome _ e' hs
        exact h.swapped a' e₀ ha' hsw' he₀
      · intro a' ha'
        rw [hal.effectiveOf]
        exact h.effective a' ha'
      · intro r e' hr'
        exact absurd hr' (hnone r)
      · intro a' r _ hr'
        exact absurd hr' (hnone r)
      · intro a' e' ha' hs
        obtain ⟨e₀,he₀⟩ := hsome _ e' hs
        exact h.fresh a' e₀ ha' he₀
      · intro s b hs
        rcases update_cases hs with ⟨rfl,⟨⟩⟩ | ⟨-,hs⟩
        · exact h.fresh a e ha he
        · exact h.stored s b hs
      · exact h.past
      · intro s hs
        have hsa : s ≠ a.push.subj := by
          rintro rfl
          rw [h.gone _ hs] at he
          cases he
        simp only [hother s hsa]
        exact h.gone s hs
    · simp only [hby,update_self,some.injEq] at hs
      subst hs
      refine ⟨i,hi,fun hden => ?_,fun _ => ?_⟩
      · cases hden
      · rw [hpol,h.effective a ha]
        rfl
  · rw [hr]
    refine h.finish ha fun e _ hs => ?_
    rw [he] at hs
    cases hs

theorem Fenced.unloadNft {slot : Slot} (hpc : f.pc = .removeNft slot) (faults : Faults)
    (order : List Subject) : Fenced (f.unloadNft slot faults order) := by
  have hrep := replaces_remove h.ready faults (slotSubject slot) order
  have hgone := h.gone (slotSubject slot) (by rw [hpc]; rfl)
  have hne (v : Subject) (e : Entry) (hv : f.reg.bySubject v = some e) : v ≠ slotSubject slot := by
    rintro rfl
    rw [hgone] at hv
    cases hv
  have hswept {nft : World} (hr : Replaces f.nft nft (slotSubject slot) none) {pc : Pc}
      (henf : pc.enforcing = none) (hun : pc.unloading = none) :
      Fenced { f with nft := nft, pc := pc } := by
    constructor
    · exact hr.ready
    · intro s e hs _ happ
      refine hr.agrees (hne s e hs) (h.agrees s e hs (fun r hr' => ?_) happ)
      rw [hpc] at hr'
      cases hr'
    · intro a e ha hsw hs
      simp only [hr.other (hne _ e hs)]
      exact h.swapped a e ha hsw hs
    · exact h.effective
    · intro r e hr'
      rw [henf] at hr'
      cases hr'
    · intro a r _ hr'
      rw [henf] at hr'
      cases hr'
    · exact h.fresh
    · exact h.stored
    · exact h.past
    · intro s hs
      rw [hun] at hs
      cases hs
  unfold Plane.unloadNft
  generalize remove faults f.nft (slotSubject slot) order = out at *
  obtain ⟨_ | _,nft⟩ := out
  all_goals exact hswept hrep rfl rfl

theorem fenced_step {l : Label} (hok : Serial f l) (hs : Step f l f') : Fenced f' := by
  have hnot {pc : Pc} (hpc : f.pc = pc) (hpc' : ∀ r, pc ≠ .denyFirst r) (r : Registration) :
      f.pc ≠ .denyFirst r := hpc ▸ hpc' r
  cases hs with
  | event ev hpc => exact h.applyEvent hpc ev
  | attempt hpc => exact h.registerAndEnforce hpc hok
  | denyFirst faults hpc => exact h.applyDenyFirst hpc hok
  | resolv rewritten hpc =>
    have hdeny := hnot hpc fun _ => Pc.noConfusion
    unfold Plane.rewriteResolv
    split
    · refine h.frame ⟨rfl,.refl _,rfl,rfl,rfl,rfl⟩
        ⟨fun r hr => absurd hr (hdeny r),fun r hr => ?_,nofun⟩
      rwa [hpc]
    · exact h.leave ⟨rfl,.refl _,rfl,rfl,rfl,rfl⟩ hdeny rfl rfl
  | gateway outcome hpc | flushed hpc | slotResolv outcome hpc | slotGateway outcome hpc =>
    have hdeny := hnot hpc fun _ => Pc.noConfusion
    simp only [Plane.redirectGateway,Plane.registered,Plane.updateResolv,Plane.updateGateway]
    split <;> exact h.leave ⟨rfl,.refl _,rfl,rfl,rfl,rfl⟩ hdeny rfl rfl
  | giveUp hpc | complete expired hpc | recache hpc =>
    exact h.leave ⟨rfl,.refl _,rfl,rfl,rfl,rfl⟩ (hnot hpc fun _ => Pc.noConfusion) rfl rfl
  | replay hpc _ hmu =>
    refine Fenced.begin ?_ ?_ ?_ _ true
    · exact h.leave ⟨rfl,.refl _,rfl,rfl,rfl,rfl⟩ (hnot hpc fun _ => Pc.noConfusion) rfl rfl
    · exact hmu
    · rfl
  | @slotDispatch slot fault hpc =>
    have hdeny := hnot hpc fun _ => Pc.noConfusion
    have hsame := sameInstalls_applyDispatchUpdate fault f.nft (slotSubject slot) slot
    unfold Plane.updateDispatch
    generalize applyDispatchUpdate fault f.nft (slotSubject slot) slot = out at *
    obtain ⟨_ | _,nft⟩ := out
    all_goals exact h.leave ⟨rfl,hsame,rfl,rfl,rfl,rfl⟩ hdeny rfl rfl
  | unloadPending hpc | unloadGateway hpc =>
    have hdeny := hnot hpc fun _ => Pc.noConfusion
    refine h.frame ⟨rfl,.refl _,rfl,rfl,rfl,rfl⟩
      ⟨fun r hr => absurd hr (hdeny r),fun r hr => ?_,fun s hs => ?_⟩
    · cases hr
    · rwa [hpc]
  | unloadNft faults order hpc => exact h.unloadNft hpc faults order
  | arrive push =>
    unfold Plane.resolvePolicyPush
    split <;> exact h.frame ⟨rfl,.refl _,rfl,rfl,rfl,rfl⟩ (.refl _)
  | cache | sweep => exact h.frame ⟨rfl,.refl _,rfl,rfl,rfl,rfl⟩ (.refl _)
  | begin _ hmu hlock =>
    refine Fenced.begin ?_ ?_ ?_ _ false
    · exact h.frame ⟨rfl,.refl _,rfl,rfl,rfl,rfl⟩ (.refl _)
    · exact hmu
    · exact hlock
  | pushNft fault ha hsw => exact h.nftApplyPolicy ha hsw fault
  | pushReg ha hsw hlock => exact h.regApplyPolicy ha hsw hlock
  | resolved s ips fault =>
    exact h.frame ⟨rfl,sameInstalls_addResolvedIPs fault f.nft s ips,rfl,rfl,rfl,rfl⟩ (.refl _)

end Steps

theorem Reached.fenced {f : Plane} (h : Reached Serial f) : Fenced f := by
  refine Runs.Reach.invariant (fun g hg => ?_) (fun g l g' hi hok hs => ?_) h
  · obtain ⟨alwaysDeny,alwaysAllow,nft,hnft,rfl⟩ := hg
    constructor
    · rw [hnft.eq]
      rfl
    · exact nofun
    · intro a e ha
      cases ha
    · exact nofun
    · intro r e hr
      cases hr
    · intro a r ha
      cases ha
    · intro a e ha
      cases ha
    · intro s b hs
      cases hs
    · exact fun s => Nat.zero_lt_one
    · intro s hs
      cases hs
  · exact fenced_step hi hok hs

theorem rebind_agreement {f : Plane} (h : Reached Serial f) : Agreed f := h.fenced.agreed

def serial (f : Plane) : Label → Bool
  | .attempt => f.applying.isNone
  | .denyFirst faults => f.pc.enforcing.all fun r =>
      (Fleetnft.applyDenyFirst faults f.nft r.subject r.slot).1.isOk
  | _ => true

theorem serial_sound (f : Plane) (l : Label) (h : serial f l = true) : Serial f l := by
  cases l with
  | attempt =>
    intro r _ _ a ha
    rw [serial,ha] at h
    cases h
  | denyFirst faults =>
    intro r hr
    simp only [serial,hr,Pc.enforcing,all_some] at h
    cases hok : (applyDenyFirst faults f.nft r.subject r.slot).1 with
    | ok u => rfl
    | error e =>
      rw [hok] at h
      cases h
  | _ => trivial

def reboundX : Slot := leasedSlot "x" .bound ⟨"a",2,1⟩ 0x0A000005 "veth-x"

def pushed (ev : Event) (push : PendingRequest) : List Label :=
  enforcing ev ++ [.complete fun _ => false,.flushed] ++ beginning push

theorem rebind_agreement_after_rebind : ∃ f, Reached Serial f ∧
      (f.reg.bySubject (fromSandboxUID "a")).map (fun e => (e.state, e.fence)) =
        some (.active, fromSlotOwner reboundX.owner) ∧ Agreed f := by
  obtain ⟨f,hf,hactive⟩ : ∃ f ∈ replay (serial · ·) (pushed (.bound slotX) allowPush ++ [.pushReg] ++
      pushed (.updated reboundX) earlyPush ++ [.pushReg]),
      (f.reg.bySubject (fromSandboxUID "a")).map (fun e => (e.state, e.fence)) =
        some (.active, fromSlotOwner reboundX.owner) := by
    decide +kernel
  have hreach : Reached Serial f := (replay_reached hf).mono serial_sound fun _ _ _ => id
  exact ⟨f,hreach,hactive,rebind_agreement hreach⟩

theorem rebind_splits_push : ¬ ∀ f, Reached (fun _ _ => True) f → Agreed f := by
  intro hall
  obtain ⟨f,hf,hpc,hidle,⟨e,he,hstate,heff⟩,hinst⟩ : ∃ f ∈ replay (fun _ _ => True)
      (pushed (.bound slotX) allowPush ++ enforcing (.updated reboundX) ++ [.pushReg]),
      f.pc.enforcing.isNone = true ∧ f.applying.isNone = true ∧
        (∃ e ∈ f.reg.bySubject (fromSandboxUID "a"),
          e.state = .active ∧ e.effective.isSome = true) ∧
        (f.nft.inst (fromSandboxUID "a")).map (·.pol.isSome) = some false := by
    decide +kernel
  have hagreed := hall f (replay_reached hf)
  obtain ⟨i,hi,-,hpol⟩ := hagreed.layers (isNone_iff_eq_none.mp hpc)
    (isNone_iff_eq_none.mp hidle) _ e he
  rw [hi,map_some,some.injEq,hpol hstate] at hinst
  rw [heff] at hinst
  cases hinst

end OpenSandbox.Fleet
