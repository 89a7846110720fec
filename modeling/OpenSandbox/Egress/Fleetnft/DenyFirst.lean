import OpenSandbox.Egress.Fleetnft.Standing

namespace OpenSandbox.Fleetnft

open Netip Policy Slots Registry Ruleset Option

def Denied (k : Kernel) (slot : Slot) : Prop :=
  ∀ p : Packet, p.src = slot.ip → p.iif = slot.hostVeth → p.established = false →
    verdict k p = .drop

def Silent (k : Kernel) (chain : String) : Prop :=
  ∀ t, k = some t → ∀ p, t.chainVerdict jumpDepth chain p ≠ some .accept

def World.dispatchRules (w : World) : List NftRule := (w.kernel.map Table.dispatchRules).getD []

def firstTarget (w : World) (s : Subject) (slot : Slot) : String :=
  (route w.dispatchRules slot.ip slot.hostVeth).getD (subjectChain s)

variable {U : Set Subject} {t t' : Table}

theorem WellFormed.dispatchRules_of (h : WellFormed U t) {more : List NftRule}
    (hd : t'.chains dispatchChain = (t.chains dispatchChain).map (· ++ more)) :
    t'.dispatchRules = t.dispatchRules ++ more := by
  obtain ⟨rest,hc,-⟩ := h.dispatch
  rw [Table.dispatchRules,Table.dispatchRules,hd,hc]
  rfl

variable {c : String}

theorem dropped_iff_silent (h : WellFormed U t) {ip : Addr} {veth : String}
    (hr : route t.dispatchRules ip veth = some c) :
    (∀ p : Packet, p.src = ip → p.iif = veth → p.Fresh → verdict (some t) p = .drop) ↔
      Silent (some t) c := by
  obtain ⟨v,-,rfl,hv⟩ := h.route_subject hr
  constructor
  · rintro hd _ ⟨⟩ p hp
    let q : Packet := ⟨ip,p.dst,veth,.other 0,0,false⟩
    have hq : q.Fresh := ⟨rfl,by simp [Packet.Dot,q]⟩
    have hsame : t.chainVerdict jumpDepth (subjectChain v) q =
        t.chainVerdict jumpDepth (subjectChain v) p :=
      hv.chainVerdict_congr ⟨[],by simp,.inl rfl⟩ (fun _ _ => rfl) 15 rfl
    rw [← hsame,h.verdict_routed hq hr,hd q rfl rfl hq] at hp
    cases hp
  · rintro hs p rfl rfl hp
    have hno := hs t rfl p
    rw [h.verdict_routed hp hr] at hno
    cases hverdict : verdict (some t) p with
    | accept => exact absurd (congrArg some hverdict) hno
    | drop => rfl

theorem denied_iff_silent (h : WellFormed U t) {slot : Slot}
    (hr : route t.dispatchRules slot.ip slot.hostVeth = some c) :
    Denied (some t) slot ↔ Silent (some t) c := by
  rw [← dropped_iff_silent h hr]
  refine ⟨fun hd p hsrc hiif hp => hd p hsrc hiif hp.new,fun hd p hsrc hiif hnew => ?_⟩
  by_cases hdot : p.Dot
  · exact h.verdict_dot hnew hdot
  · exact hd p hsrc hiif ⟨hnew,hdot⟩

variable {s : Subject}

theorem silent_of_denying (hc : t.chains (subjectChain s) = some (verdictRules s actionDeny))
    (he : ∀ kind fam, t.elems kind s fam = some []) : Silent (some t) (subjectChain s) := by
  rintro _ ⟨⟩ p hp
  rw [jumpDepth,chainVerdict_eq hc (shaped_verdictRules s actionDeny) 15 p fun _ => none] at hp
  have hmiss (kind : SetKind) (fam : Family) :
      Cond.holds t.sets p (.daddr fam (setName kind s fam)) = false := by
    simp [Cond.holds,inSet_elems,he]
  simp only [verdictRules,denySetName,dynSetName,allowSetName,walk,hmiss] at hp
  cases hp

theorem silent_congr (hp : Present t s)
    (hc : ∃ more, t'.chains (subjectChain s) = (t.chains (subjectChain s)).map (· ++ more) ∧
      (more = [] ∨ Shaped s more)) (he : ∀ kind fam, t'.elems kind s fam = t.elems kind s fam) :
    Silent (some t') (subjectChain s) ↔ Silent (some t) (subjectChain s) := by
  have hsame (p : Packet) : t'.chainVerdict jumpDepth (subjectChain s) p =
      t.chainVerdict jumpDepth (subjectChain s) p := hp.chainVerdict_congr hc he 15 rfl
  constructor
  · rintro h _ ⟨⟩ p
    rw [← hsame]
    exact h t' rfl p
  · rintro h _ ⟨⟩ p
    rw [hsame]
    exact h t rfl p

theorem SameSlice.silent (h : SameSlice t t' s) (hp : Present t s) :
    Silent (some t') (subjectChain s) ↔ Silent (some t) (subjectChain s) :=
  silent_congr hp ⟨[],by simp [h.chain],.inl rfl⟩ h.elems

theorem silent_missing (h : t.chains c = none) : Silent (some t) c := by
  rintro _ ⟨⟩ p hp
  rw [Table.chainVerdict,jumpDepth,eval,h] at hp
  cases hp

section

variable {U : Set Subject} {w : World} {s : Subject} {slot : Slot} {frag : List Stmt}

theorem denyFirstFragment_dispatch (h : denyFirstFragment w s slot = .ok frag) (t : Table) :
    (frag.foldl Stmt.effect t).chains dispatchChain =
      (t.chains dispatchChain).map (· ++ [dispatchRule s slot]) := by
  rcases denyFirstFragment_cases h with ⟨-,rfl⟩ | ⟨-,hf⟩
  · rw [(acts_resetFragment slot).chains,onChain_dispatch,addDispatch_dispatch]
  · rw [(acts_installFragment hf).chains,onChain_dispatch,addDispatch_dispatch]

theorem denyFirstFragment_silent (hs : s ∈ U) (h : denyFirstFragment w s slot = .ok frag)
    {t : Table} (ht : WellFormed U t) (hp : (w.inst s).isSome → Present t s) :
    Silent (some (frag.foldl Stmt.effect t)) (subjectChain s) ↔
      (w.inst s).isSome ∨ Silent (some t) (subjectChain s) := by
  rcases denyFirstFragment_cases h with ⟨hi,rfl⟩ | ⟨hi,hf⟩
  · have hacts := acts_resetFragment (s := s) slot
    refine iff_of_true (silent_of_denying ?_ fun kind fam => ?_) (.inl hi)
    · obtain ⟨rules,hc,-⟩ := (hp hi).chain
      rw [hacts.chains,onChain_self,addDispatch_self,hc]
      rfl
    · obtain ⟨es,he⟩ := isSome_iff_exists.mp ((hp hi).sets kind fam)
      rw [hacts.elems,he]
      rfl
  have hacts := acts_installFragment hf
  rw [or_iff_right hi]
  rcases ht.slices s hs with ha | hpres
  · exact iff_of_true (silent_of_denying (enforces_install ha hf).chain (elems_install ha hf))
      (silent_missing ha.chain)
  refine silent_congr hpres ⟨verdictRules s actionDeny,?_,.inr (shaped_verdictRules ..)⟩
    fun kind fam => ?_
  · obtain ⟨rules,hc,-⟩ := hpres.chain
    rw [hacts.chains,onChain_self,addDispatch_self,hc]
    rfl
  · obtain ⟨es,he⟩ := isSome_iff_exists.mp (hpres.sets kind fam)
    rw [hacts.elems,he]
    simp [polElems]

theorem denyFirst_denies_iff (hU : DistinctNames U) (hw : Reached U w) (hs : s ∈ U) {f : Faults}
    (hok : (applyDenyFirst f w s slot).1 = .ok ()) :
    Denied (applyDenyFirst f w s slot).2.kernel slot ↔
      (firstTarget w s slot = subjectChain s ∧ (w.inst s).isSome) ∨
        Silent w.kernel (firstTarget w s slot) := by
  have hst := hw.standing hU
  obtain ⟨t,hk,hwf,hin⟩ := hst.table
  have hchange := applyDenyFirst_change f hst.ready s slot
  generalize applyDenyFirst f w s slot = out at hchange hok ⊢
  cases hchange with
  | denyFirstFailed => cases hok
  | @denyFirst _ _ _ frag hf =>
    have hp : (w.inst s).isSome → Present t s := fun hi => (hin s hi).2
    obtain ⟨hwf',hp'⟩ := denyFirstFragment_effect hU hs hf hwf hp
    have hdisp := hwf.dispatchRules_of (denyFirstFragment_dispatch hf t)
    have htarget : firstTarget w s slot =
        (route t.dispatchRules slot.ip slot.hostVeth).getD (subjectChain s) := by
      rw [firstTarget,World.dispatchRules,hk]
      rfl
    have hroute : route (frag.foldl Stmt.effect t).dispatchRules slot.ip slot.hostVeth =
        some (firstTarget w s slot) := by
      rw [hdisp,route_append,route_dispatchRule,htarget]
      cases route t.dispatchRules slot.ip slot.hostVeth <;> simp
    have hden := denied_iff_silent hwf' hroute
    simp only [World.install,World.write,hk,map_some]
    rw [hden]
    by_cases hown : firstTarget w s slot = subjectChain s
    · rw [hown,denyFirstFragment_silent hs hf hwf hp]
      simp
    have hrt : route t.dispatchRules slot.ip slot.hostVeth = some (firstTarget w s slot) := by
      rw [htarget] at hown ⊢
      cases hc : route t.dispatchRules slot.ip slot.hostVeth with
      | none => exact absurd (by rw [hc]; rfl) hown
      | some c => rfl
    obtain ⟨v,hv,hvt,hpv⟩ := hwf.route_subject hrt
    rw [hvt] at hown ⊢
    rw [((about_denyFirstFragment hf).sameSlice hown t).silent hpv]
    simp [hown]

end

theorem distinctNames_singleton (s : Subject) : DistinctNames {s} := by
  rintro _ rfl _ rfl -
  rfl

def demoSubject : Subject := fromSandboxUID "a"

def demoSlot : Slot := leasedSlot "a" .bound ⟨"a",1,1⟩ 0x0A000005 "veth-a"

def demoPacket : Packet := ⟨.v4 0x0A000005,.v4 0x08080808,"veth-a",.tcp,443,false⟩

def opened : World :=
  let reset : World := ⟨⟨true,∅⟩,some (headerOn .new)⟩
  ((reset.step (.denyFirst ⟨none,none⟩ demoSubject demoSlot)).2.step
    (.policy none demoSubject (some ⟨[],actionAllow,none⟩))).2

theorem opened_reached : Reached {demoSubject} opened := by
  have hinstalled := Reached.after (U := {demoSubject}) (.start started_header)
    (.denyFirst ⟨none,none⟩ demoSubject demoSlot) rfl trivial
  exact hinstalled.after (.policy none demoSubject (some ⟨[],actionAllow,none⟩)) rfl trivial

def unremoved : World :=
  (opened.step (.remove ⟨some "Error: Device or resource busy",none⟩ demoSubject [])).2

theorem unremoved_reached : Reached {demoSubject} unremoved := by
  refine opened_reached.after (.remove _ demoSubject []) rfl ⟨List.nodup_nil,fun v => ?_⟩
  rw [World.inst_forget]
  by_cases hv : v = demoSubject
  · simp [hv]
  · simpa [hv] using fun hsome => hv (opened_reached.mem (distinctNames_singleton _) hsome)

theorem denyFirst_denies_reinstalled :
    verdict opened.kernel demoPacket = .accept ∧
      Denied (applyDenyFirst ⟨none,none⟩ opened demoSubject demoSlot).2.kernel demoSlot := by
  refine ⟨by decide +kernel,(denyFirst_denies_iff (distinctNames_singleton _) opened_reached rfl
    (by decide +kernel)).mpr (.inl (by decide +kernel))⟩

theorem denyFirst_leaves_old_policy : ¬ ∀ U, DistinctNames U → ∀ w, Reached U w → ∀ s ∈ U, ∀ slot f,
      (applyDenyFirst f w s slot).1 = .ok () →
        Denied (applyDenyFirst f w s slot).2.kernel slot := by
  intro hall
  have hok : (applyDenyFirst ⟨none,none⟩ unremoved demoSubject demoSlot).1 = .ok () := by
    decide +kernel
  have hd := hall _ (distinctNames_singleton _) _ unremoved_reached demoSubject rfl demoSlot _ hok
    demoPacket rfl rfl rfl
  have hv : verdict (applyDenyFirst ⟨none,none⟩ unremoved demoSubject demoSlot).2.kernel
      demoPacket = .accept := by decide +kernel
  rw [hv] at hd
  cases hd

theorem fleet_fails_closed (hU : DistinctNames U) {w : World} (hw : Reached U w) (p : Packet) :
    (p.established = true → verdict w.kernel p = .accept) ∧
    (p.established = false → p.Dot → verdict w.kernel p = .drop) ∧
    (p.Fresh → route w.dispatchRules p.src p.iif = none → verdict w.kernel p = .drop) ∧
    ∀ c, p.Fresh → route w.dispatchRules p.src p.iif = some c → ∃ t, ∃ s ∈ U,
      w.kernel = some t ∧ c = subjectChain s ∧ Present t s ∧
        t.chainVerdict jumpDepth c p = some (verdict w.kernel p) := by
  obtain ⟨t,hk,hwf,-⟩ := (hw.standing hU).table
  have hrules : w.dispatchRules = t.dispatchRules := by rw [World.dispatchRules,hk]; rfl
  rw [hk,hrules]
  refine ⟨hwf.verdict_established,hwf.verdict_dot,hwf.verdict_unrouted,fun c hp hc => ?_⟩
  obtain ⟨s,hs,hchain,hpresent⟩ := hwf.route_subject hc
  exact ⟨t,s,hs,rfl,hchain,hpresent,hwf.verdict_routed hp hc⟩

theorem fleet_fails_closed_unremoved :
    ∃ t, unremoved.kernel = some t ∧ Present t demoSubject ∧
      t.chainVerdict jumpDepth (subjectChain demoSubject) demoPacket = some .accept := by
  have hroute : route unremoved.dispatchRules demoPacket.src demoPacket.iif =
      some (subjectChain demoSubject) := by decide +kernel
  have hv : verdict unremoved.kernel demoPacket = .accept := by decide +kernel
  obtain ⟨t,s,rfl,hk,-,hpresent,hverdict⟩ := (fleet_fails_closed (distinctNames_singleton _)
    unremoved_reached demoPacket).2.2.2 _ ⟨rfl,by simp [Packet.Dot,demoPacket]⟩ hroute
  exact ⟨t,hk,hpresent,hverdict.trans (congrArg some hv)⟩

end OpenSandbox.Fleetnft
