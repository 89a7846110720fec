import OpenSandbox.Library.Outcome
import OpenSandbox.Library.Runs
import OpenSandbox.Egress.Fleetnft.Applier
import OpenSandbox.Egress.Fleetnft.Routing

namespace OpenSandbox.Fleetnft

open Netip Policy Slots Registry Ruleset List Option Function

def DistinctNames (U : Set Subject) : Prop :=
  ∀ s ∈ U, ∀ v ∈ U, sanitize s.name = sanitize v.name → s = v

variable {U : Set Subject} {s : Subject}

theorem DistinctNames.chain_ne (hU : DistinctNames U) {v : Subject} (hs : s ∈ U) (hv : v ∈ U)
    (hne : v ≠ s) : subjectChain v ≠ subjectChain s := by
  intro h
  exact hne (hU v hv s hs ((String.append_right_inj _).mp h))

theorem World.inst_install (w : World) (s v : Subject) (i : InstalledSubject) :
    (w.install s i).inst v = if v = s then some i else w.inst v := by
  split_ifs with h
  · subst h
    exact Finmap.lookup_insert _
  · exact Finmap.lookup_insert_of_ne _ h

theorem World.inst_forget (w : World) (s v : Subject) :
    (w.forget s).inst v = if v = s then none else w.inst v := by
  split_ifs with h
  · subst h
    exact Finmap.lookup_erase ..
  · exact Finmap.lookup_erase_ne h

theorem headerOn_eq (t : Table) :
    headerOn t = ⟨some dispatchChain,Function.update t.chains dispatchChain
      (some ((t.chains dispatchChain).getD [] ++ headerRules)),t.sets⟩ := by
  rw [headerOn,headerStmts,foldl_cons,foldl_addRule]
  simp [Stmt.effect]

theorem sameSlice_headerOn (t : Table) (s : Subject) : SameSlice t (headerOn t) s := by
  rw [headerOn_eq]
  refine ⟨?_,fun _ _ => rfl⟩
  simp [subjectChain_ne_dispatch s]

theorem absent_new (s : Subject) : Absent .new s := ⟨rfl,fun _ _ => rfl⟩

section Tables

variable {U : Set Subject} {t : Table} {s : Subject} {frag : List Stmt}

theorem wellFormed_new (U : Set Subject) : WellFormed U (headerOn .new) := by
  refine ⟨by rw [headerOn_eq],⟨[],?_,by simp⟩,fun s _ => .inl ?_⟩
  · rw [headerOn_eq]
    simp [Table.new]
  · exact (sameSlice_headerOn .new s).absent (absent_new s)

theorem SourceRule.mono {t' : Table} (h : ∀ v ∈ U, Present t v → Present t' v) {r : NftRule}
    (hr : SourceRule U t r) : SourceRule U t' r := by
  obtain ⟨ip,veth,v,hv,rfl,hp⟩ := hr
  exact ⟨ip,veth,v,hv,rfl,h v hv hp⟩

theorem WellFormed.headerOn (h : WellFormed U t) : WellFormed U (headerOn t) := by
  obtain ⟨rest,hc,hrest⟩ := h.dispatch
  refine ⟨by rw [headerOn_eq],⟨rest ++ headerRules,?_,
    forall_mem_append.mpr ⟨fun r hr => ?_,fun r => .inl⟩⟩,fun v hv => ?_⟩
  · rw [headerOn_eq,hc]
    simp
  · exact (hrest r hr).imp_right (SourceRule.mono fun v _ => (sameSlice_headerOn t v).present)
  · exact (h.slices v hv).imp (sameSlice_headerOn t v).absent (sameSlice_headerOn t v).present

theorem WellFormed.fragment (hU : DistinctNames U) (h : WellFormed U t) (hs : s ∈ U)
    (ha : AboutAll s frag) (hb : (frag.foldl Stmt.effect t).base = t.base)
    (hd : ∃ more : List NftRule, (frag.foldl Stmt.effect t).chains dispatchChain =
      (t.chains dispatchChain).map (· ++ more) ∧ ∀ r ∈ more, ∃ slot, r = dispatchRule s slot)
    (hp : Present (frag.foldl Stmt.effect t) s) :
    WellFormed U (frag.foldl Stmt.effect t) ∧ Present (frag.foldl Stmt.effect t) s := by
  have hother (v : Subject) (hv : v ∈ U) (hne : v ≠ s) := ha.sameSlice (hU.chain_ne hs hv hne) t
  have hmono (v : Subject) (hv : v ∈ U) (hpv : Present t v) :
      Present (frag.foldl Stmt.effect t) v := by
    by_cases hne : v = s
    · rwa [hne]
    · exact (hother v hv hne).present hpv
  obtain ⟨rest,hc,hrest⟩ := h.dispatch
  obtain ⟨more,hmore,hrule⟩ := hd
  refine ⟨⟨hb.trans h.base,⟨rest ++ more,?_,
    forall_mem_append.mpr ⟨fun r hr => ?_,fun r hr => ?_⟩⟩,fun v hv => ?_⟩,hp⟩
  · rw [hmore,hc,map_some,append_assoc]
  · exact (hrest r hr).imp_right (SourceRule.mono hmono)
  · obtain ⟨slot,rfl⟩ := hrule r hr
    exact .inr ⟨_,_,s,hs,rfl,hp⟩
  · by_cases hne : v = s
    · exact .inr (hne ▸ hp)
    · exact (h.slices v hv).imp (hother v hv hne).absent (hother v hv hne).present

theorem onChain_dispatch (up : Option (List NftRule) → Option (List NftRule)) (c : Chains) :
    onChain s up c dispatchChain = c dispatchChain :=
  update_of_ne (subjectChain_ne_dispatch s).symm ..

theorem onChain_self (up : Option (List NftRule) → Option (List NftRule)) (c : Chains) :
    onChain s up c (subjectChain s) = up (c (subjectChain s)) := update_self ..

theorem addDispatch_dispatch (rule : NftRule) (c : Chains) :
    addDispatch rule c dispatchChain = (c dispatchChain).map (· ++ [rule]) :=
  update_self ..

theorem addDispatch_self (rule : NftRule) (c : Chains) :
    addDispatch rule c (subjectChain s) = c (subjectChain s) :=
  update_of_ne (subjectChain_ne_dispatch s) ..

variable (hU : DistinctNames U) (h : WellFormed U t) (hs : s ∈ U)

include hU h hs

theorem wellFormed_install {inst : InstalledSubject} (hf : installFragment s inst = .ok frag) :
    WellFormed U (frag.foldl Stmt.effect t) ∧ Present (frag.foldl Stmt.effect t) s := by
  have hacts := acts_installFragment hf
  refine h.fragment hU hs (about_installFragment hf) (hacts.base t)
    ⟨[dispatchRule s inst.slot],?_,by simp⟩
    ⟨⟨_,by rw [hacts.chains,onChain_self,addDispatch_self],?_⟩,fun kind fam => ?_⟩
  · rw [hacts.chains,onChain_dispatch,addDispatch_dispatch]
  · rcases h.slices s hs with ha | hp
    · rw [ha.chain]
      exact shaped_verdictRules ..
    · obtain ⟨rules,hc,hr⟩ := hp.chain
      rw [hc]
      exact hr.append (shaped_verdictRules ..)
  · rw [hacts.elems]
    rfl

variable (hp : Present t s)

include hp

theorem wellFormed_reset (slot : Slot) :
    WellFormed U ((writeSubjectResetFragment s slot).foldl Stmt.effect t) ∧
      Present ((writeSubjectResetFragment s slot).foldl Stmt.effect t) s := by
  have hacts := acts_resetFragment (s := s) slot
  obtain ⟨rules,hc,-⟩ := hp.chain
  refine h.fragment hU hs (about_writeSubjectResetFragment slot) (hacts.base t)
    ⟨[dispatchRule s slot],?_,by simp⟩
    ⟨⟨_,?_,shaped_verdictRules s actionDeny⟩,fun kind fam => ?_⟩
  · rw [hacts.chains,onChain_dispatch,addDispatch_dispatch]
  · rw [hacts.chains,onChain_self,addDispatch_self,hc]
    rfl
  · rw [hacts.elems,isSome_map]
    exact hp.sets kind fam

theorem wellFormed_swap {pol : NetworkPolicy} (hf : writeSubjectPolicySwapFragment s pol = .ok frag)
    : WellFormed U (frag.foldl Stmt.effect t) ∧ Present (frag.foldl Stmt.effect t) s := by
  have hacts := acts_swapFragment hf
  obtain ⟨rules,hc,-⟩ := hp.chain
  refine h.fragment hU hs (about_writeSubjectPolicySwapFragment hf) (hacts.base t)
    ⟨[],by rw [hacts.chains,onChain_dispatch]; simp,by simp⟩
    ⟨⟨_,?_,shaped_verdictRules s pol.defaultAction⟩,fun kind fam => ?_⟩
  · rw [hacts.chains,onChain_self,hc]
    rfl
  rw [hacts.elems]
  split
  · exact hp.sets kind fam
  · rw [isSome_map]
    exact hp.sets kind fam

theorem wellFormed_resolved (ips : List ResolvedIP) :
    WellFormed U ((writeResolvedIPsFragment s ips).foldl Stmt.effect t) ∧
      Present ((writeResolvedIPsFragment s ips).foldl Stmt.effect t) s := by
  have hacts := acts_resolvedFragment (s := s) ips
  refine h.fragment hU hs (about_writeResolvedIPsFragment ips) (hacts.base t)
    ⟨[],by rw [hacts.chains]; simp,by simp⟩
    ⟨by rw [hacts.chains]; exact hp.chain,fun kind fam => ?_⟩
  rw [hacts.elems]
  split
  · rw [isSome_map]
    exact hp.sets kind fam
  · exact hp.sets kind fam

theorem wellFormed_dispatchRule (slot : Slot) :
    WellFormed U ((writeDispatchRule s slot).foldl Stmt.effect t) ∧
      Present ((writeDispatchRule s slot).foldl Stmt.effect t) s := by
  have hacts := acts_writeDispatchRule (s := s) slot
  refine h.fragment hU hs (about_writeDispatchRule slot) (hacts.base t)
    ⟨[dispatchRule s slot],by rw [hacts.chains,addDispatch_dispatch],by simp⟩
    ⟨?_,fun kind fam => ?_⟩
  · rw [hacts.chains,addDispatch_self]
    exact hp.chain
  · rw [hacts.elems]
    exact hp.sets kind fam

end Tables

structure Enforces (t : Table) (s : Subject) (pol : Option NetworkPolicy) : Prop where
  chain : t.chains (subjectChain s) = some (verdictRules s (polAction pol))
  static : ∀ kind fam, kind ≠ .dyn → t.elems kind s fam = some (polElems pol kind fam)
  dyn : ∀ fam, (t.elems .dyn s fam).isSome

variable {t : Table}

theorem Enforces.present {pol : Option NetworkPolicy} (h : Enforces t s pol) : Present t s := by
  refine ⟨⟨_,h.chain,shaped_verdictRules ..⟩,fun kind fam => ?_⟩
  by_cases hk : kind = .dyn
  · exact hk ▸ h.dyn fam
  · rw [h.static kind fam hk]
    rfl

theorem SameSlice.enforces {t' : Table} {pol : Option NetworkPolicy} (h : SameSlice t t' s)
    (he : Enforces t s pol) : Enforces t' s pol := by
  refine ⟨h.chain.trans he.chain,fun kind fam hk => ?_,fun fam => ?_⟩
  · rw [h.elems]
    exact he.static kind fam hk
  · rw [h.elems]
    exact he.dyn fam

theorem SameSlice.trans {t' t'' : Table} (h : SameSlice t t' s) (h' : SameSlice t' t'' s) :
    SameSlice t t'' s :=
  ⟨h'.chain.trans h.chain,fun kind fam => (h'.sets kind fam).trans (h.sets kind fam)⟩

section Install

variable {frag : List Stmt} {i : InstalledSubject} (ha : Absent t s)
variable (hf : installFragment s i = .ok frag)

include ha hf

theorem elems_install (kind : SetKind) (fam : Family) :
    (frag.foldl Stmt.effect t).elems kind s fam = some (polElems i.pol kind fam) := by
  rw [(acts_installFragment hf).elems,ha.sets]
  rfl

theorem enforces_install : Enforces (frag.foldl Stmt.effect t) s i.pol := by
  have helems := elems_install ha hf
  refine ⟨?_,fun kind fam _ => helems kind fam,fun fam => by rw [helems]; rfl⟩
  rw [(acts_installFragment hf).chains,onChain_self,addDispatch_self,ha.chain]
  rfl

end Install

structure Rebuilt (subjects : Finmap fun _ : Subject => InstalledSubject) (order : List Subject)
    (t t' : Table) : Prop where
  dispatch : t'.chains dispatchChain = (t.chains dispatchChain).map
    (· ++ order.filterMap fun s => (subjects.lookup s).map fun i => dispatchRule s i.slot)
  enforces : ∀ s ∈ order, ∀ i, subjects.lookup s = some i →
    Enforces t' s i.pol ∧ ∀ fam, t'.elems .dyn s fam = some []
  others : ∀ v, (∀ s ∈ order, subjectChain v ≠ subjectChain s) → SameSlice t t' v

variable {subjects : Finmap fun _ : Subject => InstalledSubject}

theorem rebuildFragment_effect (hU : DistinctNames U) {order : List Subject} (hn : order.Nodup)
    (hin : ∀ s ∈ order, s ∈ U ∧ (subjects.lookup s).isSome) {frags : List Stmt}
    (h : rebuildFragment subjects order = .ok frags) (ht : WellFormed U t)
    (ha : ∀ s ∈ order, Absent t s) : WellFormed U (frags.foldl Stmt.effect t) ∧
      Rebuilt subjects order t (frags.foldl Stmt.effect t) := by
  induction order generalizing t frags with
  | nil =>
    cases h
    exact ⟨ht,by simp,by simp,fun v _ => ⟨rfl,fun _ _ => rfl⟩⟩
  | cons s rest ih =>
    obtain ⟨hs,hsome⟩ := hin s (by simp)
    obtain ⟨i,hi⟩ := isSome_iff_exists.mp hsome
    rw [rebuildFragment,hi] at h
    obtain ⟨frag,hf,h⟩ := Outcome.bind_eq_ok.mp h
    obtain ⟨more,hm,h⟩ := Outcome.bind_eq_ok.mp h
    cases h
    obtain ⟨hsrest,hrest⟩ := nodup_cons.mp hn
    have habsent := ha s (by simp)
    have hne (v : Subject) (hv : v ∈ rest) : subjectChain v ≠ subjectChain s :=
      hU.chain_ne hs (hin v (by simp [hv])).1 fun h => hsrest (h ▸ hv)
    have hsame (v : Subject) (hv : subjectChain v ≠ subjectChain s) :
        SameSlice t (frag.foldl Stmt.effect t) v := (about_installFragment hf).sameSlice hv t
    obtain ⟨hwf,hre⟩ := ih hrest (fun v hv => hin v (by simp [hv])) hm
      (wellFormed_install hU ht hs hf).1
      fun v hv => (hsame v (hne v hv)).absent (ha v (by simp [hv]))
    rw [foldl_append]
    have hkeep := hre.others s fun v hv => (hne v hv).symm
    refine ⟨hwf,?_,?_,?_⟩
    · rw [hre.dispatch,(acts_installFragment hf).chains,onChain_dispatch,addDispatch_dispatch,
        Option.map_map]
      simp [hi,comp_def]
    · intro v hv j hj
      rcases mem_cons.mp hv with rfl | hv
      · obtain rfl : i = j := some.inj (hi.symm.trans hj)
        refine ⟨hkeep.enforces (enforces_install habsent hf),fun fam => ?_⟩
        rw [hkeep.elems,elems_install habsent hf]
        cases i.pol <;> rfl
      · exact hre.enforces v hv j hj
    · intro v hv
      exact (hsame v (hv s (by simp))).trans (hre.others v fun u hu => hv u (by simp [hu]))

structure Standing (U : Set Subject) (w : World) : Prop where
  ready : w.applier.tableReady = true
  table : ∃ t, w.kernel = some t ∧ WellFormed U t ∧
    ∀ s, (w.inst s).isSome → s ∈ U ∧ Present t s

def Op.Feasible (w : World) : Op → Prop
  | .remove _ s order => order.Nodup ∧ ∀ v, v ∈ order ↔ ((w.forget s).inst v).isSome
  | _ => True

def Op.Within (U : Set Subject) : Op → Prop
  | .reset _ => True
  | .denyFirst _ s _ | .policy _ s _ | .resolved _ s _ | .dispatchUpdate _ s _ | .remove _ s _ =>
    s ∈ U

section Step

variable {U : Set Subject} {w : World}

variable {t : Table}

theorem standing_headerOn (ht : t = .new ∨ WellFormed U t) :
    Standing U ⟨⟨true,∅⟩,some (headerOn t)⟩ := by
  refine ⟨rfl,_,rfl,?_,nofun⟩
  rcases ht with rfl | ht
  · exact wellFormed_new U
  · exact ht.headerOn

variable {s : Subject}

theorem Standing.fragment (hU : DistinctNames U) (h : Standing U w) (hs : s ∈ U)
    {frag : List Stmt} (ha : AboutAll s frag) {a : Applier} (hready : a.tableReady = true)
    (hdom : ∀ v, (a.subjects.lookup v).isSome → v = s ∨ (w.inst v).isSome)
    (hf : ∀ t, WellFormed U t → ((w.inst s).isSome → Present t s) →
      WellFormed U (frag.foldl Stmt.effect t) ∧ Present (frag.foldl Stmt.effect t) s) :
    Standing U ⟨a,w.kernel.map (frag.foldl Stmt.effect ·)⟩ := by
  obtain ⟨t,hk,hwf,hin⟩ := h.table
  obtain ⟨hwf',hp⟩ := hf t hwf fun hi => (hin s hi).2
  refine ⟨hready,frag.foldl Stmt.effect t,by rw [hk]; rfl,hwf',fun v hv => ?_⟩
  by_cases hvs : v = s
  · exact hvs ▸ ⟨hs,hp⟩
  · obtain ⟨hvU,hpv⟩ := hin v ((hdom v hv).resolve_left hvs)
    exact ⟨hvU,(ha.sameSlice (hU.chain_ne hs hvU hvs) t).present hpv⟩

theorem isSome_insert {subjects : Finmap fun _ : Subject => InstalledSubject} {v : Subject}
    {i : InstalledSubject} (h : ((subjects.insert s i).lookup v).isSome) :
    v = s ∨ (subjects.lookup v).isSome := by
  by_cases hv : v = s
  · exact .inl hv
  · rw [Finmap.lookup_insert_of_ne _ hv] at h
    exact .inr h

theorem denyFirstFragment_effect (hU : DistinctNames U) (hs : s ∈ U) {slot : Slot}
    {frag : List Stmt} (h : denyFirstFragment w s slot = .ok frag) (ht : WellFormed U t)
    (hp : (w.inst s).isSome → Present t s) :
    WellFormed U (frag.foldl Stmt.effect t) ∧ Present (frag.foldl Stmt.effect t) s := by
  rcases denyFirstFragment_cases h with ⟨hi,rfl⟩ | ⟨-,hf⟩
  · exact wellFormed_reset hU ht hs (hp hi) slot
  · exact wellFormed_install hU ht hs hf

theorem Standing.forget (h : Standing U w) (s : Subject) : Standing U (w.forget s) := by
  obtain ⟨t,hk,hwf,hin⟩ := h.table
  refine ⟨h.ready,t,hk,hwf,fun v hv => hin v ?_⟩
  rw [World.inst_forget] at hv
  split at hv
  · cases hv
  · exact hv

theorem Standing.rebuilt (hU : DistinctNames U) (h : Standing U w) {order : List Subject}
    (hfe : order.Nodup ∧ ∀ v, v ∈ order ↔ ((w.forget s).inst v).isSome) {frags : List Stmt}
    (hb : rebuildFragment (w.applier.subjects.erase s) order = .ok frags) :
    WellFormed U (frags.foldl Stmt.effect (headerOn .new)) ∧
      Rebuilt (w.applier.subjects.erase s) order (headerOn .new)
        (frags.foldl Stmt.effect (headerOn .new)) := by
  obtain ⟨t,-,-,hin⟩ := (h.forget s).table
  have hall (v : Subject) (hv : v ∈ order) :
      v ∈ U ∧ ((w.applier.subjects.erase s).lookup v).isSome :=
    ⟨(hin v ((hfe.2 v).mp hv)).1,(hfe.2 v).mp hv⟩
  exact rebuildFragment_effect hU hfe.1 hall hb (wellFormed_new U)
    fun v _ => (sameSlice_headerOn .new v).absent (absent_new v)

theorem standing_step (hU : DistinctNames U) (h : Standing U w) {op : Op} (hop : op.Within U)
    (hfe : op.Feasible w) : Standing U (w.step op).2 := by
  have hchange := step_change h.ready op
  generalize w.step op = out at hchange ⊢
  cases hchange with
  | resetFailed | denyFirstFailed | policyFailed | unresolved | dispatchUnknown | dispatchFailed
  | removeAbsent => exact h
  | reset ht | removeLast _ ht =>
    obtain ⟨t',hk,hwf,-⟩ := h.table
    refine standing_headerOn (ht.imp_right ?_)
    rintro ⟨hkt,-⟩
    rw [hk] at hkt
    exact some.inj hkt ▸ hwf
  | denyFirst hf =>
    exact h.fragment hU hop (about_denyFirstFragment hf) h.ready (fun v => isSome_insert)
      fun t => denyFirstFragment_effect hU hop hf
  | policy hi hf =>
    refine h.fragment hU hop (about_writeSubjectPolicySwapFragment hf) h.ready
      (fun v => isSome_insert) fun t ht hp => wellFormed_swap hU ht hop (hp ?_) hf
    rw [hi]
    rfl
  | resolved hi =>
    exact h.fragment hU hop (about_writeResolvedIPsFragment _) h.ready (fun v => .inr)
      fun t ht hp => wellFormed_resolved hU ht hop (hp hi) _
  | dispatchUpdate hi =>
    exact h.fragment hU hop (about_writeDispatchRule _) h.ready (fun v => .inr)
      fun t ht hp => wellFormed_dispatchRule hU ht hop (hp hi) _
  | removeFailed => exact h.forget _
  | rebuilt _ hb =>
    obtain ⟨hwf,hre⟩ := h.rebuilt hU hfe hb
    refine ⟨rfl,_,rfl,hwf,fun v hv => ?_⟩
    obtain ⟨t,-,-,hin⟩ := (h.forget _).table
    obtain ⟨i,hi⟩ := isSome_iff_exists.mp hv
    exact ⟨(hin v hv).1,(hre.enforces v ((hfe.2 v).mpr hv) i hi).1.present⟩

end Step

def Steps (w : World) (op : Op) (w' : World) : Prop := op.Feasible w ∧ w' = (w.step op).2

def Started (w : World) : Prop := ∃ k, applyReset ⟨none,none⟩ ⟨newApplier,k⟩ = (.ok (), w)

variable {w : World}

theorem Started.eq (h : Started w) : w = ⟨⟨true,∅⟩,some (headerOn .new)⟩ := by
  obtain ⟨k,hk⟩ := h
  have hchange := applyReset_change ⟨none,none⟩ ⟨newApplier,k⟩
  rw [hk] at hchange
  cases hchange with
  | reset ht =>
    rcases ht with rfl | ⟨-,hne⟩
    · rfl
    · exact absurd rfl hne

theorem started_header : Started ⟨⟨true,∅⟩,some (headerOn .new)⟩ := by
  refine ⟨some .new,?_⟩
  simp [applyReset,applyWithMissingTableFallback,run,batch_writeTableHeader]

def Reached (U : Set Subject) : World → Prop :=
  Runs.Reach Steps (fun _ op => op.Within U) Started

theorem Reached.after (h : Reached U w) (op : Op) (hop : op.Within U) (hfe : op.Feasible w) :
    Reached U (w.step op).2 :=
  .step h hop ⟨hfe,rfl⟩

theorem Reached.standing (hU : DistinctNames U) (h : Reached U w) : Standing U w := by
  refine Runs.Reach.invariant (fun w hw => ?_) (fun w op w' hw hop hs => ?_) h
  · rw [hw.eq]
    exact standing_headerOn (.inl rfl)
  · obtain ⟨hfe,rfl⟩ := hs
    exact standing_step hU hw hop hfe

theorem Reached.mem (hU : DistinctNames U) (h : Reached U w) {v : Subject}
    (hv : (w.inst v).isSome) : v ∈ U := by
  obtain ⟨t,-,-,hin⟩ := (h.standing hU).table
  exact (hin v hv).1

end OpenSandbox.Fleetnft
