import OpenSandbox.Egress.Fleetnft.Dispatch

namespace OpenSandbox.Fleetnft

open Netip Policy Slots Registry Ruleset Option Function

structure Enforced (w : World) : Prop where
  slices : ∀ t, w.kernel = some t → ∀ v i, w.inst v = some i → Enforces t v i.pol

structure Placed (st : Tracked) : Prop where
  recorded : ∀ v i, st.world.inst v = some i →
    st.world.routeOf (pairOf i.slot) = some (subjectChain v)
  current : ∀ v π, (st.world.inst v).isSome → st.recent v = some π →
    ∀ c, st.world.routeOf π = some c → c = subjectChain v

structure Clear (st : Tracked) (s : Subject) (π : Pair) : Prop where
  route : ∀ c, st.world.routeOf π = some c → c = subjectChain s
  unused : ∀ v, v ≠ s → (st.world.inst v).isSome → st.recent v ≠ some π

def Tidy (st : Tracked) : Op → Prop
  | .denyFirst _ s slot =>
      ((st.world.inst s).isSome ∨
        ∀ t, st.world.kernel = some t → t.chains (subjectChain s) = none) ∧
      Clear st s (pairOf slot)
  | .dispatchUpdate _ s slot => (st.world.inst s).isSome → Clear st s (pairOf slot)
  | _ => True

def Follows (st : Tracked) (op : Op) (st' : Tracked) : Prop :=
  op.Feasible st.world ∧ st' = st.after op

def Launched (st : Tracked) : Prop := ∃ w, Started w ∧ st = .start w

def Histories (U : Set Subject) (ok : Tracked → Op → Prop) : Tracked → Prop :=
  Runs.Reach Follows (fun st op => op.Within U ∧ ok st op) Launched

structure Synced (U : Set Subject) (st : Tracked) : Prop where
  standing : Standing U st.world
  enforced : Enforced st.world
  placed : Placed st

section Enforced

variable {U : Set Subject} {w : World} {s : Subject} {frag : List Stmt}

theorem Enforced.fragment (hU : DistinctNames U) (hst : Standing U w) (h : Enforced w) (hs : s ∈ U)
    (ha : AboutAll s frag) {a : Applier} (hother : ∀ v, v ≠ s → a.subjects.lookup v = w.inst v)
    (hself : ∀ t, w.kernel = some t → ∀ i, a.subjects.lookup s = some i →
      Enforces (frag.foldl Stmt.effect t) s i.pol) :
    Enforced ⟨a,w.kernel.map (frag.foldl Stmt.effect ·)⟩ := by
  obtain ⟨t,hk,-,hin⟩ := hst.table
  refine ⟨fun t' ht' v i hi => ?_⟩
  simp only [hk,map_some,some.injEq] at ht'
  subst ht'
  by_cases hv : v = s
  · subst hv
    exact hself t hk i hi
  · have hi' : w.inst v = some i := (hother v hv).symm.trans hi
    have hvU := (hin v (by rw [hi']; rfl)).1
    exact (ha.sameSlice (hU.chain_ne hs hvU hv) t).enforces (h.slices t hk v i hi')

theorem Enforced.install (hU : DistinctNames U) (hst : Standing U w) (h : Enforced w) (hs : s ∈ U)
    (ha : AboutAll s frag) {i : InstalledSubject}
    (hself : ∀ t, w.kernel = some t → Enforces (frag.foldl Stmt.effect t) s i.pol) :
    Enforced ((w.write frag).install s i) := by
  refine h.fragment hU hst hs ha (fun v hv => Finmap.lookup_insert_of_ne _ hv) fun t ht j hj => ?_
  cases (Finmap.lookup_insert _).symm.trans hj
  exact hself t ht

variable {t : Table}

theorem enforces_reset (hp : Present t s) (slot : Slot) :
    Enforces ((writeSubjectResetFragment s slot).foldl Stmt.effect t) s none := by
  have hacts := acts_resetFragment (s := s) slot
  have helems (kind : SetKind) (fam : Family) :
      ((writeSubjectResetFragment s slot).foldl Stmt.effect t).elems kind s fam = some [] := by
    obtain ⟨es,he⟩ := isSome_iff_exists.mp (hp.sets kind fam)
    rw [hacts.elems,he]
    rfl
  obtain ⟨rules,hc,-⟩ := hp.chain
  refine ⟨?_,fun kind fam _ => helems kind fam,fun fam => by rw [helems]; rfl⟩
  rw [hacts.chains,onChain_self,addDispatch_self,hc]
  rfl

variable {pol : Option NetworkPolicy}

theorem Enforces.swap (h : Enforces t s pol) {next : NetworkPolicy}
    (hf : writeSubjectPolicySwapFragment s next = .ok frag) :
    Enforces (frag.foldl Stmt.effect t) s (some next) := by
  have hacts := acts_swapFragment hf
  refine ⟨?_,fun kind fam hk => ?_,fun fam => ?_⟩
  · rw [hacts.chains,onChain_self,h.chain]
    rfl
  · rw [hacts.elems,if_neg hk,h.static kind fam hk]
    rfl
  · rw [hacts.elems,if_pos rfl]
    exact h.dyn fam

theorem Enforces.resolved (h : Enforces t s pol) (ips : List ResolvedIP) :
    Enforces ((writeResolvedIPsFragment s ips).foldl Stmt.effect t) s pol := by
  have hacts := acts_resolvedFragment (s := s) ips
  refine ⟨?_,fun kind fam hk => ?_,fun fam => ?_⟩
  · rw [hacts.chains,h.chain]
  · rw [hacts.elems,if_neg hk,h.static kind fam hk]
  · rw [hacts.elems,if_pos rfl,isSome_map]
    exact h.dyn fam

theorem Enforces.dispatchRule (h : Enforces t s pol) (slot : Slot) :
    Enforces ((writeDispatchRule s slot).foldl Stmt.effect t) s pol := by
  have hacts := acts_writeDispatchRule (s := s) slot
  refine ⟨?_,fun kind fam hk => ?_,fun fam => ?_⟩
  · rw [hacts.chains,addDispatch_self,h.chain]
  · rw [hacts.elems,h.static kind fam hk]
  · rw [hacts.elems]
    exact h.dyn fam

end Enforced

section Placed

variable {U : Set Subject} {st st' : Tracked}

theorem Placed.keep (h : Placed st) (hrules : st'.world.dispatchRules = st.world.dispatchRules)
    (hinst : ∀ v i', st'.world.inst v = some i' → ∃ i, st.world.inst v = some i ∧ i.slot = i'.slot)
    (hrec : ∀ v, (st'.world.inst v).isSome → st'.recent v = st.recent v) : Placed st' := by
  have hroute (π : Pair) : st'.world.routeOf π = st.world.routeOf π := by
    rw [World.routeOf,hrules,World.routeOf]
  refine ⟨fun v i' hi' => ?_,fun v π hv hr c hc => ?_⟩
  · obtain ⟨i,hi,hslot⟩ := hinst v i' hi'
    rw [hroute,← hslot]
    exact h.recorded v i hi
  obtain ⟨i',hi'⟩ := isSome_iff_exists.mp hv
  obtain ⟨i,hi,-⟩ := hinst v i' hi'
  rw [hroute] at hc
  exact h.current v π (by rw [hi]; rfl) ((hrec v hv).symm.trans hr) c hc

variable {s : Subject}

theorem Placed.add (h : Placed st) {slot : Slot} (hclear : Clear st s (pairOf slot))
    (hrules : st'.world.dispatchRules = st.world.dispatchRules ++ [dispatchRule s slot])
    (hself : ∀ i', st'.world.inst s = some i' →
      i'.slot = slot ∨ ∃ i, st.world.inst s = some i ∧ i.slot = i'.slot)
    (hother : ∀ v, v ≠ s → st'.world.inst v = st.world.inst v)
    (hrec : st'.recent = Function.update st.recent s (some (pairOf slot))) : Placed st' := by
  have hown : st'.world.routeOf (pairOf slot) = some (subjectChain s) := by
    rw [routeOf_add hrules,if_pos rfl]
    cases hc : st.world.routeOf (pairOf slot) with
    | none => rfl
    | some c =>
      rw [hclear.route c hc]
      rfl
  have hkept (π : Pair) (c : String) (hc : st.world.routeOf π = some c) :
      st'.world.routeOf π = some c := by
    rw [routeOf_add hrules,hc]
    rfl
  refine ⟨fun v i' hi' => ?_,fun v π hv hr c hc => ?_⟩
  · by_cases hvs : v = s
    · subst hvs
      rcases hself i' hi' with rfl | ⟨i,hi,hslot⟩
      · exact hown
      · rw [← hslot]
        exact hkept _ _ (h.recorded v i hi)
    · rw [hother v hvs] at hi'
      exact hkept _ _ (h.recorded v i' hi')
  by_cases hvs : v = s
  · subst hvs
    rw [hrec,update_self] at hr
    cases hr
    rw [hown] at hc
    exact (some.inj hc).symm
  · rw [hother v hvs] at hv
    rw [hrec,update_of_ne hvs] at hr
    have hne : pairOf slot ≠ π := by
      rintro rfl
      exact hclear.unused v hvs hv hr
    rw [routeOf_add hrules,if_neg hne,or_none] at hc
    exact h.current v π hv hr c hc

variable {v : Subject} {i : InstalledSubject}

theorem Placed.forget (h : Placed st) (s : Subject) :
    Placed ⟨st.world.forget s,Function.update st.recent s none⟩ := by
  refine h.keep rfl (fun v i hi => ⟨i,(inst_of_forget hi).2,rfl⟩) fun v hv => ?_
  obtain ⟨i,hi⟩ := isSome_iff_exists.mp hv
  exact update_of_ne (inst_of_forget hi).1 ..

theorem Placed.route_rebuilt (hU : DistinctNames U) (hst : Standing U st.world) (h : Placed st)
    {order : List Subject} {π : Pair} (hv : (st.world.inst v).isSome) (hr : st.recent v = some π)
    {c : String}
    (hc : route (recordedRules (st.world.applier.subjects.erase s) order) π.1 π.2 = some c) :
    c = subjectChain v ∧ ∃ i, st.world.inst v = some i ∧ pairOf i.slot = π := by
  obtain ⟨u,-,i,hi,hpair,rfl⟩ := route_recordedRules hc
  have hu := (inst_of_forget hi).2
  obtain ⟨t,-,-,hin⟩ := hst.table
  have huU := (hin u (by rw [hu]; rfl)).1
  obtain rfl : u = v := by
    by_contra hne
    refine hU.chain_ne (hin v hv).1 huU hne ?_
    exact h.current v π hv hr _ (hpair ▸ h.recorded u i hu)
  exact ⟨rfl,i,hu,hpair⟩

theorem Placed.route_recorded (h : Placed st) {order : List Subject} (hv : v ∈ order)
    (hi : (st.world.forget s).inst v = some i) :
    route (recordedRules (st.world.applier.subjects.erase s) order)
      (pairOf i.slot).1 (pairOf i.slot).2 = some (subjectChain v) := by
  obtain ⟨c,hc⟩ := isSome_iff_exists.mp (route_recordedRules_isSome hv hi)
  obtain ⟨u,-,j,hj,hpair,rfl⟩ := route_recordedRules hc
  have hroute := h.recorded u j (inst_of_forget hj).2
  rw [hpair,h.recorded v i (inst_of_forget hi).2] at hroute
  exact hc.trans hroute.symm

end Placed

section Step

variable {U : Set Subject} {st st' : Tracked}

theorem enforced_cleared {w : World} (h : ∀ v, w.inst v = none) : Enforced w := by
  refine ⟨fun t _ v i hi => ?_⟩
  rw [h] at hi
  cases hi

theorem placed_cleared (h : ∀ v, st.world.inst v = none) : Placed st := by
  refine ⟨fun v i hi => ?_,fun v π hv => ?_⟩
  · rw [h] at hi
    cases hi
  · rw [h] at hv
    cases hv

theorem synced_step (hU : DistinctNames U) (h : Synced U st) {op : Op} (hop : op.Within U)
    (htidy : Tidy st op) (hfe : op.Feasible st.world) : Synced U (st.after op) := by
  have hst : Standing U (st.after op).world := standing_step hU h.standing hop hfe
  suffices hrest : Enforced (st.after op).world ∧ Placed (st.after op) from
    ⟨hst,hrest.1,hrest.2⟩
  have hchange := step_change h.standing.ready op
  rw [Tracked.after]
  generalize st.world.step op = out at hchange ⊢
  cases hchange with
  | resetFailed | denyFirstFailed | policyFailed | unresolved | dispatchUnknown | dispatchFailed =>
    exact ⟨h.enforced,h.placed⟩
  | reset | removeLast => exact ⟨enforced_cleared fun v => rfl,placed_cleared fun v => rfl⟩
  | @denyFirst _ s slot frag hf =>
    obtain ⟨hfresh,hclear⟩ := htidy
    constructor
    · refine h.enforced.install hU h.standing hop (about_denyFirstFragment hf) fun t ht => ?_
      obtain ⟨t',hk,hwf,hin⟩ := h.standing.table
      obtain rfl : t' = t := some.inj (hk.symm.trans ht)
      rcases denyFirstFragment_cases hf with ⟨hi,rfl⟩ | ⟨hi,hf⟩
      · exact enforces_reset (hin s hi).2 slot
      refine enforces_install ((hwf.slices s hop).resolve_right fun hp => ?_) hf
      obtain ⟨rules,hc,-⟩ := hp.chain
      rw [hfresh.resolve_left hi t' ht] at hc
      cases hc
    · refine h.placed.add hclear (h.standing.dispatchRules_map (denyFirstFragment_dispatch hf))
        (fun i hi => .inl ?_) (fun v hv => Finmap.lookup_insert_of_ne _ hv) rfl
      cases (Finmap.lookup_insert _).symm.trans hi
      rfl
  | @policy _ s _ inst frag hi hf =>
    constructor
    · exact h.enforced.install hU h.standing hop (about_writeSubjectPolicySwapFragment hf)
        fun t ht => (h.enforced.slices t ht s inst hi).swap hf
    · refine h.placed.keep (h.standing.dispatchRules_same fun t => ?_) (fun v i hi' => ?_)
        fun v _ => rfl
      · rw [(acts_swapFragment hf).chains,onChain_dispatch]
      · rw [World.inst_install] at hi'
        split_ifs at hi' with hv
        · cases hi'
          exact ⟨inst,hv ▸ hi,rfl⟩
        · exact ⟨i,hi',rfl⟩
  | @resolved _ s ips _ =>
    constructor
    · exact h.enforced.fragment hU h.standing hop (about_writeResolvedIPsFragment ips)
        (fun _ _ => rfl) fun t ht i hi => (h.enforced.slices t ht s i hi).resolved ips
    · refine h.placed.keep (h.standing.dispatchRules_same fun t => ?_)
        (fun v i hi => ⟨i,hi,rfl⟩) fun v _ => rfl
      rw [(acts_resolvedFragment ips).chains]
  | @dispatchUpdate _ s slot hi =>
    constructor
    · exact h.enforced.fragment hU h.standing hop (about_writeDispatchRule slot)
        (fun _ _ => rfl) fun t ht i hi => (h.enforced.slices t ht s i hi).dispatchRule slot
    · refine h.placed.add (htidy hi) (h.standing.dispatchRules_map fun t => ?_)
        (fun i hi => .inr ⟨i,hi,rfl⟩) (fun _ _ => rfl) rfl
      rw [(acts_writeDispatchRule slot).chains,addDispatch_dispatch]
  | removeAbsent hi =>
    refine ⟨h.enforced,h.placed.keep rfl (fun v i hv => ⟨i,hv,rfl⟩) fun v hv => ?_⟩
    refine update_of_ne ?_ ..
    rintro rfl
    rw [hi] at hv
    cases hv
  | @removeFailed _ s =>
    refine ⟨⟨fun t ht v i hi => ?_⟩,h.placed.forget s⟩
    exact h.enforced.slices t ht v i (inst_of_forget hi).2
  | @rebuilt _ s order _ _ hb =>
    obtain ⟨-,hre⟩ := h.standing.rebuilt hU hfe hb
    have hmem (v : Subject) (i : InstalledSubject) (hi : (st.world.forget s).inst v = some i) :
        v ∈ order := (hfe.2 v).mpr (by rw [hi]; rfl)
    constructor
    · refine ⟨fun t ht v i hi => ?_⟩
      cases ht
      exact (hre.enforces v (hmem v i hi) i hi).1
    refine ⟨fun v i hi => ?_,fun v π hv hrec c hc => ?_⟩
    · rw [dispatchRules_rebuilt hre]
      exact h.placed.route_recorded (hmem v i hi) hi
    rw [dispatchRules_rebuilt hre] at hc
    obtain ⟨i,hi⟩ := isSome_iff_exists.mp hv
    obtain ⟨hvs,hi'⟩ := inst_of_forget hi
    simp only [recentAfter,update_of_ne hvs] at hrec
    exact (h.placed.route_rebuilt hU h.standing (by rw [hi']; rfl) hrec hc).1

end Step

variable {U : Set Subject} {st : Tracked}

theorem Histories.synced (hU : DistinctNames U) (h : Histories U Tidy st) : Synced U st := by
  refine Runs.Reach.invariant (fun st hst => ?_) (fun st op st' hs hok hf => ?_) h
  · obtain ⟨w,hw,rfl⟩ := hst
    rw [hw.eq]
    exact ⟨standing_headerOn (.inl rfl),enforced_cleared fun v => rfl,placed_cleared fun v => rfl⟩
  · obtain ⟨hfe,rfl⟩ := hf
    exact synced_step hU hs hok.1 hok.2 hfe

variable {ok : Tracked → Op → Prop}

theorem Histories.after (h : Histories U ok st) (op : Op) (hin : op.Within U) (hok : ok st op)
    (hfe : op.Feasible st.world) : Histories U ok (st.after op) := .step h ⟨hin,hok⟩ ⟨hfe,rfl⟩

theorem Histories.reached (h : Histories U ok st) : Reached U st.world := by
  induction h with
  | start hst =>
    obtain ⟨w,hw,rfl⟩ := hst
    exact .start hw
  | step _ hop hf ih =>
    obtain ⟨hfe,rfl⟩ := hf
    exact ih.after _ hop.1 hfe

end OpenSandbox.Fleetnft
