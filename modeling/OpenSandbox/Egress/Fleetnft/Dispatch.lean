import OpenSandbox.Egress.Fleetnft.DenyFirst

namespace OpenSandbox.Fleetnft

open Netip Policy Slots Registry Ruleset List Option Function World

abbrev Pair := Addr × String

def pairOf (slot : Slot) : Pair := (slot.ip, slot.hostVeth)

def World.routeOf (w : World) (π : Pair) : Option String := route w.dispatchRules π.1 π.2

structure Tracked where
  world : World
  recent : Subject → Option Pair

def Tracked.start (w : World) : Tracked := ⟨w,fun _ => none⟩

def recentAfter (recent : Subject → Option Pair) : Op → Except Err Unit → Subject → Option Pair
  | .reset _, .ok _ => fun _ => none
  | .denyFirst _ s slot, .ok _ | .dispatchUpdate _ s slot, .ok _ =>
    Function.update recent s (some (pairOf slot))
  | .remove _ s _, _ => Function.update recent s none
  | _, _ => recent

def Tracked.after (st : Tracked) (op : Op) : Tracked :=
  ⟨(st.world.step op).2,recentAfter st.recent op (st.world.step op).1⟩

def Tracked.Apart (st : Tracked) : Prop :=
  ∀ u v π, (st.world.inst u).isSome → (st.world.inst v).isSome → st.recent u = some π →
    st.recent v = some π → u = v

def World.firstMatch (w : World) (p : Packet) : Option NftRule :=
  w.kernel.bind fun t => t.dispatchRules.find? fun r => r.cond.holds t.sets p

def Dispatched (st : Tracked) : Prop :=
  ∀ v ip veth, (st.world.inst v).isSome → st.recent v = some (ip, veth) →
    ∀ p : Packet, p.src = ip → p.iif = veth → p.Fresh →
      (st.world.firstMatch p).map Rule.target = some (.jump (subjectChain v))

def Op.Faultless : Op → Prop
  | .reset f | .denyFirst f _ _ => f = ⟨none,none⟩
  | .policy fault _ _ | .resolved fault _ _ | .dispatchUpdate fault _ _ => fault = none
  | .remove f _ _ => f = ⟨none,none⟩

structure Moves (U : Set Subject) (st : Tracked) (op : Op) (st' : Tracked) : Prop where
  within : op.Within U
  feasible : op.Feasible st.world
  faultless : op.Faultless
  succeeds : ∀ msg, (st.world.step op).1 ≠ .error (.nft msg)
  result : st' = st.after op
  apart : st'.Apart

def Clean (st : Tracked) : Op → Prop
  | .denyFirst _ s slot => ∀ c, st.world.routeOf (pairOf slot) = some c → c = subjectChain s
  | .dispatchUpdate _ s slot => (st.world.inst s).isSome →
      ∀ c, st.world.routeOf (pairOf slot) = some c → c = subjectChain s
  | .remove _ s _ => (st.world.inst s).isSome → ∀ v i, v ≠ s → st.world.inst v = some i →
      st.recent v = some (pairOf i.slot)
  | _ => True

section Routes

variable {U : Set Subject} {w : World}

theorem Standing.firstMatch_eq (h : Standing U w) {p : Packet} (hp : p.Fresh) :
    (w.firstMatch p).map Rule.target = (w.routeOf (p.src, p.iif)).map .jump := by
  obtain ⟨t,hk,hwf,-⟩ := h.table
  rw [firstMatch,routeOf,dispatchRules,hk,Option.bind_some,
    find_eq_route hwf.dispatchRules_shape hp t.sets,Option.map_map]
  rfl

theorem Standing.dispatchRules_map (h : Standing U w) {a : Applier} {frag : List Stmt}
    {more : List NftRule} (hd : ∀ t : Table, (frag.foldl Stmt.effect t).chains dispatchChain =
      (t.chains dispatchChain).map (· ++ more)) :
    World.dispatchRules ⟨a,w.kernel.map (frag.foldl Stmt.effect ·)⟩ = w.dispatchRules ++ more := by
  obtain ⟨t,hk,hwf,-⟩ := h.table
  simp only [dispatchRules,hk,map_some,getD_some]
  exact hwf.dispatchRules_of (hd t)

theorem Standing.dispatchRules_same (h : Standing U w) {a : Applier} {frag : List Stmt}
    (hd : ∀ t : Table, (frag.foldl Stmt.effect t).chains dispatchChain = t.chains dispatchChain) :
    World.dispatchRules ⟨a,w.kernel.map (frag.foldl Stmt.effect ·)⟩ = w.dispatchRules := by
  obtain ⟨t,hk,-⟩ := h.table
  simp only [dispatchRules,hk,map_some,getD_some,Table.dispatchRules,hd]

theorem routeOf_add {w w' : World} {s : Subject} {slot : Slot}
    (h : w'.dispatchRules = w.dispatchRules ++ [dispatchRule s slot]) (π : Pair) :
    w'.routeOf π = (w.routeOf π).or (if pairOf slot = π then some (subjectChain s) else none) := by
  obtain ⟨ip,veth⟩ := π
  simp only [routeOf,h,route_append,route_dispatchRule,pairOf,Prod.mk.injEq]

def recordedRules (subjects : Finmap fun _ : Subject => InstalledSubject) (order : List Subject) :
    List NftRule :=
  order.filterMap fun s => (subjects.lookup s).map fun i => dispatchRule s i.slot

variable {subjects : Finmap fun _ : Subject => InstalledSubject} {order : List Subject}

theorem route_recordedRules {π : Pair} {c : String}
    (h : route (recordedRules subjects order) π.1 π.2 = some c) :
    ∃ u ∈ order, ∃ i, subjects.lookup u = some i ∧ pairOf i.slot = π ∧ c = subjectChain u := by
  obtain ⟨r,hr,hrr⟩ := exists_of_findSome?_eq_some h
  obtain ⟨u,hu,hmap⟩ := mem_filterMap.mp hr
  obtain ⟨i,hi,rfl⟩ := map_eq_some_iff.mp hmap
  simp only [ruleRoute,dispatchRule] at hrr
  split_ifs at hrr with hpair
  cases hrr
  exact ⟨u,hu,i,hi,Prod.ext hpair.1 hpair.2,rfl⟩

theorem route_recordedRules_isSome {v : Subject} (hv : v ∈ order) {i : InstalledSubject}
    (hi : subjects.lookup v = some i) :
    (route (recordedRules subjects order) (pairOf i.slot).1 (pairOf i.slot).2).isSome := by
  rw [route,findSome?_isSome_iff]
  refine ⟨dispatchRule v i.slot,mem_filterMap.mpr ⟨v,hv,by rw [hi]; rfl⟩,?_⟩
  simp [ruleRoute,dispatchRule,pairOf]

theorem dispatchRules_rebuilt {t : Table} (h : Rebuilt subjects order (headerOn .new) t)
    (a : Applier) (π : Pair) :
    World.routeOf ⟨a,some t⟩ π = route (recordedRules subjects order) π.1 π.2 := by
  have hd : dispatchRules ⟨a,some t⟩ = headerRules ++ recordedRules subjects order := by
    rw [dispatchRules,map_some,getD_some,Table.dispatchRules,h.dispatch,headerOn_eq]
    simp [Table.new,recordedRules]
  rw [routeOf,hd,route_append]
  rfl

end Routes

theorem inst_of_forget {w : World} {s v : Subject} {i : InstalledSubject}
    (h : (w.forget s).inst v = some i) : v ≠ s ∧ w.inst v = some i := by
  rw [inst_forget] at h
  split_ifs at h with hv
  exact ⟨hv,h⟩

def Routed (st : Tracked) : Prop :=
  ∀ v π, (st.world.inst v).isSome → st.recent v = some π →
    st.world.routeOf π = some (subjectChain v)

structure Settled (st : Tracked) : Prop where
  known : ∀ v, (st.world.inst v).isSome → (st.recent v).isSome
  buildable : ∀ v i, st.world.inst v = some i → ∃ frag, installFragment v i = .ok frag

structure Tracking (U : Set Subject) (st : Tracked) : Prop where
  standing : Standing U st.world
  routed : Routed st
  apart : st.Apart
  settled : Settled st

variable {U : Set Subject}

theorem Tracking.dispatched {st : Tracked} (h : Tracking U st) : Dispatched st := by
  rintro v ip veth hv hr p rfl rfl hp
  rw [h.standing.firstMatch_eq hp,h.routed v _ hv hr]
  rfl

theorem Dispatched.routed {st : Tracked} (hst : Standing U st.world) (h : Dispatched st) :
    Routed st := by
  intro v π hv hr
  let p : Packet := ⟨π.1,.invalid,π.2,.other 0,0,false⟩
  have hp : p.Fresh := ⟨rfl,by simp [Packet.Dot,p]⟩
  have hm := h v π.1 π.2 hv hr p rfl rfl hp
  rw [hst.firstMatch_eq hp] at hm
  obtain ⟨c,hc,hj⟩ := map_eq_some_iff.mp hm
  cases hj
  exact hc

section Step

variable {U : Set Subject} {st st' : Tracked}

theorem Routed.keep (h : Routed st) (hrules : st'.world.dispatchRules = st.world.dispatchRules)
    (hinst : ∀ v, (st'.world.inst v).isSome → (st.world.inst v).isSome)
    (hrec : ∀ v π, (st'.world.inst v).isSome → st'.recent v = some π → st.recent v = some π) :
    Routed st' := by
  intro v π hv hr
  rw [routeOf,hrules]
  exact h v π (hinst v hv) (hrec v π hv hr)

variable {s : Subject} {slot : Slot}

theorem Routed.add (h : Routed st)
    (hrules : st'.world.dispatchRules = st.world.dispatchRules ++ [dispatchRule s slot])
    (hs : (st'.world.inst s).isSome)
    (hinst : ∀ v, v ≠ s → (st'.world.inst v).isSome → (st.world.inst v).isSome)
    (hrec : st'.recent = Function.update st.recent s (some (pairOf slot))) :
    Routed st' ↔ ∀ c, st.world.routeOf (pairOf slot) = some c → c = subjectChain s := by
  constructor
  · intro h' c hc
    have hown := h' s (pairOf slot) hs (by rw [hrec,update_self])
    rw [routeOf_add hrules,hc] at hown
    exact some.inj hown
  intro hfree v π hv hr
  rw [routeOf_add hrules]
  by_cases hvs : v = s
  · subst hvs
    rw [hrec,update_self] at hr
    cases hr
    rw [if_pos rfl]
    cases hc : st.world.routeOf (pairOf slot) with
    | none => rfl
    | some c =>
      rw [hfree c hc]
      rfl
  · rw [hrec,update_of_ne hvs] at hr
    rw [h v π (hinst v hvs hv) hr]
    rfl

theorem routed_rebuilt (h : Tracking U st) (hU : DistinctNames U) (hapart : st'.Apart)
    {order : List Subject} (hmem : ∀ v, v ∈ order ↔ ((st.world.forget s).inst v).isSome)
    (hworld : st'.world.inst = (st.world.forget s).inst) (hroute : ∀ π, st'.world.routeOf π =
      route (recordedRules (st.world.applier.subjects.erase s) order) π.1 π.2)
    (hrec : st'.recent = Function.update st.recent s none) :
    Routed st' ↔ ∀ v i, v ≠ s → st.world.inst v = some i → st.recent v = some (pairOf i.slot) := by
  have hinst (v : Subject) (hv : v ≠ s) : (st.world.forget s).inst v = st.world.inst v := by
    rw [inst_forget,if_neg hv]
  have hin (v : Subject) (hv : v ∈ order) : v ∈ U := by
    obtain ⟨t,-,-,hin⟩ := (h.standing.forget s).table
    exact (hin v ((hmem v).mp hv)).1
  constructor
  · intro h' v i hv hi
    have hvo : v ∈ order := (hmem v).mpr (by rw [hinst v hv,hi]; rfl)
    obtain ⟨π,hπ⟩ := isSome_iff_exists.mp (h.settled.known v (by rw [hi]; rfl))
    have hown := h' v π (by rw [hworld,hinst v hv,hi]; rfl) (by rw [hrec,update_of_ne hv,hπ])
    rw [hroute] at hown
    obtain ⟨u,hu,j,hj,hpair,hchain⟩ := route_recordedRules hown
    have huv : u = v := by
      by_contra hne
      exact hU.chain_ne (hin v hvo) (hin u hu) hne hchain.symm
    subst huv
    have hji : (st.world.forget s).inst u = some j := hj
    rw [hinst u hv,hi] at hji
    cases hji
    rw [hπ,← hpair]
  intro hsame v π hv hr
  rw [hworld] at hv
  have hvs : v ≠ s := by
    rintro rfl
    rw [inst_forget,if_pos rfl] at hv
    cases hv
  have hvo : v ∈ order := (hmem v).mpr hv
  rw [hrec,update_of_ne hvs] at hr
  obtain ⟨i,hi⟩ := isSome_iff_exists.mp hv
  rw [hinst v hvs] at hi
  have hrecorded := hsame v i hvs hi
  obtain rfl : pairOf i.slot = π := some.inj (hrecorded.symm.trans hr)
  have hlook : (st.world.applier.subjects.erase s).lookup v = some i := (hinst v hvs).trans hi
  rw [hroute]
  obtain ⟨c,hc⟩ := isSome_iff_exists.mp (route_recordedRules_isSome hvo hlook)
  obtain ⟨u,hu,j,hj,hpair,rfl⟩ := route_recordedRules hc
  have hus : u ≠ s := by
    rintro rfl
    have hju : (st.world.forget u).inst u = some j := hj
    rw [inst_forget,if_pos rfl] at hju
    cases hju
  have hju : st.world.inst u = some j := (hinst u hus).symm.trans hj
  have huv : u = v := by
    refine hapart u v (pairOf i.slot) ?_ ?_ ?_ ?_
    · rw [hworld,hinst u hus,hju]
      rfl
    · rwa [hworld]
    · rw [hrec,update_of_ne hus,hsame u j hus hju,hpair]
    · rw [hrec,update_of_ne hvs,hrecorded]
  rw [hc,huv]

theorem rebuildFragment_ok {subjects : Finmap fun _ : Subject => InstalledSubject}
    (h : ∀ v i, subjects.lookup v = some i → ∃ frag, installFragment v i = .ok frag)
    (order : List Subject) : ∃ frags, rebuildFragment subjects order = .ok frags := by
  induction order with
  | nil => exact ⟨[],rfl⟩
  | cons v rest ih =>
    obtain ⟨more,hm⟩ := ih
    cases hi : subjects.lookup v with
    | none => exact ⟨more,by rw [rebuildFragment,hi,hm]; rfl⟩
    | some i =>
      obtain ⟨frag,hf⟩ := h v i hi
      refine ⟨frag ++ more,?_⟩
      rw [rebuildFragment,hi,hm]
      simp only [hf]
      rfl

theorem Settled.rebuildFragment_ok (h : Settled st) (s : Subject) (order : List Subject) :
    ∃ frags, rebuildFragment (st.world.applier.subjects.erase s) order = .ok frags := by
  refine Fleetnft.rebuildFragment_ok (fun v i hv => ?_) order
  exact h.buildable v i (inst_of_forget hv).2

theorem installFragment_of_swap {pol : NetworkPolicy} {frag : List Stmt}
    (h : writeSubjectPolicySwapFragment s pol = .ok frag) :
    ∃ frag', installFragment s ⟨slot,some pol⟩ = .ok frag' := by
  obtain ⟨elems,he,-⟩ := map_eq_ok h
  have hsets : writeSubjectSets s (some pol) = .ok (addSetStmts s ++ elems) := by
    rw [writeSubjectSets,he]
    rfl
  rw [installFragment_eq,hsets]
  exact ⟨_,rfl⟩

theorem Settled.keep (h : Settled st) (hinst : ∀ v i, st'.world.inst v = some i →
    st.world.inst v = some i) (hrec : ∀ v, (st'.world.inst v).isSome → st'.recent v = st.recent v) :
    Settled st' := by
  refine ⟨fun v hv => ?_,fun v i hi => h.buildable v i (hinst v i hi)⟩
  obtain ⟨i,hi⟩ := isSome_iff_exists.mp hv
  rw [hrec v hv]
  exact h.known v (by rw [hinst v i hi]; rfl)

theorem Settled.install (h : Settled st) {i : InstalledSubject}
    (hinst : ∀ v, st'.world.inst v = if v = s then some i else st.world.inst v)
    (hi : ∃ frag, installFragment s i = .ok frag) (hs : (st'.recent s).isSome)
    (hrec : ∀ v, v ≠ s → st'.recent v = st.recent v) : Settled st' := by
  refine ⟨fun v hv => ?_,fun v j hj => ?_⟩
  · by_cases hvs : v = s
    · exact hvs ▸ hs
    · rw [hinst,if_neg hvs] at hv
      rw [hrec v hvs]
      exact h.known v hv
  · rw [hinst] at hj
    split_ifs at hj with hvs
    · cases hj
      exact hvs ▸ hi
    · exact h.buildable v j hj

structure Spec (st : Tracked) (op : Op) (st' : Tracked) : Prop where
  settled : Settled st'
  routed : Routed st' ↔ Clean st op

theorem settled_cleared {s : Tracked} (hst : ∀ v, s.world.inst v = none) :
    Settled s ∧ Routed s := by
  refine ⟨⟨fun v hv => ?_,fun v i hi => ?_⟩,fun v π hv => ?_⟩
  · rw [hst] at hv
    cases hv
  · rw [hst] at hi
    cases hi
  · rw [hst] at hv
    cases hv

theorem spec_of_moves (hU : DistinctNames U) (h : Tracking U st) {op : Op}
    (hm : Moves U st op st') : Spec st op st' := by
  obtain ⟨-,hfe,-,hok,rfl,hapart⟩ := hm
  have hchange := step_change h.standing.ready op
  rw [Tracked.after] at hapart ⊢
  generalize st.world.step op = out at hchange hok hapart ⊢
  cases hchange with
  | resetFailed | denyFirstFailed | dispatchFailed => exact (hok _ rfl).elim
  | policyFailed | unresolved => exact ⟨h.settled,iff_of_true h.routed trivial⟩
  | reset _ =>
    exact ⟨(settled_cleared fun v => rfl).1,iff_of_true (settled_cleared fun v => rfl).2 trivial⟩
  | @denyFirst _ s slot frag hf =>
    have hinst (v : Subject) := inst_install (st.world.write frag) s v ⟨slot,none⟩
    constructor
    · refine h.settled.install hinst ⟨_,rfl⟩ ?_ fun v hv => update_of_ne hv ..
      simp [recentAfter]
    refine h.routed.add (h.standing.dispatchRules_map (denyFirstFragment_dispatch hf)) ?_ ?_ rfl
    · rw [hinst,if_pos rfl]
      rfl
    · intro v hv hi
      rwa [hinst,if_neg hv] at hi
  | @policy _ s pol inst frag hi hf =>
    have hinst (v : Subject) := inst_install (st.world.write frag) s v
      { inst with pol := some (pol.getD defaultDenyPolicy) }
    have hsome : (st.world.inst s).isSome := by
      rw [hi]
      rfl
    constructor
    · exact h.settled.install hinst (installFragment_of_swap hf) (h.settled.known s hsome)
        fun v _ => rfl
    refine iff_of_true (h.routed.keep ?_ (fun v hv => ?_) fun v π _ hr => hr) trivial
    · refine h.standing.dispatchRules_same fun t => ?_
      rw [(acts_swapFragment hf).chains,onChain_dispatch]
    rw [hinst] at hv
    split at hv
    · next hvs => exact hvs ▸ hsome
    · exact hv
  | @resolved _ _ ips _ =>
    refine ⟨⟨h.settled.known,h.settled.buildable⟩,
      iff_of_true (h.routed.keep ?_ (fun v hv => hv) fun v π _ hr => hr) trivial⟩
    refine h.standing.dispatchRules_same fun t => ?_
    rw [(acts_resolvedFragment ips).chains]
  | dispatchUnknown hi =>
    refine ⟨h.settled,iff_of_true h.routed fun hs => ?_⟩
    rw [hi] at hs
    cases hs
  | @dispatchUpdate _ s slot hi =>
    constructor
    · refine ⟨fun v hv => ?_,h.settled.buildable⟩
      by_cases hvs : v = s
      · simp [recentAfter,hvs]
      · simp only [recentAfter,update_of_ne hvs]
        exact h.settled.known v hv
    · simp only [Clean,hi,forall_const]
      refine h.routed.add (h.standing.dispatchRules_map fun t => ?_) hi (fun v _ hv => hv) rfl
      rw [(acts_writeDispatchRule slot).chains,addDispatch_dispatch]
  | @removeAbsent _ s _ hi =>
    have hrec (v : Subject) (hv : (st.world.inst v).isSome) :
        update st.recent s none v = st.recent v := by
      refine update_of_ne ?_ ..
      rintro rfl
      rw [hi] at hv
      cases hv
    refine ⟨h.settled.keep (fun v i hv => hv) hrec,iff_of_true (h.routed.keep rfl (fun v hv => hv)
      fun v π hv hr => (hrec v hv).symm.trans hr) fun hs => ?_⟩
    rw [hi] at hs
    cases hs
  | removeFailed he =>
    rcases he with ⟨msg,rfl⟩ | he
    · exact (hok msg rfl).elim
    · obtain ⟨frags,hfrags⟩ := h.settled.rebuildFragment_ok _ _
      cases he.symm.trans hfrags
  | @removeLast _ s _ _ hrest _ =>
    refine ⟨(settled_cleared fun v => rfl).1,
      iff_of_true (settled_cleared fun v => rfl).2 fun _ v i hv hi => ?_⟩
    have hnone := inst_forget st.world s v
    rw [if_neg hv,hi,inst,forget,hrest] at hnone
    exact absurd hnone (by simp)
  | @rebuilt _ s order _ hi hb =>
    have hsome : (st.world.inst s).isSome := isSome_iff_ne_none.mpr hi
    constructor
    · refine h.settled.keep (fun v i hv => ?_) fun v hv => ?_
      · exact (inst_of_forget hv).2
      · obtain ⟨i,hi⟩ := isSome_iff_exists.mp hv
        exact update_of_ne (inst_of_forget hi).1 ..
    · simp only [Clean,hsome,forall_const]
      obtain ⟨-,hre⟩ := h.standing.rebuilt hU hfe hb
      exact routed_rebuilt h hU hapart hfe.2 rfl (fun π => dispatchRules_rebuilt hre _ π) rfl

theorem tracking_step (hU : DistinctNames U) (h : Tracking U st) {op : Op} (hok : Clean st op)
    (hm : Moves U st op st') : Tracking U st' := by
  have hspec := spec_of_moves hU h hm
  refine ⟨?_,hspec.routed.mpr hok,hm.apart,hspec.settled⟩
  rw [hm.result]
  exact standing_step hU h.standing hm.within hm.feasible

end Step

variable {w : World}

theorem Started.tracking (h : Started w) : Tracking U (.start w) := by
  rw [h.eq]
  obtain ⟨hset,hrou⟩ :=
    settled_cleared (s := .start ⟨⟨true,∅⟩,some (headerOn .new)⟩) fun v => rfl
  refine ⟨standing_headerOn (.inl rfl),hrou,fun u v π hu => ?_,hset⟩
  cases hu

theorem dispatch_own_chain_iff {U : Set Subject} (hU : DistinctNames U) {w : World}
    (hw : Started w) (ops : List Op) :
    Runs.Always (Moves U) Dispatched (.start w) ops ↔
      Runs.Guarded (Moves U) Clean (.start w) ops := by
  refine Runs.always_iff_guarded (fun st (h : Tracking U st) => h.dispatched)
    (fun st op st' h hok hm => tracking_step hU h hok hm)
    (fun st op st' h hm hno => ⟨st',hm,fun hd => hno ?_⟩) hw.tracking ops
  have hst : Standing U st'.world := by
    rw [hm.result]
    exact standing_step hU h.standing hm.within hm.feasible
  exact (spec_of_moves hU h hm).routed.mp (hd.routed hst)

theorem dispatch_own_chain_moved : Runs.Always (Moves {demoSubject}) Dispatched
      (.start ⟨⟨true,∅⟩,some (headerOn .new)⟩)
      [.denyFirst ⟨none,none⟩ demoSubject demoSlot,.policy none demoSubject (some ⟨[],actionAllow,
        none⟩),.dispatchUpdate none demoSubject
          (leasedSlot "b" .bound ⟨"a",1,1⟩ 0x0A000006 "veth-b")] := by
  refine (dispatch_own_chain_iff (distinctNames_singleton _) started_header _).mpr
    fun st₁ h₁ => ⟨fun c hc => ?_,fun st₂ h₂ => ⟨trivial,fun st₃ h₃ => ⟨fun _ c hc => ?_,trivial⟩⟩⟩
  · cases hc
  · rw [h₂.result,h₁.result] at hc
    have hnone : World.routeOf opened (.v4 0x0A000006, "veth-b") = none := by decide +kernel
    cases hnone.symm.trans hc

theorem distinctNames_pair {a b : Subject} (h : sanitize a.name ≠ sanitize b.name) :
    DistinctNames {a, b} := by
  rintro s (rfl | rfl) v (rfl | rfl) hname
  · rfl
  · exact absurd hname h
  · exact absurd hname.symm h
  · rfl

variable {recent : Subject → Option Pair}

theorem moves_of_ok {w' : World} {recent' : Subject → Option Pair} {op : Op} (hin : op.Within U)
    (hfe : op.Feasible w) (hfl : op.Faultless) (hstep : w.step op = (.ok (), w'))
    (hrec : recentAfter recent op (.ok ()) = recent') (hap : Tracked.Apart ⟨w',recent'⟩) :
    Moves U ⟨w,recent⟩ op ⟨w',recent'⟩ := by
  refine ⟨hin,hfe,hfl,fun msg h => ?_,?_,hap⟩
  · rw [hstep] at h
    cases h
  · rw [Tracked.after,hstep,hrec]

theorem apart_of_pair {a b : Subject} (hin : ∀ v, (w.inst v).isSome → v = a ∨ v = b)
    (hne : recent a ≠ recent b) : Tracked.Apart ⟨w,recent⟩ := by
  intro u v π hu hv hru hrv
  rcases hin u hu with rfl | rfl <;> rcases hin v hv with rfl | rfl
  · rfl
  · exact absurd (hru.trans hrv.symm) hne
  · exact absurd (hrv.trans hru.symm) hne
  · rfl

theorem dispatch_follows_stale_rule : ¬ ∀ U, DistinctNames U → ∀ w, Started w → ∀ ops,
      Runs.Always (Moves U) Dispatched (.start w) ops := by
  intro hall
  let a := fromSandboxUID "a"
  let b := fromSandboxUID "b"
  let U : Set Subject := {a, b}
  let x := leasedSlot "x" .bound ⟨"a",1,1⟩ 0x0A000005 "veth-x"
  let y := leasedSlot "y" .bound ⟨"a",1,1⟩ 0x0A000006 "veth-y"
  let o₁ : Op := .denyFirst ⟨none,none⟩ a x
  let o₂ : Op := .dispatchUpdate none a y
  let o₃ : Op := .denyFirst ⟨none,none⟩ b x
  let w₀ : World := ⟨⟨true,∅⟩,some (headerOn .new)⟩
  let p : Packet := ⟨x.ip,.v4 0x08080808,"veth-x",.tcp,443,false⟩
  have r₁ : (w₀.step o₁).1 = .ok () := by decide +kernel
  have r₂ : ((w₀.step o₁).2.step o₂).1 = .ok () := by decide +kernel
  have r₃ : (((w₀.step o₁).2.step o₂).2.step o₃).1 = .ok () := by decide +kernel
  have hb : ((((w₀.step o₁).2.step o₂).2.step o₃).2.inst b).isSome := by decide +kernel
  have hfirst : ((((w₀.step o₁).2.step o₂).2.step o₃).2.firstMatch p).map Rule.target =
      some (.jump (subjectChain a)) := by decide +kernel
  have hU : DistinctNames U := distinctNames_pair (by decide)
  have c₁ : Reached U (w₀.step o₁).2 := Reached.after (.start started_header) o₁ (.inl rfl) trivial
  have c₂ := c₁.after o₂ (.inl rfl) trivial
  have c₃ := c₂.after o₃ (.inr rfl) trivial
  generalize h₁ : w₀.step o₁ = out₁ at *
  obtain ⟨_,w₁⟩ := out₁
  obtain rfl := r₁
  generalize h₂ : w₁.step o₂ = out₂ at *
  obtain ⟨_,w₂⟩ := out₂
  obtain rfl := r₂
  generalize h₃ : w₂.step o₃ = out₃ at *
  obtain ⟨_,w₃⟩ := out₃
  obtain rfl := r₃
  let f₁ : Subject → Option Pair := update (fun _ => none) a (some (pairOf x))
  let f₂ := update f₁ a (some (pairOf y))
  let f₃ := update f₂ b (some (pairOf x))
  have d₁ : f₁ a ≠ f₁ b := by decide +kernel
  have d₂ : f₂ a ≠ f₂ b := by decide +kernel
  have d₃ : f₃ a ≠ f₃ b := by decide +kernel
  have m₁ : Moves U (.start w₀) o₁ ⟨w₁,f₁⟩ :=
    moves_of_ok (.inl rfl) trivial rfl h₁ rfl (apart_of_pair (fun v => c₁.mem hU) d₁)
  have m₂ : Moves U ⟨w₁,f₁⟩ o₂ ⟨w₂,f₂⟩ :=
    moves_of_ok (.inl rfl) trivial rfl h₂ rfl (apart_of_pair (fun v => c₂.mem hU) d₂)
  have m₃ : Moves U ⟨w₂,f₂⟩ o₃ ⟨w₃,f₃⟩ :=
    moves_of_ok (.inr rfl) trivial rfl h₃ rfl (apart_of_pair (fun v => c₃.mem hU) d₃)
  have hend := (((hall U hU w₀ started_header [o₁,o₂,o₃]).2 _ m₁).2 _ m₂).2 _ m₃
  have hown := hend b x.ip "veth-x" hb rfl p rfl rfl ⟨rfl,by simp [Packet.Dot,p]⟩
  rw [hfirst] at hown
  exact absurd hown (by decide)

end OpenSandbox.Fleetnft
