import OpenSandbox.Egress.Fleetnft.Synced

namespace OpenSandbox.Fleetnft

open Netip Policy Slots Registry Ruleset Option

def Table.member (t : Table) (kind : SetKind) (s : Subject) (d : Addr) : Bool :=
  (Family.v4.carries d && inSet t.sets (setName kind s .v4) d) ||
    (Family.v6.carries d && inSet t.sets (setName kind s .v6) d)

def Table.sliceVerdict (t : Table) (s : Subject) (action : String) (d : Addr) : Verdict :=
  if t.member .deny s d then .drop
  else if t.member .dyn s d then .accept
  else if t.member .allow s d then .accept
  else defaultVerdict action

def Redundant (t : Table) (s : Subject) (pol : Option NetworkPolicy) : Prop :=
  polAction pol = actionDeny → ∀ d, t.member .dyn s d → t.member .deny s d ∨ t.member .allow s d

section Slices

variable {t t' : Table} {s : Subject} {pol : Option NetworkPolicy}

theorem walk_setRules (kind : SetKind) (verdict : Verdict) (rules : List NftRule) (p : Packet)
    (call : String → Option Verdict) :
    walk (Cond.holds t.sets p) call (⟨.daddr .v4 (setName kind s .v4),.verdict verdict⟩ ::
        ⟨.daddr .v6 (setName kind s .v6),.verdict verdict⟩ :: rules) =
      if t.member kind s p.dst then some verdict else walk (Cond.holds t.sets p) call rules := by
  have hmem : t.member kind s p.dst = (Cond.holds t.sets p (.daddr .v4 (setName kind s .v4)) ||
      Cond.holds t.sets p (.daddr .v6 (setName kind s .v6))) := rfl
  rw [hmem,walk,walk]
  cases Cond.holds t.sets p (.daddr .v4 (setName kind s .v4)) <;>
    cases Cond.holds t.sets p (.daddr .v6 (setName kind s .v6)) <;> rfl

theorem Enforces.chainVerdict (h : Enforces t s pol) (depth : Nat) (p : Packet) :
    t.chainVerdict (depth + 1) (subjectChain s) p =
      some (t.sliceVerdict s (polAction pol) p.dst) := by
  rw [chainVerdict_eq h.chain (shaped_verdictRules ..) depth p fun _ => none,verdictRules,
    denySetName,dynSetName,allowSetName,walk_setRules,walk_setRules,walk_setRules,
    Table.sliceVerdict]
  split_ifs <;> rfl

theorem member_empty {kind : SetKind} (h : ∀ fam, t.elems kind s fam = some []) (d : Addr) :
    t.member kind s d = false := by
  simp [Table.member,inSet_elems,h]

theorem sliceVerdict_forgets_leases_iff (h : Enforces t s pol) (h' : Enforces t' s pol)
    (hdyn : ∀ fam, t'.elems .dyn s fam = some []) :
    (∀ d, t'.sliceVerdict s (polAction pol) d = t.sliceVerdict s (polAction pol) d) ↔
      Redundant t s pol := by
  have hstatic (kind : SetKind) (hk : kind ≠ .dyn) (d : Addr) :
      t'.member kind s d = t.member kind s d := by
    simp only [Table.member,inSet_elems,h'.static kind _ hk,h.static kind _ hk]
  constructor
  · intro hsame hdeny d hd
    have hd' := hsame d
    simp only [Table.sliceVerdict,hstatic .deny (by decide),hstatic .allow (by decide),
      member_empty hdyn,hd,defaultVerdict,hdeny] at hd'
    by_contra hno
    simp [not_or.mp hno] at hd'
  intro hred d
  simp only [Table.sliceVerdict,hstatic .deny (by decide),hstatic .allow (by decide),
    member_empty hdyn,defaultVerdict]
  by_cases hact : polAction pol = actionDeny
  · cases hd : t.member .dyn s d
    · simp
    · rcases hred hact d hd with hm | hm <;> simp [hm]
  · simp [hact]

end Slices

def SameFrom (k k' : Kernel) (π : Pair) : Prop :=
  ∀ p : Packet, p.src = π.1 → p.iif = π.2 → verdict k' p = verdict k p

def Undisturbed (st : Tracked) (s : Subject) (k' : Kernel) : Prop :=
  ∀ v π, v ≠ s → (st.world.inst v).isSome → st.recent v = some π → SameFrom st.world.kernel k' π

def Kept (st : Tracked) (s : Subject) : Prop :=
  (st.world.inst s).isSome → ∀ v i π, v ≠ s → st.world.inst v = some i → st.recent v = some π →
    (pairOf i.slot = π → ∀ t, st.world.kernel = some t → Redundant t v i.pol) ∧
    (pairOf i.slot ≠ π →
      st.world.routeOf π = none ∨ Silent st.world.kernel (subjectChain v))

section Verdicts

variable {U : Set Subject} {t t' : Table} {v : Subject} {π : Pair}

variable (h : WellFormed U t)

include h

theorem sameFrom_iff_fresh (h' : WellFormed U t') :
    SameFrom (some t) (some t') π ↔ ∀ p : Packet, p.src = π.1 → p.iif = π.2 → p.Fresh →
      verdict (some t') p = verdict (some t) p := by
  refine ⟨fun hsame p hsrc hiif _ => hsame p hsrc hiif,fun hsame p hsrc hiif => ?_⟩
  by_cases hest : p.established = true
  · rw [h.verdict_established hest,h'.verdict_established hest]
  rw [Bool.not_eq_true] at hest
  by_cases hdot : p.Dot
  · rw [h.verdict_dot hest hdot,h'.verdict_dot hest hdot]
  · exact hsame p hsrc hiif ⟨hest,hdot⟩

theorem WellFormed.verdict_enforced {pol : Option NetworkPolicy} (he : Enforces t v pol)
    {p : Packet} (hp : p.Fresh) (hr : route t.dispatchRules p.src p.iif = some (subjectChain v)) :
    verdict (some t) p = t.sliceVerdict v (polAction pol) p.dst :=
  some.inj ((h.verdict_routed hp hr).symm.trans (he.chainVerdict 15 p))

theorem sameFrom_recorded_iff (h' : WellFormed U t') {pol : Option NetworkPolicy}
    (he : Enforces t v pol) (he' : Enforces t' v pol) (hdyn : ∀ fam, t'.elems .dyn v fam = some [])
    (hr : route t.dispatchRules π.1 π.2 = some (subjectChain v))
    (hr' : route t'.dispatchRules π.1 π.2 = some (subjectChain v)) :
    SameFrom (some t) (some t') π ↔ Redundant t v pol := by
  rw [sameFrom_iff_fresh h h',← sliceVerdict_forgets_leases_iff he he' hdyn]
  constructor
  · intro hsame d
    let p : Packet := ⟨π.1,d,π.2,.other 0,0,false⟩
    have hp : p.Fresh := ⟨rfl,by simp [Packet.Dot,p]⟩
    have hd := hsame p rfl rfl hp
    rwa [h.verdict_enforced he hp hr,h'.verdict_enforced he' hp hr'] at hd
  · intro hsame p hsrc hiif hp
    rw [← hsrc,← hiif] at hr hr'
    rw [h.verdict_enforced he hp hr,h'.verdict_enforced he' hp hr',hsame]

theorem sameFrom_moved_iff (h' : WellFormed U t')
    (hr : ∀ c, route t.dispatchRules π.1 π.2 = some c → c = subjectChain v)
    (hr' : route t'.dispatchRules π.1 π.2 = none) : SameFrom (some t) (some t') π ↔
      route t.dispatchRules π.1 π.2 = none ∨ Silent (some t) (subjectChain v) := by
  have hdrop (p : Packet) (hsrc : p.src = π.1) (hiif : p.iif = π.2) (hp : p.Fresh) :
      verdict (some t') p = .drop := h'.verdict_unrouted hp (by rw [hsrc,hiif,hr'])
  rw [sameFrom_iff_fresh h h']
  cases hroute : route t.dispatchRules π.1 π.2 with
  | none =>
    refine iff_of_true (fun p hsrc hiif hp => ?_) (.inl rfl)
    rw [hdrop p hsrc hiif hp,h.verdict_unrouted hp (by rw [hsrc,hiif,hroute])]
  | some c =>
    rw [hr c hroute] at hroute
    rw [← dropped_iff_silent h hroute]
    constructor
    · intro hsame
      exact .inr fun p hsrc hiif hp => (hsame p hsrc hiif hp).symm.trans (hdrop p hsrc hiif hp)
    · rintro (hno | hall) p hsrc hiif hp
      · cases hno
      · rw [hdrop p hsrc hiif hp,hall p hsrc hiif hp]

end Verdicts

theorem Synced.rebuilt_sameFrom_iff {U : Set Subject} (hU : DistinctNames U) {st : Tracked}
    (h : Synced U st) {s : Subject} {order : List Subject} {frags : List Stmt}
    (hfe : order.Nodup ∧ ∀ v, v ∈ order ↔ ((st.world.forget s).inst v).isSome)
    (hb : rebuildFragment (st.world.applier.subjects.erase s) order = .ok frags) {t : Table}
    (hk : st.world.kernel = some t) {v : Subject} {i : InstalledSubject} {π : Pair} (hv : v ≠ s)
    (hi : st.world.inst v = some i) (hrec : st.recent v = some π) :
    SameFrom (some t) (some (frags.foldl Stmt.effect (headerOn .new))) π ↔
      (pairOf i.slot = π → Redundant t v i.pol) ∧
      (pairOf i.slot ≠ π → st.world.routeOf π = none ∨ Silent (some t) (subjectChain v)) := by
  obtain ⟨t',hk',hwf,-⟩ := h.standing.table
  obtain rfl : t' = t := some.inj (hk'.symm.trans hk)
  obtain ⟨hwf',hre⟩ := h.standing.rebuilt hU hfe hb
  have hold (π : Pair) : st.world.routeOf π = route t'.dispatchRules π.1 π.2 := by
    rw [World.routeOf,World.dispatchRules,hk]
    rfl
  have hnew (π : Pair) := dispatchRules_rebuilt hre st.world.applier π
  have hforget : (st.world.forget s).inst v = some i := by
    rw [World.inst_forget,if_neg hv,hi]
  have hsome : (st.world.inst v).isSome := by
    rw [hi]
    rfl
  have hmem : v ∈ order := (hfe.2 v).mpr (by rw [hforget]; rfl)
  by_cases hpair : pairOf i.slot = π
  · subst hpair
    obtain ⟨he,hdyn⟩ := hre.enforces v hmem i hforget
    rw [sameFrom_recorded_iff hwf hwf' (h.enforced.slices t' hk v i hi) he hdyn
      ((hold _).symm.trans (h.placed.recorded v i hi))
      ((hnew _).trans (h.placed.route_recorded hmem hforget))]
    exact ⟨fun hred => ⟨fun _ => hred,absurd rfl⟩,fun hred => hred.1 rfl⟩
  have hnone : route (frags.foldl Stmt.effect (headerOn .new)).dispatchRules π.1 π.2 = none := by
    refine (hnew π).trans (eq_none_iff_forall_ne_some.mpr fun c hc => ?_)
    obtain ⟨-,j,hj,hjp⟩ := h.placed.route_rebuilt hU h.standing hsome hrec hc
    obtain rfl : i = j := some.inj (hi.symm.trans hj)
    exact hpair hjp
  rw [sameFrom_moved_iff hwf hwf' (fun c hc => h.placed.current v π hsome hrec c
    ((hold π).trans hc)) hnone,hold]
  exact ⟨fun hs => ⟨fun heq => absurd heq hpair,fun _ => hs⟩,fun hs => hs.2 hpair⟩

theorem remove_undisturbed_iff {U : Set Subject} (hU : DistinctNames U) {st : Tracked}
    (h : Histories U Tidy st) {f : Faults} {s : Subject} {order : List Subject}
    (hfe : (Op.remove f s order).Feasible st.world)
    (hok : (Fleetnft.remove f st.world s order).1 = .ok ()) :
    Undisturbed st s (Fleetnft.remove f st.world s order).2.kernel ↔ Kept st s := by
  have hsync := h.synced hU
  have hchange := remove_change f st.world s order
  generalize Fleetnft.remove f st.world s order = out at hchange hok ⊢
  cases hchange with
  | removeAbsent hi =>
    refine iff_of_true (fun v π _ _ _ p _ _ => rfl) fun hs => ?_
    rw [hi] at hs
    cases hs
  | removeFailed => cases hok
  | removeLast hrest =>
    have hnone (v : Subject) (hv : v ≠ s) : st.world.inst v = none := by
      have hv' := World.inst_forget st.world s v
      rw [if_neg hv,World.inst,World.forget,hrest] at hv'
      exact hv'.symm
    refine iff_of_true (fun v π hv hsome => ?_) fun _ v i π hv hsome => ?_
    · rw [hnone v hv] at hsome
      cases hsome
    · rw [hnone v hv] at hsome
      cases hsome
  | rebuilt hi hb =>
    obtain ⟨t,hk,-⟩ := hsync.standing.table
    have hs : (st.world.inst s).isSome := isSome_iff_ne_none.mpr hi
    constructor
    · intro hsame _ v i π hv hiv hrec
      have hv' := hsame v π hv (by rw [hiv]; rfl) hrec
      rw [hk] at hv' ⊢
      obtain ⟨hlease,hmoved⟩ := (hsync.rebuilt_sameFrom_iff hU hfe hb hk hv hiv hrec).mp hv'
      refine ⟨?_,hmoved⟩
      rintro hpair _ ⟨⟩
      exact hlease hpair
    · intro hkept v π hv hsome hrec
      obtain ⟨i,hiv⟩ := isSome_iff_exists.mp hsome
      obtain ⟨hlease,hmoved⟩ := hkept hs v i π hv hiv hrec
      rw [hk] at hmoved ⊢
      exact (hsync.rebuilt_sameFrom_iff hU hfe hb hk hv hiv hrec).mpr
        ⟨fun hpair => hlease hpair t hk,hmoved⟩

theorem feasible_pair {a b : Subject} (hne : a ≠ b) {w : World} (hin : ∀ v, (w.inst v).isSome →
    v ∈ ({a, b} : Set Subject)) (ha : (w.inst a).isSome) (f : Faults) :
    (Op.remove f b [a]).Feasible w := by
  refine ⟨List.nodup_singleton a,fun v => ?_⟩
  rw [World.inst_forget,List.mem_singleton]
  constructor
  · rintro rfl
    rwa [if_neg hne]
  intro hv
  split at hv
  · cases hv
  · next hvb => exact (hin v hv).resolve_right hvb

theorem remove_undisturbed_neighbour :
    let a := fromSandboxUID "a"
    let b := fromSandboxUID "b"
    let st := ((Tracked.start ⟨⟨true,∅⟩,some (headerOn .new)⟩).after (.denyFirst ⟨none,none⟩ a
      (leasedSlot "x" .bound ⟨"a",1,1⟩ 0x0A000005 "veth-x"))).after (.denyFirst ⟨none,none⟩ b
      (leasedSlot "y" .bound ⟨"b",1,1⟩ 0x0A000006 "veth-y"))
    Undisturbed st b (Fleetnft.remove ⟨none,none⟩ st.world b [a]).2.kernel := by
  intro a b st
  let x := leasedSlot "x" .bound ⟨"a",1,1⟩ 0x0A000005 "veth-x"
  let y := leasedSlot "y" .bound ⟨"b",1,1⟩ 0x0A000006 "veth-y"
  let w₀ : World := ⟨⟨true,∅⟩,some (headerOn .new)⟩
  let o₁ : Op := .denyFirst ⟨none,none⟩ a x
  let o₂ : Op := .denyFirst ⟨none,none⟩ b y
  have hU : DistinctNames {a, b} := distinctNames_pair (by decide)
  have t₁ : Tidy (.start w₀) o₁ := by
    refine ⟨.inr ?_,?_,fun v _ hv => ?_⟩
    · rintro _ ⟨⟩
      decide +kernel
    · exact nofun
    · cases hv
  have h₁ : Histories {a, b} Tidy ((Tracked.start w₀).after o₁) :=
    Histories.after (.start ⟨w₀,started_header,rfl⟩) o₁ (.inl rfl) t₁ trivial
  have k₁ : (((Tracked.start w₀).after o₁).world.kernel.bind fun t => t.chains (subjectChain b)) =
      none := by decide +kernel
  have r₁ : ((Tracked.start w₀).after o₁).world.routeOf (pairOf y) = none := by decide +kernel
  have p₁ : ((Tracked.start w₀).after o₁).recent a = some (pairOf x) := by decide +kernel
  have t₂ : Tidy ((Tracked.start w₀).after o₁) o₂ := by
    refine ⟨.inr fun t ht => ?_,fun c hc => ?_,fun v hv hi => ?_⟩
    · rw [ht] at k₁
      exact k₁
    · rw [r₁] at hc
      cases hc
    · obtain rfl := (h₁.reached.mem hU hi).resolve_right hv
      rw [p₁]
      decide +kernel
  have h₂ : Histories {a, b} Tidy st := h₁.after o₂ (.inr rfl) t₂ trivial
  have ha : st.world.inst a = some ⟨x,none⟩ := by decide +kernel
  have hrec : st.recent a = some (pairOf x) := by decide +kernel
  have hdyn (fam : Family) : st.world.kernel.bind (fun t => t.elems .dyn a fam) = some [] := by
    cases fam <;> decide +kernel
  have hok : (Fleetnft.remove ⟨none,none⟩ st.world b [a]).1 = .ok () := by decide +kernel
  have hfe := feasible_pair (by decide) (fun v => h₂.reached.mem hU) (by rw [ha]; rfl) ⟨none,none⟩
  refine (remove_undisturbed_iff hU h₂ hfe hok).mpr fun _ v i π hv hi hπ => ?_
  obtain rfl := (h₂.reached.mem hU (by rw [hi]; rfl)).resolve_right hv
  rw [ha] at hi
  rw [hrec] at hπ
  cases hi
  cases hπ
  refine ⟨fun _ t ht _ d hd => ?_,absurd rfl⟩
  rw [ht] at hdyn
  rw [member_empty hdyn] at hd
  cases hd

theorem remove_forgets_neighbour_lease :
    ¬ ∀ U, DistinctNames U → ∀ st, Histories U (fun _ _ => True) st → ∀ s f order,
      (Op.remove f s order).Feasible st.world →
        (Fleetnft.remove f st.world s order).1 = .ok () →
          Undisturbed st s (Fleetnft.remove f st.world s order).2.kernel := by
  intro hall
  let a := fromSandboxUID "a"
  let b := fromSandboxUID "b"
  let x := leasedSlot "x" .bound ⟨"a",1,1⟩ 0x0A000005 "veth-x"
  let y := leasedSlot "y" .bound ⟨"b",1,1⟩ 0x0A000006 "veth-y"
  let o₁ : Op := .denyFirst ⟨none,none⟩ a x
  let o₂ : Op := .denyFirst ⟨none,none⟩ b y
  let o₃ : Op := .resolved none a [⟨.v4 0x08080808,60000000000⟩]
  let w₀ : World := ⟨⟨true,∅⟩,some (headerOn .new)⟩
  let st := (((Tracked.start w₀).after o₁).after o₂).after o₃
  let p : Packet := ⟨x.ip,.v4 0x08080808,"veth-x",.tcp,443,false⟩
  have hU : DistinctNames {a, b} := distinctNames_pair (by decide)
  have h₁ : Histories {a, b} (fun _ _ => True) ((Tracked.start w₀).after o₁) :=
    Histories.after (.start ⟨w₀,started_header,rfl⟩) o₁ (.inl rfl) trivial trivial
  have h₂ := h₁.after o₂ (.inr rfl) trivial trivial
  have h₃ : Histories {a, b} (fun _ _ => True) st := h₂.after o₃ (.inl rfl) trivial trivial
  have ha : (st.world.inst a).isSome := by decide +kernel
  have hrec : st.recent a = some (pairOf x) := by decide +kernel
  have hok : (Fleetnft.remove ⟨none,none⟩ st.world b [a]).1 = .ok () := by decide +kernel
  have hbefore : verdict st.world.kernel p = .accept := by decide +kernel
  have hafter : verdict (Fleetnft.remove ⟨none,none⟩ st.world b [a]).2.kernel p = .drop := by
    decide +kernel
  have hfe := feasible_pair (by decide) (fun v => h₃.reached.mem hU) ha ⟨none,none⟩
  have hkept := hall _ hU st h₃ b ⟨none,none⟩ [a] hfe hok
  have hsame := hkept a (pairOf x) (by decide) ha hrec p rfl rfl
  rw [hbefore,hafter] at hsame
  cases hsame

end OpenSandbox.Fleetnft
