import OpenSandbox.Egress.Fleetnft.Slice

namespace OpenSandbox.Fleetnft

open Netip Policy Slots Registry Ruleset List Option

def ruleRoute (ip : Addr) (veth : String) (r : NftRule) : Option String :=
  match r.cond, r.target with
  | .source a v, .jump c => if a = ip ∧ v = veth then some c else none
  | _, _ => none

def route (rules : List NftRule) (ip : Addr) (veth : String) : Option String :=
  rules.findSome? (ruleRoute ip veth)

theorem route_cons (r : NftRule) (rules : List NftRule) (ip : Addr) (veth : String) :
    route (r :: rules) ip veth = (ruleRoute ip veth r).or (route rules ip veth) := by
  rw [route,findSome?_cons]
  cases ruleRoute ip veth r <;> rfl

theorem route_append (rs us : List NftRule) (ip : Addr) (veth : String) :
    route (rs ++ us) ip veth = (route rs ip veth).or (route us ip veth) := findSome?_append

theorem route_dispatchRule (s : Subject) (slot : Slot) (ip : Addr) (veth : String) :
    route [dispatchRule s slot] ip veth =
      if slot.ip = ip ∧ slot.hostVeth = veth then some (subjectChain s) else none := by
  by_cases h : slot.ip = ip ∧ slot.hostVeth = veth <;> simp [route,ruleRoute,dispatchRule,h]

def DispatchRule (r : NftRule) : Prop :=
  r ∈ headerRules ∨ ∃ ip veth c, r = ⟨.source ip veth,.jump c⟩

def Packet.Dot (p : Packet) : Prop := p.dport = 853 ∧ (p.proto = .tcp ∨ p.proto = .udp)

structure Packet.Fresh (p : Packet) : Prop where
  new : p.established = false
  dot : ¬ p.Dot

variable {p : Packet}

theorem header_misses (hp : p.Fresh) (sets : String → Option NftSet) {r : NftRule}
    (hr : r ∈ headerRules) : r.cond.holds sets p = false := by
  have hdot := hp.dot
  simp only [headerRules,mem_cons,not_mem_nil,or_false] at hr
  rcases hr with rfl | rfl | rfl
  · exact hp.new
  · simp only [Packet.Dot,not_and,not_or] at hdot
    simp only [Cond.holds,Bool.and_eq_false_iff,decide_eq_false_iff_not]
    by_cases h : p.dport = 853
    · exact .inl (hdot h).1
    · exact .inr h
  · simp only [Packet.Dot,not_and,not_or] at hdot
    simp only [Cond.holds,Bool.and_eq_false_iff,decide_eq_false_iff_not]
    by_cases h : p.dport = 853
    · exact .inl (hdot h).2
    · exact .inr h

variable {rules : List NftRule}

theorem find_eq_route (h : ∀ r ∈ rules, DispatchRule r) (hp : p.Fresh)
    (sets : String → Option NftSet) :
    rules.find? (fun r => r.cond.holds sets p) =
      (route rules p.src p.iif).map fun c => ⟨.source p.src p.iif,.jump c⟩ := by
  induction rules with
  | nil => rfl
  | cons r rules ih =>
    have ih := ih fun u hu => h u (by simp [hu])
    rw [find?_cons,ih,route_cons]
    rcases h r (by simp) with hr | ⟨ip,veth,c,rfl⟩
    · have hn : ruleRoute p.src p.iif r = none := by
        simp only [headerRules,mem_cons,not_mem_nil,or_false] at hr
        rcases hr with rfl | rfl | rfl <;> rfl
      rw [header_misses hp sets hr,hn]
      rfl
    by_cases hm : p.src = ip ∧ p.iif = veth
    · obtain ⟨rfl,rfl⟩ := hm
      simp [Cond.holds,ruleRoute]
    have hf : Cond.holds sets p (.source ip veth) = false := by
      simpa [Cond.holds] using hm
    have hn : ruleRoute p.src p.iif ⟨.source ip veth,.jump c⟩ = none := by
      simp only [ruleRoute,ite_eq_right_iff,reduceCtorEq,imp_false]
      rintro ⟨rfl,rfl⟩
      exact hm ⟨rfl,rfl⟩
    rw [hf,hn]
    rfl

def OwnCond (s : Subject) (c : Cond) : Prop :=
  c = .always ∨ ∃ kind fam, c = .daddr fam (setName kind s fam)

structure Shaped (s : Subject) (rules : List NftRule) : Prop where
  own : ∀ r ∈ rules, OwnCond s r.cond
  plain : Plain rules
  final : ∃ r ∈ rules, r.cond = .always

theorem shaped_verdictRules (s : Subject) (action : String) : Shaped s (verdictRules s action) := by
  refine ⟨fun r hr => ?_,fun r hr => ?_,⟨⟨.always,_⟩,mem_of_getLast? rfl,rfl⟩⟩
  · simp only [verdictRules,mem_cons,not_mem_nil,or_false] at hr
    rcases hr with rfl | rfl | rfl | rfl | rfl | rfl | rfl
    · exact .inr ⟨.deny,.v4,rfl⟩
    · exact .inr ⟨.deny,.v6,rfl⟩
    · exact .inr ⟨.dyn,.v4,rfl⟩
    · exact .inr ⟨.dyn,.v6,rfl⟩
    · exact .inr ⟨.allow,.v4,rfl⟩
    · exact .inr ⟨.allow,.v6,rfl⟩
    · exact .inl rfl
  · simp only [verdictRules,mem_cons,not_mem_nil,or_false] at hr
    rcases hr with rfl | rfl | rfl | rfl | rfl | rfl | rfl <;> exact ⟨_,rfl⟩

variable {s : Subject}

theorem Shaped.append {rs us : List NftRule} (hr : Shaped s rs) (hu : Shaped s us) :
    Shaped s (rs ++ us) := by
  obtain ⟨r,hmem,hfin⟩ := hr.final
  refine ⟨fun r h => ?_,fun r h => ?_,r,mem_append_left _ hmem,hfin⟩
  · exact (mem_append.mp h).elim (hr.own r) (hu.own r)
  · exact (mem_append.mp h).elim (hr.plain r) (hu.plain r)

theorem Shaped.decisive (h : Shaped s rules) (sets : String → Option NftSet) (p : Packet) :
    Decisive (Cond.holds sets p) rules := by
  obtain ⟨r,hr,hc⟩ := h.final
  exact ⟨r,hr,by rw [hc]; rfl,h.plain r hr⟩

theorem inSet_elems (t : Table) (kind : SetKind) (s : Subject) (fam : Family) (a : Addr) :
    inSet t.sets (setName kind s fam) a =
      (t.elems kind s fam).any fun es => es.any (·.covers a) := by
  unfold inSet Table.elems
  cases t.sets (setName kind s fam) <;> rfl

variable {t t' : Table}

theorem OwnCond.holds_congr {c : Cond} (h : OwnCond s c)
    (he : ∀ kind fam, t'.elems kind s fam = t.elems kind s fam) {p' : Packet}
    (hp : p'.dst = p.dst) : c.holds t'.sets p' = c.holds t.sets p := by
  rcases h with rfl | ⟨kind,fam,rfl⟩
  · rfl
  · simp only [Cond.holds,inSet_elems,he,hp]

structure Present (t : Table) (s : Subject) : Prop where
  chain : ∃ rules, t.chains (subjectChain s) = some rules ∧ Shaped s rules
  sets : ∀ kind fam, (t.elems kind s fam).isSome

structure Absent (t : Table) (s : Subject) : Prop where
  chain : t.chains (subjectChain s) = none
  sets : ∀ kind fam, t.elems kind s fam = none

theorem SameSlice.elems (h : SameSlice t t' s) (kind : SetKind) (fam : Family) :
    t'.elems kind s fam = t.elems kind s fam := by
  rw [Table.elems,h.sets]
  rfl

theorem SameSlice.present (h : SameSlice t t' s) (hp : Present t s) :
    Present t' s := ⟨h.chain ▸ hp.chain,fun kind fam => h.elems kind fam ▸ hp.sets kind fam⟩

theorem SameSlice.absent (h : SameSlice t t' s) (ha : Absent t s) : Absent t' s :=
  ⟨h.chain.trans ha.chain,fun kind fam => (h.elems kind fam).trans (ha.sets kind fam)⟩

theorem chainVerdict_eq (hc : t.chains (subjectChain s) = some rules) (hr : Shaped s rules)
    (depth : Nat) (p : Packet) (call : String → Option Verdict) :
    t.chainVerdict (depth + 1) (subjectChain s) p = walk (Cond.holds t.sets p) call rules := by
  rw [Table.chainVerdict,eval,hc]
  exact hr.plain.walk_call

theorem Present.chainVerdict_isSome (h : Present t s) (depth : Nat) (p : Packet) :
    (t.chainVerdict (depth + 1) (subjectChain s) p).isSome := by
  obtain ⟨rules,hc,hr⟩ := h.chain
  rw [chainVerdict_eq hc hr depth p fun _ => none]
  exact (hr.decisive t.sets p).walk_isSome

theorem Present.chainVerdict_congr (h : Present t s)
    (hc : ∃ more, t'.chains (subjectChain s) = (t.chains (subjectChain s)).map (· ++ more) ∧
      (more = [] ∨ Shaped s more)) (he : ∀ kind fam, t'.elems kind s fam = t.elems kind s fam)
    (depth : Nat) {p' : Packet} (hp : p'.dst = p.dst) :
    t'.chainVerdict (depth + 1) (subjectChain s) p' =
      t.chainVerdict (depth + 1) (subjectChain s) p := by
  obtain ⟨rules,hrules,hr⟩ := h.chain
  obtain ⟨more,hmore,hshape⟩ := hc
  rw [hrules,map_some] at hmore
  have hr' : Shaped s (rules ++ more) := by
    rcases hshape with rfl | hs
    · rwa [append_nil]
    · exact hr.append hs
  rw [chainVerdict_eq hrules hr depth p fun _ => none,
    chainVerdict_eq hmore hr' depth p' fun _ => none,(hr.decisive t'.sets p').walk_append]
  exact walk_congr (fun r hmem => (hr.own r hmem).holds_congr he hp) fun _ _ => rfl

def SourceRule (U : Set Subject) (t : Table) (r : NftRule) : Prop :=
  ∃ ip veth, ∃ s ∈ U, r = ⟨.source ip veth,.jump (subjectChain s)⟩ ∧ Present t s

structure WellFormed (U : Set Subject) (t : Table) : Prop where
  base : t.base = some dispatchChain
  dispatch : ∃ rest, t.chains dispatchChain = some (headerRules ++ rest) ∧
    ∀ r ∈ rest, r ∈ headerRules ∨ SourceRule U t r
  slices : ∀ s ∈ U, Absent t s ∨ Present t s

def Table.dispatchRules (t : Table) : List NftRule := (t.chains dispatchChain).getD []

section WellFormed

variable {U : Set Subject} {t : Table}

variable (h : WellFormed U t)

include h

theorem WellFormed.dispatchRule_cases {r : NftRule}
    (hr : r ∈ t.dispatchRules) : r ∈ headerRules ∨ SourceRule U t r := by
  obtain ⟨rest,hc,hrest⟩ := h.dispatch
  rw [Table.dispatchRules,hc] at hr
  exact (mem_append.mp hr).elim .inl (hrest r)

theorem WellFormed.dispatchRules_shape : ∀ r ∈ t.dispatchRules, DispatchRule r := by
  intro r hr
  rcases h.dispatchRule_cases hr with hr | ⟨ip,veth,s,-,rfl,-⟩
  · exact .inl hr
  · exact .inr ⟨ip,veth,_,rfl⟩

theorem WellFormed.route_subject {ip : Addr} {veth c : String}
    (hr : route t.dispatchRules ip veth = some c) : ∃ s ∈ U, c = subjectChain s ∧ Present t s := by
  obtain ⟨r,hmem,hrr⟩ := exists_of_findSome?_eq_some hr
  rcases h.dispatchRule_cases hmem with hh | ⟨ip',veth',s,hs,rfl,hp⟩
  · simp only [headerRules,mem_cons,not_mem_nil,or_false] at hh
    rcases hh with rfl | rfl | rfl <;> cases hrr
  simp only [ruleRoute] at hrr
  split_ifs at hrr
  cases hrr
  exact ⟨s,hs,rfl,hp⟩

theorem WellFormed.verdict_eq (p : Packet) : verdict (some t) p =
      (walk (Cond.holds t.sets p) (fun c => t.chainVerdict 15 c p) t.dispatchRules).getD .drop := by
  simp only [verdict,bind_some,h.base]
  rfl

variable {p : Packet}

theorem WellFormed.find_header {r : NftRule}
    (hr : headerRules.find? (fun r => r.cond.holds t.sets p) = some r) {v : Verdict}
    (hv : r.target = .verdict v) : verdict (some t) p = v := by
  obtain ⟨rest,hc,-⟩ := h.dispatch
  have hfind : t.dispatchRules.find? (fun r => r.cond.holds t.sets p) = some r := by
    rw [Table.dispatchRules,hc,getD_some,find?_append,hr]
    rfl
  rw [h.verdict_eq,walk_find_some hfind (v := v) (by rw [hv]; rfl)]
  rfl

theorem WellFormed.verdict_established (hp : p.established = true) :
    verdict (some t) p = .accept := by
  refine h.find_header (r := ⟨.established,.verdict .accept⟩) ?_ rfl
  exact find?_cons_of_pos hp

theorem WellFormed.verdict_dot (hn : p.established = false) (hp : p.Dot) :
    verdict (some t) p = .drop := by
  obtain ⟨hport,hproto | hproto⟩ := hp
  · refine h.find_header (r := ⟨.dport .tcp 853,.verdict .drop⟩) ?_ rfl
    simp [headerRules,Cond.holds,hn,hport,hproto]
  · refine h.find_header (r := ⟨.dport .udp 853,.verdict .drop⟩) ?_ rfl
    simp [headerRules,Cond.holds,hn,hport,hproto]

theorem WellFormed.verdict_unrouted (hp : p.Fresh)
    (hr : route t.dispatchRules p.src p.iif = none) : verdict (some t) p = .drop := by
  have hfind := find_eq_route h.dispatchRules_shape hp t.sets
  rw [hr] at hfind
  rw [h.verdict_eq,walk_find_none hfind]
  rfl

theorem WellFormed.verdict_routed (hp : p.Fresh) {c : String}
    (hr : route t.dispatchRules p.src p.iif = some c) :
    t.chainVerdict jumpDepth c p = some (verdict (some t) p) := by
  have hfind := find_eq_route h.dispatchRules_shape hp t.sets
  rw [hr] at hfind
  obtain ⟨s,-,rfl,hs⟩ := h.route_subject hr
  obtain ⟨v,hv⟩ := isSome_iff_exists.mp (hs.chainVerdict_isSome 14 p)
  have hout :
      Target.outcome (fun c => t.chainVerdict 15 c p) (.jump (subjectChain s)) = some v := hv
  rw [h.verdict_eq,walk_find_some hfind hout]
  obtain ⟨rules,hc,hr⟩ := hs.chain
  exact ((chainVerdict_eq hc hr 15 p fun _ => none).trans
    (chainVerdict_eq hc hr 14 p fun _ => none).symm).trans hv

end WellFormed

end OpenSandbox.Fleetnft
