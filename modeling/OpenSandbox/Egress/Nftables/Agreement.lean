import OpenSandbox.Egress.Nftables.Meaning
import OpenSandbox.Egress.Fleetnft.Routing
import OpenSandbox.Egress.PolicyEval

namespace OpenSandbox.Fleetnft

open Netip Policy Slots Registry Ruleset

structure Ready (t : Table) (s : Subject) : Prop where
  present : Present t s
  unlearned : ∀ fam, t.elems .dyn s fam = some []

def swapped (t : Table) (s : Subject) (pol : NetworkPolicy) : Except Err Table :=
  (writeSubjectPolicySwapFragment s pol).map fun frag => frag.foldl Stmt.effect t

theorem writeSetElements_ok {elems : List Element} (h : ∀ e ∈ elems, e.Valid) (set : String) :
    ∃ frag, writeSetElements set elems = .ok frag := by
  obtain ⟨ps,hps,_⟩ := normalizeIntervalSet_covers h
  unfold writeSetElements
  split
  · exact ⟨_,rfl⟩
  · rw [hps]
    cases ps with
    | nil | cons p ps => exact ⟨_,rfl⟩

theorem writeStaticElements_ok {pol : NetworkPolicy} (hp : Canonical pol) (s : Subject) :
    ∃ frag, writeStaticElements s pol = .ok frag := by
  have hset (set : String) (allow : Bool) (family : Element → Bool) :=
    writeSetElements_ok (bucket_valid hp.validRules allow family) set
  obtain ⟨f₁,h₁⟩ := hset (allowSetName s .v4) true Element.is4
  obtain ⟨f₂,h₂⟩ := hset (allowSetName s .v6) true Element.is6
  obtain ⟨f₃,h₃⟩ := hset (denySetName s .v4) false Element.is4
  obtain ⟨f₄,h₄⟩ := hset (denySetName s .v6) false Element.is6
  refine ⟨f₁ ++ f₂ ++ f₃ ++ f₄,?_⟩
  simp only [writeStaticElements,NetworkPolicy.staticIPSets,h₁,h₂,h₃,h₄]
  rfl

theorem walk_verdictRules (holds : Cond → Bool) (call : String → Option Verdict) (s : Subject)
    (action : String) (hlast : holds .always = true) :
    walk holds call (verdictRules s action) =
      some (if holds (.daddr .v4 (denySetName s .v4)) || holds (.daddr .v6 (denySetName s .v6)) then
          .drop
        else if (holds (.daddr .v4 (dynSetName s .v4)) || holds (.daddr .v6 (dynSetName s .v6))) ||
          (holds (.daddr .v4 (allowSetName s .v4)) || holds (.daddr .v6 (allowSetName s .v6))) then
          .accept
        else defaultVerdict action) := by
  simp only [verdictRules,walk,Target.outcome,hlast]
  cases holds (.daddr .v4 (denySetName s .v4)) <;> cases holds (.daddr .v6 (denySetName s .v6)) <;>
    cases holds (.daddr .v4 (dynSetName s .v4)) <;>
    cases holds (.daddr .v6 (dynSetName s .v6)) <;>
    cases holds (.daddr .v4 (allowSetName s .v4)) <;>
    cases holds (.daddr .v6 (allowSetName s .v6)) <;> rfl

theorem inSet_hits {t : Table} {s : Subject} {kind : SetKind} {elems : Family → List SetElem}
    (h : ∀ fam, t.elems kind s fam = some (elems fam)) {p : Packet} {fam : Family}
    (hfam : ∀ hit : Family → Bool,
      (Family.v4.carries p.dst && hit .v4 || Family.v6.carries p.dst && hit .v6) = hit fam) :
    (Cond.holds t.sets p (.daddr .v4 (setName kind s .v4)) ||
        Cond.holds t.sets p (.daddr .v6 (setName kind s .v6))) =
      (elems fam).any (·.covers p.dst) := by
  rw [← hfam fun f => (elems f).any (·.covers p.dst)]
  simp only [Cond.holds,inSet_elems,h,Option.any_some]

theorem swapped_verdict {t : Table} {s : Subject} (ht : Ready t s) {pol : NetworkPolicy}
    (hp : Canonical pol) {pkt : Packet} (hpkt : plainAddr pkt.dst = true) :
    ∃ t' v, swapped t s pol = .ok t' ∧ t'.chainVerdict jumpDepth (subjectChain s) pkt = some v ∧
      (pol.Denies pkt.dst → v = .drop) ∧
      (¬ pol.Denies pkt.dst → pol.Allows pkt.dst → v = .accept) ∧
      (¬ pol.Denies pkt.dst → ¬ pol.Allows pkt.dst → v = defaultVerdict pol.defaultAction) := by
  obtain ⟨elems,helems⟩ := writeStaticElements_ok hp s
  have hfrag : ∃ frag, writeSubjectPolicySwapFragment s pol = .ok frag := by
    rw [writeSubjectPolicySwapFragment,helems]
    exact ⟨_,rfl⟩
  obtain ⟨frag,hfrag⟩ := hfrag
  have hacts := acts_swapFragment hfrag
  obtain ⟨rules,hchain,_⟩ := ht.present.chain
  have hchain' : (frag.foldl Stmt.effect t).chains (subjectChain s) =
      some (verdictRules s pol.defaultAction) := by
    simp [hacts.chains,onChain,hchain]
  have hstatic (kind : SetKind) (hkind : kind ≠ .dyn) (fam : Family) :
      (frag.foldl Stmt.effect t).elems kind s fam = some (staticElems pol kind fam) := by
    obtain ⟨es,hes⟩ := Option.isSome_iff_exists.mp (ht.present.sets kind fam)
    simp [hacts.elems,hkind,hes]
  have hdyn (fam : Family) : (frag.foldl Stmt.effect t).elems .dyn s fam = some [] := by
    simp [hacts.elems,ht.unlearned fam]
  obtain ⟨fam,hcarries,hfam⟩ := hits_family hpkt
  refine ⟨frag.foldl Stmt.effect t,_,by rw [swapped,hfrag]; rfl,
    (chainVerdict_eq hchain' (shaped_verdictRules s _) 15 pkt fun _ => none).trans
      (walk_verdictRules _ _ s _ rfl),?_⟩
  rw [denySetName,dynSetName,allowSetName,inSet_hits (hstatic .deny (by decide)) hfam,
    inSet_hits hdyn hfam,inSet_hits (hstatic .allow (by decide)) hfam,
    ← staticElems_deny hp hcarries,← staticElems_allow hp hcarries]
  refine ⟨?_,?_,?_⟩
  · intro h
    rw [if_pos h]
  · intro hd ha
    rw [if_neg hd,if_pos (by simp [ha])]
  · intro hd ha
    rw [if_neg hd,if_neg (by simpa using ha)]

end OpenSandbox.Fleetnft

namespace OpenSandbox.Nftables

open Netip Policy Slots Registry Ruleset Fleetnft

structure OutPacket.Neutral (p : OutPacket) : Prop where
  fresh : p.established = false
  unmarked : p.mark ≠ markValue
  nonLoopback : p.oif ≠ "lo"
  port : p.dport ∉ [53,443,853,15353]
  plain : plainAddr p.dst = true

theorem OutPacket.Neutral.subject {p : OutPacket} (h : p.Neutral) (opts : Options) :
    p.Subject opts := by
  have hport := h.port
  simp only [List.mem_cons,List.not_mem_nil,or_false,not_or] at hport
  exact ⟨h.fresh,h.unmarked,h.nonLoopback,fun _ => hport.2.2.1,fun _ => hport.2.1,
    hport.2.2.2,h.plain⟩

def VerdictsAgree (p : NetworkPolicy) (opts : Options) (t : Table) (s : Subject) : Prop :=
  ∀ (out : OutPacket) (fwd : Packet), out.Neutral → fwd.dst = out.dst →
    ∃ k t', applied p opts [] none = .ok k ∧ swapped t s p = .ok t' ∧
      t'.chainVerdict jumpDepth (subjectChain s) fwd = some (outVerdict k out)

def InNoRule (p : NetworkPolicy) (a : Addr) : Prop := ∀ r ∈ p.egress, r.covers a = false

def FailsClosed (p : NetworkPolicy) (opts : Options) : Prop :=
  ∀ domain, p.MatchesNoRule domain → ∀ out : OutPacket, out.Neutral → InNoRule p out.dst →
    ∃ k, applied p opts [] none = .ok k ∧
      (outVerdict k out = .drop → p.evaluate domain = actionDeny)

variable {p : NetworkPolicy}

theorem InNoRule.not_denies {a : Addr} (h : InNoRule p a) : ¬ p.Denies a ∧ ¬ p.Allows a := by
  refine ⟨?_,?_⟩
  · rintro ⟨r,hr,_,hc⟩
    rw [h r hr] at hc
    cases hc
  · rintro ⟨r,hr,_,hc⟩
    rw [h r hr] at hc
    cases hc

theorem Canonical.covered (hp : Canonical p) {a : Addr} (h : ¬ InNoRule p a) :
    p.Denies a ∨ p.Allows a := by
  simp only [InNoRule,not_forall,Bool.not_eq_false] at h
  obtain ⟨r,hr,hc⟩ := h
  rcases Fleetnft.Canonical.action hp hr with ha | hd
  · exact .inr ⟨r,hr,ha,hc⟩
  · exact .inl ⟨r,hr,hd,hc⟩

theorem agree_iff (hp : Canonical p) {opts : Options} (ho : opts.Valid) {t : Table} {s : Subject}
    (ht : Ready t s) :
    VerdictsAgree p opts t s ↔ (p.defaultAction = actionAllow ∨ p.defaultAction = actionDeny) ∨
      ∀ a, plainAddr a = true → ¬ InNoRule p a := by
  obtain ⟨tk,els,hk,hloaded⟩ := applied_loaded hp ho [] none
  constructor
  · intro h
    by_contra hno
    simp only [not_or,not_forall,not_not] at hno
    obtain ⟨⟨hna,hnd⟩,a,hplain,huncovered⟩ := hno
    let out : OutPacket := ⟨a,.tcp,80,false,0,"eth0"⟩
    let fwd : Packet := ⟨.invalid,a,"",.tcp,80,false⟩
    have hout : out.Neutral := ⟨rfl,by simp [out,markValue],by simp [out],by simp [out],hplain⟩
    obtain ⟨hd,ha⟩ := huncovered.not_denies
    obtain ⟨k,t',hk',ht',hv⟩ := h out fwd hout rfl
    have hfwd : plainAddr fwd.dst = true := hplain
    obtain ⟨t'',v,hs,hsv,_,_,hdef⟩ := swapped_verdict ht hp hfwd
    have hside := (hloaded.verdict_eq hp (hout.subject opts)).2.2 hd (by simp) ha
    rw [hk] at hk'
    cases hk'
    rw [hs] at ht'
    cases ht'
    rw [hsv] at hv
    have hveq := Option.some.inj hv
    rw [hdef hd ha] at hveq
    have hbad := hside.symm.trans hveq.symm
    rw [chainPolicy,if_neg hna,defaultVerdict,if_neg hnd] at hbad
    cases hbad
  intro h out fwd hout hdst
  have hplain : plainAddr fwd.dst = true := by
    rw [hdst]
    exact hout.plain
  obtain ⟨t',v,hs,hsv,hdrop,haccept,hdef⟩ := swapped_verdict ht hp hplain
  obtain ⟨hdrop',haccept',hdef'⟩ := hloaded.verdict_eq hp (hout.subject opts)
  refine ⟨some tk,t',hk,hs,?_⟩
  rw [hsv]
  congr 1
  rw [hdst] at hdrop haccept hdef
  change v = tk.verdict out
  by_cases hd : p.Denies out.dst
  · rw [hdrop hd,hdrop' hd]
  by_cases ha : p.Allows out.dst
  · rw [haccept hd ha,haccept' hd (.inr ha)]
  rw [hdef hd ha,hdef' hd (by simp) ha]
  rcases h with h | h
  · rcases h with h | h <;> rw [h] <;> decide
  · rcases Canonical.covered hp (h out.dst hout.plain) with hc | hc
    · exact absurd hc hd
    · exact absurd hc ha

theorem enforcement_agreement_iff {raw : String} {p : NetworkPolicy}
    (h : parsePolicy raw = .ok p) {opts : Options} (ho : opts.Valid) {t : Table} {s : Subject}
    (ht : Ready t s) :
    VerdictsAgree p opts t s ∧ FailsClosed p opts ↔
      (p.defaultAction = actionAllow ∨ p.defaultAction = actionDeny) ∨
        ∀ a, plainAddr a = true → ∃ r ∈ p.egress, r.covers a = true := by
  have hp := canonical_of_parsePolicy h
  obtain ⟨tk,els,hk,hloaded⟩ := applied_loaded hp ho [] none
  have hcover (a : Addr) : ¬ InNoRule p a ↔ ∃ r ∈ p.egress, r.covers a = true := by
    simp [InNoRule]
  simp only [← hcover]
  constructor
  · exact fun hagree => (agree_iff hp ho ht).mp hagree.1
  intro hcond
  refine ⟨(agree_iff hp ho ht).mpr hcond,?_⟩
  intro domain hdomain out hout huncovered
  refine ⟨some tk,hk,fun hdrop => ?_⟩
  obtain ⟨hd,ha⟩ := huncovered.not_denies
  have hside := (hloaded.verdict_eq hp (hout.subject opts)).2.2 hd (by simp) ha
  rw [evaluate_default hp hdomain]
  rcases hcond with (hallow | hdeny) | hall
  · have hpol : chainPolicy p.defaultAction = .drop := hside.symm.trans hdrop
    rw [hallow] at hpol
    cases hpol
  · exact hdeny
  · exact absurd huncovered (hall out.dst hout.plain)

def bareTable : Table := ⟨none,fun _ => some [⟨.always,.verdict .drop⟩],
  fun _ => some ⟨.v4,.interval,[]⟩⟩

theorem ready_bareTable (s : Subject) : Ready bareTable s := by
  refine ⟨⟨⟨_,rfl,?_,?_,?_⟩,fun kind fam => rfl⟩,fun fam => rfl⟩
  · simp [OwnCond]
  · exact List.forall_mem_singleton.mpr ⟨_,rfl⟩
  · simp

def blockText : String := "\x7b\"defaultAction\":\"block\"\x7d"

def blockPolicy : NetworkPolicy := ⟨[],"block",some (compileDomainIndex [])⟩

theorem enforcement_agreement_mixed : parsePolicy mixedText = .ok mixedPolicy ∧
      (VerdictsAgree mixedPolicy (parseNftOptions "" "") bareTable ⟨"s"⟩ ∧
          FailsClosed mixedPolicy (parseNftOptions "" "") ↔
        (mixedPolicy.defaultAction = actionAllow ∨ mixedPolicy.defaultAction = actionDeny) ∨
          ∀ a, plainAddr a = true → ∃ r ∈ mixedPolicy.egress, r.covers a = true) := by
  have hraw : parsePolicy mixedText = .ok mixedPolicy := by decide +kernel
  exact ⟨hraw,enforcement_agreement_iff hraw (parseNftOptions_valid _ _) (ready_bareTable _)⟩

theorem enforcement_disagrees_block : parsePolicy blockText = .ok blockPolicy ∧
      (applied blockPolicy (parseNftOptions "" "") [] none).map
        (fun k => outVerdict k (probe (.v4 0x08080808#32))) = .ok .drop ∧
      (swapped bareTable ⟨"s"⟩ blockPolicy).map
        (fun t => t.chainVerdict jumpDepth (subjectChain ⟨"s"⟩)
          ⟨.v4 0x0a000002#32,.v4 0x08080808#32,"veth0",.tcp,80,false⟩) =
        .ok (some .accept) ∧
      (probe (.v4 0x08080808#32)).Neutral ∧ InNoRule blockPolicy (.v4 0x08080808#32) ∧
      blockPolicy.MatchesNoRule "example.com" ∧ blockPolicy.evaluate "example.com" = "block" := by
  refine ⟨by decide +kernel,by decide +kernel,by decide +kernel,?_,?_,?_,by decide +kernel⟩
  · exact ⟨rfl,by decide,by decide,by decide,rfl⟩
  · exact nofun
  · exact nofun

end OpenSandbox.Nftables
