import OpenSandbox.Egress.Nftables.Manager
import OpenSandbox.Egress.Fleetnft.Slice

namespace OpenSandbox.Policy

open Netip

def NetworkPolicy.Denies (p : NetworkPolicy) (a : Addr) : Prop :=
  ∃ r ∈ p.egress, r.action = actionDeny ∧ r.covers a = true

def NetworkPolicy.Allows (p : NetworkPolicy) (a : Addr) : Prop :=
  ∃ r ∈ p.egress, r.action = actionAllow ∧ r.covers a = true

end OpenSandbox.Policy

namespace OpenSandbox.Fleetnft

open Netip Policy

theorem netElems_covers {elems : List Element} (h : ∀ e ∈ elems, e.Valid) (a : Addr) :
    (netElems elems).any (·.covers a) = true ↔ ∃ e ∈ elems, e.covers a = true := by
  obtain ⟨ps,hps,hcov⟩ := normalizeIntervalSet_covers h
  rw [netElems,hps,← hcov a,List.any_eq_true]
  simp [Except.toOption,SetElem.covers]

variable {a : Addr}

theorem netElems_bucket {egress : List EgressRule} (h : ValidRules egress) (allow : Bool)
    {family : Element → Bool} (hf : ∀ e : Element, e.Valid → e.covers a = true → family e = true) :
    (netElems (bucket egress allow family)).any (·.covers a) = true ↔
      ∃ r ∈ egress, decide (r.action = actionAllow) = allow ∧ r.covers a = true := by
  rw [netElems_covers (bucket_valid h allow family),bucket_covers h allow hf]

variable {fam : Family}

theorem covers_carries (ha : fam.carries a = true) (e : Element) (he : e.Valid)
    (h : e.covers a = true) : (match fam with | .v4 => e.is4 | .v6 => e.is6) = true := by
  obtain ⟨h4,h6⟩ := Element.covers_family he h
  cases fam with
  | v4 => rw [h4]; exact ha
  | v6 => rw [h6]; exact ha

variable {p : NetworkPolicy}

theorem Canonical.action (h : Canonical p) {r : EgressRule} (hr : r ∈ p.egress) :
    r.action = actionAllow ∨ r.action = actionDeny :=
  (normalizeRule_ok (h.rules r hr)).1

theorem staticElems_allow (hp : Canonical p) (ha : fam.carries a = true) :
    (staticElems p .allow fam).any (·.covers a) = true ↔ p.Allows a := by
  have hb : (staticElems p .allow fam).any (·.covers a) = true ↔
      ∃ r ∈ p.egress, decide (r.action = actionAllow) = true ∧ r.covers a = true := by
    cases fam with
    | v4 | v6 => exact netElems_bucket hp.validRules true (covers_carries ha)
  rw [hb,NetworkPolicy.Allows]
  simp

theorem staticElems_deny (hp : Canonical p) (ha : fam.carries a = true) :
    (staticElems p .deny fam).any (·.covers a) = true ↔ p.Denies a := by
  have hb : (staticElems p .deny fam).any (·.covers a) = true ↔
      ∃ r ∈ p.egress, decide (r.action = actionAllow) = false ∧ r.covers a = true := by
    cases fam with
    | v4 | v6 => exact netElems_bucket hp.validRules false (covers_carries ha)
  have hdeny {r : EgressRule} (hr : r ∈ p.egress) :
      decide (r.action = actionAllow) = false ↔ r.action = actionDeny := by
    rcases Canonical.action hp hr with h | h
    · rw [h]
      decide
    · rw [h]
      decide
  rw [hb,NetworkPolicy.Denies]
  constructor
  · rintro ⟨r,hr,hd,hc⟩
    exact ⟨r,hr,(hdeny hr).mp hd,hc⟩
  · rintro ⟨r,hr,hd,hc⟩
    exact ⟨r,hr,(hdeny hr).mpr hd,hc⟩

theorem leases_covers (ha : fam.carries a = true) (ips : List ResolvedIP) :
    (leases fam ips).any (·.covers a) = true ↔ a ∈ ips.map fun r => r.addr.unmap := by
  simp only [leases,List.any_map,List.any_filter,List.any_eq_true,List.mem_map,
    Function.comp_apply,SetElem.covers,Bool.and_eq_true,decide_eq_true_eq]
  constructor
  · rintro ⟨r,hr,_,rfl⟩
    exact ⟨r,hr,rfl⟩
  · rintro ⟨r,hr,rfl⟩
    exact ⟨r,hr,ha,rfl⟩

theorem hits_family (h : plainAddr a = true) :
    ∃ fam : Family, fam.carries a = true ∧ ∀ hit : Family → Bool,
      (Family.v4.carries a && hit .v4 || Family.v6.carries a && hit .v6) = hit fam := by
  cases a with
  | invalid => cases h
  | v4 x => exact ⟨.v4,rfl,fun hit => Bool.or_false _⟩
  | v6 x zone => exact ⟨.v6,rfl,fun hit => Bool.false_or _⟩

end OpenSandbox.Fleetnft

namespace OpenSandbox.Nftables

open Netip Policy Ruleset Fleetnft

def Options.Valid (opts : Options) : Prop :=
  (∀ e ∈ opts.dohBlocklistV4, e.Valid) ∧ ∀ e ∈ opts.dohBlocklistV6, e.Valid

variable {opts : Options}

theorem Options.Valid.addDohEntry (h : opts.Valid) (entry : List Char) :
    (Nftables.addDohEntry opts entry).Valid := by
  have hv4 {e : Element} (he : e.Valid) :
      Options.Valid { opts with dohBlocklistV4 := opts.dohBlocklistV4 ++ [e] } := by
    exact ⟨List.forall_mem_append.mpr ⟨h.1,List.forall_mem_singleton.mpr he⟩,h.2⟩
  have hv6 {e : Element} (he : e.Valid) :
      Options.Valid { opts with dohBlocklistV6 := opts.dohBlocklistV6 ++ [e] } := by
    exact ⟨h.1,List.forall_mem_append.mpr ⟨h.2,List.forall_mem_singleton.mpr he⟩⟩
  unfold Nftables.addDohEntry
  simp only
  split
  · exact hv4 rfl
  · exact hv6 rfl
  · exact h
  split
  · next hx => exact hv4 (parsePrefix_wellFormed hx)
  · next hx => exact hv6 (parsePrefix_wellFormed hx)
  · exact h

theorem parseNftOptions_valid (blockDoH443 dohBlocklist : String) :
    (parseNftOptions blockDoH443 dohBlocklist).Valid := by
  have hfold (entries : List (List Char)) (opts : Options) (h : opts.Valid) :
      (entries.foldl addDohEntry opts).Valid := by
    induction entries generalizing opts with
    | nil => exact h
    | cons entry entries ih =>
      rw [List.foldl_cons]
      exact ih (addDohEntry opts entry) (h.addDohEntry entry)
  unfold parseNftOptions
  apply hfold
  exact ⟨by simp,by simp⟩

theorem load_append (script script' : List Line) (k : Option OutTable) :
    load (script ++ script') k = load script' (load script k) := List.foldl_append

theorem load_addRules (rules : List ChainRule) (t : OutTable) {c : Chain} (hc : t.chain = some c) :
    load (rules.map .addRule) (some t) =
      some { t with chain := some { c with rules := c.rules ++ rules } } := by
  induction rules generalizing t c with
  | nil =>
    rw [List.append_nil,← hc]
    rfl
  | cons r rules ih =>
    have hstep : load ((r :: rules).map .addRule) (some t) =
        load (rules.map .addRule) (some (Line.onTable t (.addRule r))) := rfl
    rw [hstep,ih (c := { c with rules := c.rules ++ [r] }) _ (by rw [Line.onTable,hc]; rfl),
      List.append_assoc]
    rfl

theorem load_writeElements (set : SetName) (elems : List SetElem) (t : OutTable) :
    load (writeElements set elems) (some t) =
      some { t with sets := Function.update t.sets set ((t.sets set).map (· ++ elems)) } := by
  unfold writeElements
  split
  · next h =>
    subst h
    simp [load]
  · rfl

structure Loaded (t : OutTable) (p : NetworkPolicy) (rules : List ChainRule)
    (learned : List ResolvedIP) : Prop where
  chain : t.chain = some ⟨chainPolicy p.defaultAction,rules⟩
  allow : ∀ fam, t.sets (.allow fam) = some (staticElems p .allow fam)
  deny : ∀ fam, t.sets (.deny fam) = some (staticElems p .deny fam)
  dyn : ∀ fam, t.sets (.dynAllow fam) = some (leases fam learned)

theorem load_setLines (dohBlockV4 dohBlockV6 : List Prefix) (k : Option OutTable) :
    ∃ t, load ([.deleteTable,.addTable] ++ setLines dohBlockV4 dohBlockV6) k = some t ∧
      ∀ fam, t.sets (.allow fam) = some [] ∧ t.sets (.deny fam) = some [] ∧
        t.sets (.dynAllow fam) = some [] := by
  unfold setLines
  split <;> split <;> exact ⟨_,rfl,fun fam => by cases fam <;> exact ⟨rfl,rfl,rfl⟩⟩

theorem netElems_eq {elems : List Element} {ps : List Prefix}
    (h : normalizeIntervalSet elems = .ok ps) : netElems elems = ps.map .net := by
  rw [netElems,h]
  rfl

structure Normalized (p : NetworkPolicy) (els : Elements) : Prop where
  allow : ∀ fam, staticElems p .allow fam =
    (match fam with
      | .v4 => els.allowV4
      | .v6 => els.allowV6).map .net
  deny : ∀ fam, staticElems p .deny fam =
    (match fam with
      | .v4 => els.denyV4
      | .v6 => els.denyV6).map .net

variable {p : NetworkPolicy}

theorem normalizeElements_ok (hp : Canonical p) (ho : opts.Valid) :
    ∃ els, normalizeElements p opts = .ok els ∧ Normalized p els := by
  have hbucket (allow : Bool) (family : Element → Bool) :
      ∃ ps, normalizeIntervalSet (bucket p.egress allow family) = .ok ps :=
    (normalizeIntervalSet_covers (bucket_valid hp.validRules allow family)).imp fun _ h => h.1
  obtain ⟨allowV4,hallowV4⟩ := hbucket true Element.is4
  obtain ⟨allowV6,hallowV6⟩ := hbucket true Element.is6
  obtain ⟨denyV4,hdenyV4⟩ := hbucket false Element.is4
  obtain ⟨denyV6,hdenyV6⟩ := hbucket false Element.is6
  obtain ⟨dohBlockV4,hdohV4,_⟩ := normalizeIntervalSet_covers ho.1
  obtain ⟨dohBlockV6,hdohV6,_⟩ := normalizeIntervalSet_covers ho.2
  refine ⟨⟨allowV4,allowV6,denyV4,denyV6,dohBlockV4,dohBlockV6⟩,?_,?_,?_⟩
  · simp only [normalizeElements,NetworkPolicy.staticIPSets,hallowV4,hallowV6,hdenyV4,
      hdenyV6,hdohV4,hdohV6]
    rfl
  · rintro (_ | _)
    · exact netElems_eq hallowV4
    · exact netElems_eq hallowV6
  · rintro (_ | _)
    · exact netElems_eq hdenyV4
    · exact netElems_eq hdenyV6

theorem load_scriptLines {els : Elements} (h : Normalized p els) (opts : Options)
    (k : Option OutTable) :
    ∃ t, load (scriptLines opts els (chainPolicy p.defaultAction)) k = some t ∧
      Loaded t p (chainRules opts els (chainPolicy p.defaultAction)) [] := by
  obtain ⟨t,ht,hsets⟩ := load_setLines els.dohBlockV4 els.dohBlockV6 k
  rw [scriptLines]
  simp only [load_append] at ht ⊢
  rw [ht]
  simp only [load_writeElements]
  refine ⟨_,load_addRules _ _ rfl,rfl,?_,?_,?_⟩
  · intro fam
    cases fam <;> simp [hsets,h.allow,Line.onTable]
  · intro fam
    cases fam <;> simp [hsets,h.deny,Line.onTable]
  · intro fam
    cases fam <;> simp [hsets,Line.onTable,leases]

variable {t : OutTable}

theorem load_learned {rules : List ChainRule} (h : Loaded t p rules [])
    (learned : List ResolvedIP) :
    ∃ t', load (buildAddResolvedIPsScript learned) (some t) = some t' ∧
      Loaded t' p rules learned := by
  rw [buildAddResolvedIPsScript,load_append,load_writeElements,load_writeElements]
  refine ⟨_,rfl,h.chain,?_,?_,?_⟩
  · intro fam
    simp [h.allow]
  · intro fam
    simp [h.deny]
  · intro fam
    cases fam <;> simp [h.dyn] <;> rfl

structure OutPacket.Subject (p : OutPacket) (opts : Options) : Prop where
  fresh : p.established = false
  unmarked : p.mark ≠ markValue
  nonLoopback : p.oif ≠ "lo"
  notDoT : opts.blockDoT = true → p.dport ≠ 853
  notDoH : opts.blockDoH443 = true → p.dport ≠ 443
  notProxy : p.dport ≠ proxyPort
  plain : plainAddr p.dst = true

theorem walk_gateRules {p : OutPacket} (hp : p.Subject opts) (sets : Sets)
    (dohBlockV4 dohBlockV6 : List Prefix) :
    walk (Match.holds sets p) noCalls (gateRules opts dohBlockV4 dohBlockV6) = none := by
  apply walk_find_none
  rw [List.find?_eq_none]
  intro r hr
  have hdot : r ∈ dotRules opts → r.cond.holds sets p ≠ true := by
    intro h
    unfold dotRules at h
    split at h
    · next hb => 
      simp only [List.mem_cons,List.not_mem_nil,or_false] at h
      rcases h with rfl | rfl <;> simp [drop,Match.holds,hp.notDoT hb]
    · cases h
  have hdoh : r ∈ dohRules opts dohBlockV4 dohBlockV6 → r.cond.holds sets p ≠ true := by
    intro h
    unfold dohRules at h
    split at h
    · next hb =>
      have hport := hp.notDoH hb
      split at h
      · rw [List.mem_singleton] at h
        simp [h,drop,Match.holds,hport]
      rcases List.mem_append.mp h with h | h
      · split at h
        · rw [List.mem_singleton] at h
          simp [h,drop,Match.holds,hport]
        · cases h
      · split at h
        · rw [List.mem_singleton] at h
          simp [h,drop,Match.holds,hport]
        · cases h
    · cases h
  simp only [gateRules,List.mem_append,List.mem_cons,List.not_mem_nil,or_false] at hr
  rcases hr with ((rfl | rfl | rfl | rfl | rfl) | hr) | hr
  · simp [accept,Match.holds,hp.fresh]
  · simp [accept,Match.holds,hp.unmarked]
  · simp [accept,Match.holds,hp.nonLoopback]
  · simp [accept,Match.holds,hp.notProxy]
  · simp [accept,Match.holds,hp.notProxy]
  · exact hdot hr
  · exact hdoh hr

theorem walk_policyRules (holds : Match → Bool) (policy : Verdict) :
    (walk holds noCalls (policyRules policy)).getD policy =
      if holds (.daddr .v4 (.deny .v4)) || holds (.daddr .v6 (.deny .v6)) then .drop
      else if (holds (.daddr .v4 (.dynAllow .v4)) || holds (.daddr .v6 (.dynAllow .v6))) ||
        (holds (.daddr .v4 (.allow .v4)) || holds (.daddr .v6 (.allow .v6))) then .accept
      else policy := by
  have hlast : (walk holds noCalls (if policy = .drop then [drop .always] else [])).getD policy =
      policy := by
    cases policy with
    | accept => rfl
    | drop => cases h : holds .always <;> simp [walk,drop,h,Target.outcome]
  simp only [policyRules,walk,List.cons_append,List.nil_append,drop,accept,Target.outcome]
  cases holds (.daddr .v4 (.deny .v4)) <;> cases holds (.daddr .v6 (.deny .v6)) <;>
    cases holds (.daddr .v4 (.dynAllow .v4)) <;> cases holds (.daddr .v6 (.dynAllow .v6)) <;>
    cases holds (.daddr .v4 (.allow .v4)) <;> cases holds (.daddr .v6 (.allow .v6)) <;>
    first | rfl | exact hlast

theorem setHas_hits {name : Family → SetName} {elems : Family → List SetElem}
    (h : ∀ fam, t.sets (name fam) = some (elems fam)) {p : OutPacket} {fam : Family}
    (hfam : ∀ hit : Family → Bool,
      (Family.v4.carries p.dst && hit .v4 || Family.v6.carries p.dst && hit .v6) = hit fam) :
    (Match.holds t.sets p (.daddr .v4 (name .v4)) || Match.holds t.sets p (.daddr .v6 (name .v6))) =
      (elems fam).any (·.covers p.dst) := by
  rw [← hfam fun f => (elems f).any (·.covers p.dst)]
  simp [Match.holds,setHas,h]

theorem Loaded.verdict_eq (hp : Canonical p) {els : Elements} {learned : List ResolvedIP}
    (h : Loaded t p (chainRules opts els (chainPolicy p.defaultAction)) learned) {pkt : OutPacket}
    (hpkt : pkt.Subject opts) :
    (p.Denies pkt.dst → t.verdict pkt = .drop) ∧
      (¬ p.Denies pkt.dst → (pkt.dst ∈ learned.map (fun r => r.addr.unmap) ∨ p.Allows pkt.dst) →
        t.verdict pkt = .accept) ∧
      (¬ p.Denies pkt.dst → pkt.dst ∉ learned.map (fun r => r.addr.unmap) → ¬ p.Allows pkt.dst →
        t.verdict pkt = chainPolicy p.defaultAction) := by
  obtain ⟨fam,hcarries,hfam⟩ := hits_family hpkt.plain
  have hdeny := setHas_hits h.deny hfam
  have hallow := setHas_hits h.allow hfam
  have hdyn := setHas_hits h.dyn hfam
  have hv : t.verdict pkt = if (staticElems p .deny fam).any (·.covers pkt.dst) then .drop
      else if (leases fam learned).any (·.covers pkt.dst) ||
        (staticElems p .allow fam).any (·.covers pkt.dst) then .accept
      else chainPolicy p.defaultAction := by
    rw [OutTable.verdict,h.chain]
    simp only [chainRules,walk_append,walk_gateRules hpkt,Option.none_or]
    rw [walk_policyRules,hdeny,hallow,hdyn]
  rw [hv,← staticElems_deny hp hcarries,← staticElems_allow hp hcarries,← leases_covers hcarries]
  refine ⟨?_,?_,?_⟩
  · intro h
    rw [if_pos h]
  · intro hd ha
    rw [if_neg hd,if_pos (by simpa using ha)]
  · intro hd hl ha
    rw [if_neg hd,if_neg (by simp_all)]

def applied (p : NetworkPolicy) (opts : Options) (learned : List ResolvedIP)
    (k : Option OutTable) : Except String (Option OutTable) :=
  (buildRuleset p opts).map fun script => load (buildAddResolvedIPsScript learned) (load script k)

theorem applied_loaded (hp : Canonical p) (ho : opts.Valid) (learned : List ResolvedIP)
    (k : Option OutTable) :
    ∃ t els, applied p opts learned k = .ok (some t) ∧
      Loaded t p (chainRules opts els (chainPolicy p.defaultAction)) learned := by
  obtain ⟨els,hels,hnorm⟩ := normalizeElements_ok hp ho
  obtain ⟨t,ht,hloaded⟩ := load_scriptLines hnorm opts k
  obtain ⟨t',ht',hloaded'⟩ := load_learned hloaded learned
  refine ⟨t',els,?_,hloaded'⟩
  rw [applied,buildRuleset,hels]
  simp only [Except.map,ht,ht']

theorem buildRuleset_drop_iff {raw : String} {p : NetworkPolicy} (h : parsePolicy raw = .ok p)
    (hd : p.defaultAction = actionAllow ∨ p.defaultAction = actionDeny) {opts : Options}
    (ho : opts.Valid) (learned : List ResolvedIP) (k : Option OutTable) {pkt : OutPacket}
    (hpkt : pkt.Subject opts) :
    ∃ k', applied p opts learned k = .ok k' ∧ (outVerdict k' pkt = .drop ↔
        (∃ r ∈ p.egress, r.action = actionDeny ∧ r.covers pkt.dst = true) ∨
          ((¬ ∃ r ∈ p.egress, r.action = actionAllow ∧ r.covers pkt.dst = true) ∧
            pkt.dst ∉ learned.map (fun r => r.addr.unmap) ∧ p.defaultAction = actionDeny)) := by
  have hp := canonical_of_parsePolicy h
  obtain ⟨t,els,ht,hloaded⟩ := applied_loaded hp ho learned k
  obtain ⟨hdrop,haccept,hdefault⟩ := hloaded.verdict_eq hp hpkt
  refine ⟨some t,ht,?_⟩
  change t.verdict pkt = .drop ↔ p.Denies pkt.dst ∨ (¬ p.Allows pkt.dst ∧ _)
  by_cases hdeny : p.Denies pkt.dst
  · simp [hdrop hdeny,hdeny]
  by_cases hallow : p.Allows pkt.dst
  · simp [haccept hdeny (.inr hallow),hdeny,hallow]
  by_cases hl : pkt.dst ∈ learned.map fun r => r.addr.unmap
  · simp only [haccept hdeny (.inl hl),hdeny,hl]
    simp
  rw [hdefault hdeny hl hallow]
  rcases hd with hd | hd
  · simp only [hd,hdeny,hl,hallow]
    decide
  · simp only [hd,hdeny,hl,hallow]
    decide

def mixedText : String :=
  "\x7b\"defaultAction\":\"deny\",\"egress\":[" ++
    "\x7b\"action\":\"allow\",\"target\":\"10.0.0.0/8\"\x7d," ++
    "\x7b\"action\":\"deny\",\"target\":\"10.1.2.3\"\x7d]\x7d"

def mixedPolicy : NetworkPolicy :=
  let egress := [classify actionAllow "10.0.0.0/8",classify actionDeny "10.1.2.3"]
  ⟨egress,actionDeny,some (compileDomainIndex egress)⟩

def probe (dst : Addr) : OutPacket := ⟨dst,.tcp,80,false,0,"eth0"⟩

theorem buildRuleset_drop_mixed : parsePolicy mixedText = .ok mixedPolicy ∧
      ∃ k', applied mixedPolicy (parseNftOptions "1" "1.1.1.1, 2606:4700::/32") [] none = .ok k' ∧
        (outVerdict k' (probe (.v4 0x0a010203#32)) = .drop ↔
          (∃ r ∈ mixedPolicy.egress, r.action = actionDeny ∧ r.covers (.v4 0x0a010203#32) = true) ∨
          ((¬ ∃ r ∈ mixedPolicy.egress, r.action = actionAllow ∧
            r.covers (.v4 0x0a010203#32) = true) ∧
            (Addr.v4 0x0a010203#32) ∉ ([] : List ResolvedIP).map (fun r => r.addr.unmap) ∧
            mixedPolicy.defaultAction = actionDeny)) := by
  have hraw : parsePolicy mixedText = .ok mixedPolicy := by decide +kernel
  have hpkt : (probe (.v4 0x0a010203#32)).Subject (parseNftOptions "1" "1.1.1.1, 2606:4700::/32") :=
    ⟨rfl,by decide,by decide,by decide,by decide,by decide,rfl⟩
  exact ⟨hraw,buildRuleset_drop_iff hraw (.inr rfl) (parseNftOptions_valid _ _) [] none hpkt⟩

end OpenSandbox.Nftables
