import OpenSandbox.Egress.PolicyText

namespace OpenSandbox.Netip

open Prefix

theorem ushiftRight_eq_mono {w : Nat} {x y : BitVec w} {k j : Nat} (hkj : k ≤ j)
    (h : x >>> k = y >>> k) : x >>> j = y >>> j := by
  obtain ⟨i,rfl⟩ := Nat.exists_eq_add_of_le hkj
  rw [BitVec.shiftRight_add,BitVec.shiftRight_add,h]

variable {a : Addr}

theorem parseIPv6_isValid {s : List Char} (h : parseIPv6 s = some a) : a.isValid = true := by
  unfold parseIPv6 at h
  simp only at h
  split_ifs at h
  split at h
  · obtain ⟨groups,_,rfl⟩ := Option.map_eq_some_iff.mp h
    rfl
  · cases h

theorem parseAddr_isValid {s : String} (h : parseAddr s = some a) : a.isValid = true := by
  unfold parseAddr at h
  split at h
  · obtain ⟨_,_,rfl⟩ := Option.map_eq_some_iff.mp h
    rfl
  · exact parseIPv6_isValid h
  · cases h

def Agree (bits : Nat) : Addr → Addr → Prop
  | .v4 x, .v4 y => x >>> (32 - bits) = y >>> (32 - bits)
  | .v6 x _, .v6 y zone => zone = "" ∧ x >>> (128 - bits) = y >>> (128 - bits)
  | _, _ => False

theorem Agree.trans {m n : Nat} {b c : Addr} (hmn : m ≤ n) (hab : Agree m a b) (hbc : Agree n b c) :
    Agree m a c := by
  match a, b, c, hab, hbc with
  | .v4 x, .v4 y, .v4 z, hab, hbc =>
    exact Eq.trans hab (ushiftRight_eq_mono (by omega) hbc)
  | .v6 x _, .v6 y _, .v6 z _, hab, hbc =>
    exact ⟨hbc.1,hab.2.trans (ushiftRight_eq_mono (by omega) hbc.2)⟩

namespace Prefix

theorem contains_iff (p : Prefix) (a : Addr) :
    p.contains a = true ↔ 0 < p.bitsPlusOne ∧ Agree (p.bitsPlusOne - 1) p.ip a := by
  obtain ⟨ip,n⟩ := p
  cases ip <;> cases a <;>
    simp [contains,isValid,Agree,BitVec.ushiftRight_xor_distrib,BitVec.xor_eq_zero_iff]

structure WellFormed (p : Prefix) : Prop where
  valid : p.ip.isValid = true
  positive : 0 < p.bitsPlusOne
  bounded : p.bitsPlusOne ≤ p.ip.bitLen + 1

theorem wellFormed_prefixFrom {ip : Addr} {bits : Nat} (hv : ip.isValid = true)
    (hb : bits ≤ ip.bitLen) : (prefixFrom ip bits).WellFormed := by
  rw [prefixFrom,if_pos ⟨hv,hb⟩]
  cases ip with
  | invalid => cases hv
  | v4 x | v6 x zone => exact ⟨rfl,Nat.succ_pos _,Nat.succ_le_succ hb⟩

theorem keepTop_ushiftRight {w : Nat} (x : BitVec w) (n : Nat) :
    keepTop x n >>> (w - n) = x >>> (w - n) := by
  unfold keepTop
  apply BitVec.eq_of_getLsbD_eq
  intro i hi
  simp only [BitVec.getLsbD_ushiftRight,BitVec.getLsbD_shiftLeft]
  by_cases h : w - n + i < w
  · simp [h]
  · simp [h,BitVec.getLsbD_of_ge _ _ (Nat.le_of_not_lt h)]

theorem keepTop_congr {w : Nat} {x y : BitVec w} {n : Nat} (h : x >>> (w - n) = y >>> (w - n)) :
    keepTop x n = keepTop y n := by
  rw [keepTop,h,keepTop]

theorem keepTop_idem {w : Nat} (x : BitVec w) (n : Nat) :
    keepTop (keepTop x n) n = keepTop x n := keepTop_congr (keepTop_ushiftRight x n)

variable {p : Prefix}

theorem masked_cases (h : p.WellFormed) :
    (∃ x, p.ip = .v4 x ∧
        p.masked = ⟨.v4 (keepTop x (p.bitsPlusOne - 1)),p.bitsPlusOne⟩) ∨
      ∃ x zone, p.ip = .v6 x zone ∧
        p.masked = ⟨.v6 (keepTop x (p.bitsPlusOne - 1)) "",p.bitsPlusOne⟩ := by
  obtain ⟨ip,n⟩ := p
  obtain ⟨hv,hpos,hb⟩ := h
  obtain ⟨k,rfl⟩ := Nat.exists_eq_succ_of_ne_zero (Nat.pos_iff_ne_zero.mp hpos)
  have hk : k ≤ ip.bitLen := Nat.le_of_succ_le_succ hb
  cases ip with
  | invalid => cases hv
  | v4 x =>
    refine .inl ⟨x,rfl,?_⟩
    simp only [masked,isValid,Nat.succ_pos,decide_true,Nat.succ_sub_one]
    rw [prefixFrom,if_pos ⟨rfl,hk⟩]
    rfl
  | v6 x zone =>
    refine .inr ⟨x,zone,rfl,?_⟩
    simp only [masked,isValid,Nat.succ_pos,decide_true,Nat.succ_sub_one]
    rw [prefixFrom,if_pos ⟨rfl,hk⟩]
    rfl

theorem WellFormed.masked (h : p.WellFormed) : p.masked.WellFormed := by
  have hb := h.bounded
  rcases masked_cases h with ⟨x,hip,hm⟩ | ⟨x,zone,hip,hm⟩
  · rw [hip] at hb
    rw [hm]
    exact ⟨rfl,h.positive,hb⟩
  · rw [hip] at hb
    rw [hm]
    exact ⟨rfl,h.positive,hb⟩

theorem contains_masked (h : p.WellFormed) (a : Addr) : p.masked.contains a = p.contains a := by
  rw [Bool.eq_iff_iff,contains_iff,contains_iff]
  rcases masked_cases h with ⟨x,hip,hm⟩ | ⟨x,zone,hip,hm⟩
  · rw [hm,hip]
    cases a <;> simp [Agree,keepTop_ushiftRight]
  · rw [hm,hip]
    cases a <;> simp [Agree,keepTop_ushiftRight]

structure Masked (p : Prefix) : Prop extends p.WellFormed where
  stable : p.masked = p

theorem WellFormed.masked_masked (h : p.WellFormed) : p.masked.Masked := by
  refine ⟨h.masked,?_⟩
  have hwf := h.masked
  rcases masked_cases h with ⟨x,-,hm⟩ | ⟨x,zone,-,hm⟩
  all_goals
    rw [hm] at hwf ⊢
    rcases masked_cases hwf with ⟨y,⟨⟩,hm'⟩ | ⟨y,zone',⟨⟩,hm'⟩
    rw [hm']
    simp only [keepTop_idem]

theorem Masked.cases (h : p.Masked) :
    (∃ x, p = ⟨.v4 x,p.bitsPlusOne⟩ ∧ keepTop x (p.bitsPlusOne - 1) = x) ∨
      ∃ x, p = ⟨.v6 x "",p.bitsPlusOne⟩ ∧ keepTop x (p.bitsPlusOne - 1) = x := by
  have hstable := h.stable
  rcases masked_cases h.toWellFormed with ⟨x,hip,hm⟩ | ⟨x,zone,hip,hm⟩
  · rw [hm] at hstable
    have hkept := (congrArg ip hstable).trans hip
    exact .inl ⟨x,by rw [← hip],Addr.v4.inj hkept⟩
  · rw [hm] at hstable
    obtain ⟨hkept,rfl⟩ := Addr.v6.inj ((congrArg ip hstable).trans hip)
    exact .inr ⟨x,by rw [← hip],hkept⟩

theorem contains_is4 {a : Addr} (h : p.contains a = true) :
    p.ip.is4 = a.is4 ∧ p.ip.is6 = a.is6 := by
  rw [contains_iff] at h
  obtain ⟨ip,n⟩ := p
  cases ip <;> cases a <;> simp_all [Agree,Addr.is4,Addr.is6]

end Prefix

theorem parsePrefix_wellFormed {s : String} {p : Prefix} (h : parsePrefix s = some p) :
    p.WellFormed := by
  unfold parsePrefix at h
  simp only at h
  split_ifs at h
  split at h
  · split_ifs at h with hb
    cases h
    exact wellFormed_prefixFrom rfl hb
  · split_ifs at h with hb
    cases h
    exact wellFormed_prefixFrom rfl hb
  · cases h

end OpenSandbox.Netip

namespace OpenSandbox.Policy

open Netip

def Element.covers : Element → Addr → Bool
  | .addr b, a => b.withoutZone = a
  | .cidr p, a => p.contains a

def EgressRule.covers (r : EgressRule) (a : Addr) : Bool := r.element.any (·.covers a)

def Element.Valid : Element → Prop
  | .addr a => a.isValid = true
  | .cidr p => p.WellFormed

variable {e : Element} {a : Addr}

theorem Element.covers_family (he : e.Valid) (h : e.covers a = true) :
    e.is4 = a.is4 ∧ e.is6 = a.is6 := by
  cases e with
  | addr b =>
    simp only [Element.covers,decide_eq_true_eq] at h
    subst h
    cases b <;> exact ⟨rfl,rfl⟩
  | cidr p => exact Prefix.contains_is4 h

theorem Element.parseAsPrefix_ok (he : e.Valid) :
    ∃ p, parseAsPrefix e = .ok p ∧ p.WellFormed ∧ ∀ a, p.contains a = e.covers a := by
  match e, he with
  | .cidr p, he =>
    have hv : p.isValid = true := by simpa [Prefix.isValid] using he.positive
    exact ⟨p,by rw [parseAsPrefix,if_pos hv],he,fun a => rfl⟩
  | .addr (.v4 x), _ =>
    refine ⟨_,rfl,Prefix.wellFormed_prefixFrom rfl (le_refl 32),fun a => ?_⟩
    rw [Bool.eq_iff_iff,Prefix.contains_iff, Prefix.prefixFrom,if_pos ⟨rfl,le_refl 32⟩]
    cases a <;> simp [Agree,Element.covers,Addr.withoutZone]
  | .addr (.v6 x zone), _ =>
    refine ⟨_,rfl,Prefix.wellFormed_prefixFrom rfl (le_refl 128),fun a => ?_⟩
    rw [Bool.eq_iff_iff,Prefix.contains_iff, Prefix.prefixFrom,if_pos ⟨rfl,le_refl 128⟩]
    cases a <;> simp [Agree,Element.covers,Addr.withoutZone]
    exact and_comm
  | .addr .invalid, he => cases he

theorem uniquePrefixes_spec (ps : List Prefix) :
    (uniquePrefixes ps).Nodup ∧ (∀ p, p ∈ uniquePrefixes ps ↔ p ∈ ps) ∧
      (ps.Nodup → uniquePrefixes ps = ps) := by
  have hfold (ps out : List Prefix) (hout : out.Nodup) :
      let all := ps.foldl (fun out q => if q ∈ out then out else out ++ [q]) out
      all.Nodup ∧ (∀ p, p ∈ all ↔ p ∈ out ∨ p ∈ ps) ∧ ((out ++ ps).Nodup → all = out ++ ps) := by
    induction ps generalizing out with
    | nil => simpa using hout
    | cons q ps ih =>
      rw [List.foldl_cons]
      split_ifs with hq
      · obtain ⟨hnodup,hmem,-⟩ := ih out hout
        refine ⟨hnodup,fun p => ?_,fun h => ?_⟩
        · rw [hmem,List.mem_cons]
          exact ⟨.imp_right .inr,Or.rec .inl (Or.rec (fun heq => .inl (heq ▸ hq)) .inr)⟩
        · exact absurd rfl ((List.nodup_append.mp h).2.2 q hq q List.mem_cons_self)
      · obtain ⟨hnodup,hmem,hsame⟩ := ih (out ++ [q]) (by simpa using hout.concat hq)
        refine ⟨hnodup,fun p => ?_,?_⟩
        · rw [hmem,List.mem_append,List.mem_singleton,List.mem_cons,or_assoc]
        · simpa using hsame
  simpa [uniquePrefixes] using hfold ps [] List.nodup_nil

theorem strictSupernet_contains {q p : Prefix} (h : strictSupernet q p = true)
    (ha : p.contains a = true) : q.contains a = true ∧ q.bitsPlusOne < p.bitsPlusOne := by
  simp only [strictSupernet,Bool.and_eq_true,decide_eq_true_eq,Prefix.bits] at h
  obtain ⟨⟨_,hlt⟩,hc⟩ := h
  replace hlt := of_decide_eq_true hlt
  rw [Prefix.contains_iff] at ha hc ⊢
  exact ⟨⟨hc.1,hc.2.trans (by omega) ha.2⟩,by omega⟩

theorem removeStrictSubnets_covers {ps : List Prefix} {p : Prefix} (hp : p ∈ ps)
    (ha : p.contains a = true) : ∃ q ∈ removeStrictSubnets ps, q.contains a = true := by
  obtain ⟨n,hn⟩ : ∃ n, p.bitsPlusOne = n := ⟨_,rfl⟩
  induction n using Nat.strong_induction_on generalizing p with
  | _ n ih =>
    by_cases hkeep : ps.any (fun q => strictSupernet q p) = true
    · obtain ⟨q,hq,hsup⟩ := List.any_eq_true.mp hkeep
      obtain ⟨hqa,hlt⟩ := strictSupernet_contains hsup ha
      exact ih _ (hn ▸ hlt) hq hqa rfl
    · refine ⟨p,?_,ha⟩
      rw [removeStrictSubnets,List.mem_filter]
      exact ⟨hp,by simpa using hkeep⟩

variable {elems : List Element}

theorem mapM_prefixes (h : ∀ e ∈ elems, e.Valid) :
    ∃ ps, (elems.mapM fun e => (parseAsPrefix e).map Prefix.masked) = .ok ps ∧
      (∀ p ∈ ps, p.Masked) ∧
      ∀ a, (∃ p ∈ ps, p.contains a = true) ↔ ∃ e ∈ elems, e.covers a = true := by
  induction elems with
  | nil => exact ⟨[],rfl,by simp,by simp⟩
  | cons e elems ih =>
    obtain ⟨ps,hps,hwf,hcov⟩ := ih fun e he => h e (by simp [he])
    obtain ⟨p,hp,hpwf,hpcov⟩ := Element.parseAsPrefix_ok (h e (by simp))
    refine ⟨p.masked :: ps,?_,List.forall_mem_cons.mpr ⟨hpwf.masked_masked,hwf⟩,?_⟩
    · rw [List.mapM_cons,hp,hps]
      rfl
    · intro a
      simp only [List.exists_mem_cons_iff,hcov a,Prefix.contains_masked hpwf,hpcov]

theorem overlap_cases {p q : Prefix} (hp : p.Masked) (hq : q.Masked) (ha : p.contains a = true)
    (hb : q.contains a = true) (hle : q.bitsPlusOne ≤ p.bitsPlusOne) :
    q = p ∨ strictSupernet q p = true := by
  have hsup (h : q.contains p.ip = true) (hlt : q.bitsPlusOne < p.bitsPlusOne) :
      strictSupernet q p = true := by
    simp [strictSupernet,h,(Prefix.contains_is4 h).1,Prefix.bits,hlt]
  rw [Prefix.contains_iff] at ha hb hsup
  rcases hp.cases with ⟨x,hpx,hx⟩ | ⟨x,hpx,hx⟩ <;>
    rcases hq.cases with ⟨y,hqy,hy⟩ | ⟨y,hqy,hy⟩ <;>
    rw [hpx] at ha <;> rw [hqy] at hb <;> cases a <;> simp only [Agree,and_false] at ha hb
  · have hxy := hb.2.trans (ushiftRight_eq_mono (by omega) ha.2).symm
    rcases hle.eq_or_lt with heq | hlt
    · left
      rw [heq] at hxy hy
      rw [hpx,hqy,← hx,← hy,Prefix.keepTop_congr hxy,heq]
    · exact .inr (hsup ⟨hq.positive,by rw [hpx,hqy]; exact hxy⟩ hlt)
  · have hxy := hb.2.2.trans (ushiftRight_eq_mono (by omega) ha.2.2).symm
    rcases hle.eq_or_lt with heq | hlt
    · left
      rw [heq] at hxy hy
      rw [hpx,hqy,← hx,← hy,Prefix.keepTop_congr hxy,heq]
    · exact .inr (hsup ⟨hq.positive,by rw [hpx,hqy]; exact ⟨rfl,hxy⟩⟩ hlt)

theorem normalizeIntervalSet_disjoint (h : ∀ e ∈ elems, e.Valid) :
    ∃ ps, normalizeIntervalSet elems = .ok ps ∧ (∀ p ∈ ps, p.Masked) ∧ ps.Nodup ∧
      (∀ p ∈ ps, ∀ q ∈ ps, strictSupernet q p = false) ∧
      ∀ a, (∃ p ∈ ps, p.contains a = true) ↔ ∃ e ∈ elems, e.covers a = true := by
  obtain ⟨ps,hps,hmasked,hcov⟩ := mapM_prefixes h
  obtain ⟨hnodup,hmem,-⟩ := uniquePrefixes_spec ps
  have hkept {q : Prefix} (hq : q ∈ removeStrictSubnets (uniquePrefixes ps)) : q ∈ ps :=
    (hmem q).mp (List.mem_filter.mp hq).1
  have hsame : (removeStrictSubnets (uniquePrefixes ps)).map Prefix.masked =
      removeStrictSubnets (uniquePrefixes ps) :=
    (List.map_congr_left fun q hq => (hmasked q (hkept hq)).stable).trans (List.map_id _)
  refine ⟨removeStrictSubnets (uniquePrefixes ps),?_,fun q hq => hmasked q (hkept hq),
    hnodup.filter _,fun p hp q hq => ?_,fun a => ?_⟩
  · rw [normalizeIntervalSet,hps,← hsame]
    rfl
  · have hno := (List.mem_filter.mp hp).2
    simp only [Bool.not_eq_true',List.any_eq_false,Bool.not_eq_true] at hno
    exact hno q (List.mem_filter.mp hq).1
  rw [← hcov a]
  constructor
  · rintro ⟨q,hq,ha⟩
    exact ⟨q,hkept hq,ha⟩
  · rintro ⟨p,hp,ha⟩
    exact removeStrictSubnets_covers ((hmem p).mpr hp) ha

theorem normalizeIntervalSet_covers (h : ∀ e ∈ elems, e.Valid) :
    ∃ ps, normalizeIntervalSet elems = .ok ps ∧
      ∀ a, (∃ p ∈ ps, p.contains a = true) ↔ ∃ e ∈ elems, e.covers a = true := by
  obtain ⟨ps,hps,-,-,-,hcov⟩ := normalizeIntervalSet_disjoint h
  exact ⟨ps,hps,hcov⟩

def formatPrefixForNFT (p : Prefix) : Element :=
  let p := p.masked
  if p.ip.is4 ∧ p.bits = 32 then .addr p.ip
  else if p.ip.is6 ∧ p.bits = 128 then .addr p.ip
  else .cidr p

theorem parseAsPrefix_format {p : Prefix} (h : p.Masked) :
    parseAsPrefix (formatPrefixForNFT p) = .ok p := by
  have hvalid : p.isValid = true := decide_eq_true h.positive
  have hwhole {n : Nat} (hbits : p.bits = n) : p.bitsPlusOne = n + 1 := by
    rw [Prefix.bits] at hbits
    omega
  rw [formatPrefixForNFT,h.stable]
  split
  · next hhost =>
    rcases h.cases with ⟨x,hp,-⟩ | ⟨x,hp,-⟩
    · rw [hp,hwhole hhost.2]
      rfl
    · rw [hp] at hhost
      cases hhost.1
  split_ifs with hhost
  · rcases h.cases with ⟨x,hp,-⟩ | ⟨x,hp,-⟩
    · rw [hp] at hhost
      cases hhost.1
    · rw [hp,hwhole hhost.2]
      rfl
  · rw [parseAsPrefix,if_pos hvalid]

def readElement (s : String) : Option Element :=
  match parsePrefix s with
  | some p => some (.cidr p)
  | none => (parseAddr s).map .addr

theorem readElement_valid {s : String} (h : readElement s = some e) : e.Valid := by
  unfold readElement at h
  split at h
  · next p hp =>
    cases h
    exact parsePrefix_wellFormed hp
  · obtain ⟨ip,hip,rfl⟩ := Option.map_eq_some_iff.mp h
    exact parseAddr_isValid hip

theorem intervals_normalized {elems : List Element}
    (h : ∀ e ∈ elems, ∃ text, readElement text = some e) :
    ∃ ps, normalizeIntervalSet elems = .ok ps ∧
      ps.Pairwise (fun p q => ∀ a, ¬ (p.contains a = true ∧ q.contains a = true)) ∧
      (∀ a, (∃ p ∈ ps, p.contains a = true) ↔ ∃ e ∈ elems, e.covers a = true) ∧
      normalizeIntervalSet (ps.map formatPrefixForNFT) = .ok ps := by
  obtain ⟨ps,hps,hmasked,hnodup,hfree,hcov⟩ := normalizeIntervalSet_disjoint fun e he =>
    (h e he).elim fun _ htext => readElement_valid htext
  refine ⟨ps,hps,hnodup.imp_of_mem fun hp hq hne a ha => ?_,hcov,?_⟩
  · rename_i p q
    rcases le_total q.bitsPlusOne p.bitsPlusOne with hle | hle
    · rcases overlap_cases (hmasked p hp) (hmasked q hq) ha.1 ha.2 hle with heq | hsup
      · exact hne heq.symm
      · exact absurd hsup (Bool.eq_false_iff.mp (hfree p hp q hq))
    · rcases overlap_cases (hmasked q hq) (hmasked p hp) ha.2 ha.1 hle with heq | hsup
      · exact hne heq
      · exact absurd hsup (Bool.eq_false_iff.mp (hfree q hq p hp))
  · have hread : (ps.map formatPrefixForNFT).mapM
        (fun e => (parseAsPrefix e).map Prefix.masked) = .ok ps := by
      rw [Outcome.mapM_eq_ok,List.forall₂_map_left_iff,List.forall₂_same]
      intro p hp
      rw [parseAsPrefix_format (hmasked p hp)]
      exact congrArg _ (hmasked p hp).stable
    have hrest : removeStrictSubnets ps = ps :=
      List.filter_eq_self.mpr fun p hp => by simpa using hfree p hp
    have hsame : ps.map Prefix.masked = ps :=
      (List.map_congr_left fun p hp => (hmasked p hp).stable).trans (List.map_id _)
    rw [normalizeIntervalSet,hread]
    change Except.ok ((removeStrictSubnets (uniquePrefixes ps)).map Prefix.masked) = _
    rw [(uniquePrefixes_spec ps).2.2 hnodup,hrest,hsame]

theorem intervals_normalized_nested :
    ∃ ps, normalizeIntervalSet [.cidr ⟨.v4 0x0a000000#32,9⟩,.addr (.v4 0x0a010203#32)] = .ok ps ∧
      normalizeIntervalSet (ps.map formatPrefixForNFT) = .ok ps := by
  obtain ⟨ps,hps,-,-,hagain⟩ := @intervals_normalized
      [.cidr ⟨.v4 0x0a000000#32,9⟩,.addr (.v4 0x0a010203#32)] (by
    intro e he
    simp only [List.mem_cons,List.not_mem_nil,or_false] at he
    rcases he with rfl | rfl
    · exact ⟨"10.0.0.0/8",by decide⟩
    · exact ⟨"10.1.2.3",by decide⟩)
  exact ⟨ps,hps,hagain⟩

def ValidRules (egress : List EgressRule) : Prop :=
  ∀ r ∈ egress, ∀ e, r.element = some e → e.Valid

theorem classify_element {action target : String} (h : (classify action target).element = some e) :
    e.Valid := by
  unfold classify at h
  split at h
  · next ip hip =>
    cases h
    exact parseAddr_isValid hip
  split at h
  · next p hp =>
    cases h
    exact parsePrefix_wellFormed hp
  · cases h

theorem Canonical.validRules {p : NetworkPolicy} (h : Canonical p) : ValidRules p.egress := by
  intro r hr e he
  rw [(normalizeRule_ok (h.rules r hr)).2.2.2] at he
  exact classify_element he

theorem bucket_valid {egress : List EgressRule} (h : ValidRules egress) (allow : Bool)
    (family : Element → Bool) : ∀ e ∈ bucket egress allow family, e.Valid := by
  intro e he
  obtain ⟨r,hr,heq⟩ := List.mem_filterMap.mp he
  split_ifs at heq
  exact h r hr e (Option.filter_eq_some_iff.mp heq).1

theorem bucket_covers {egress : List EgressRule} (h : ValidRules egress) (allow : Bool)
    {family : Element → Bool} (hf : ∀ e : Element, e.Valid → e.covers a = true → family e = true) :
    (∃ e ∈ bucket egress allow family, e.covers a = true) ↔
      ∃ r ∈ egress, decide (r.action = actionAllow) = allow ∧ r.covers a = true := by
  constructor
  · rintro ⟨e,he,ha⟩
    obtain ⟨r,hr,heq⟩ := List.mem_filterMap.mp he
    split_ifs at heq with hallow
    refine ⟨r,hr,hallow,?_⟩
    rwa [EgressRule.covers,(Option.filter_eq_some_iff.mp heq).1]
  rintro ⟨r,hr,hallow,ha⟩
  cases he : r.element with
  | none =>
    rw [EgressRule.covers,he] at ha
    cases ha
  | some e =>
    rw [EgressRule.covers,he,Option.any_some] at ha
    refine ⟨e,List.mem_filterMap.mpr ⟨r,hr,?_⟩,ha⟩
    rw [if_pos hallow,he]
    exact Option.filter_eq_some_iff.mpr ⟨rfl,hf e (h r hr e he) ha⟩

end OpenSandbox.Policy
