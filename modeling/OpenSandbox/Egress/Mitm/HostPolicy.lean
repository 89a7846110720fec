import OpenSandbox.Egress.Mitm.Ambiguity

namespace OpenSandbox.Mitm

open PyText Vault Policy GoText List

theorem map_lowered {s : String} (h : Lowered s) : s.toList.map lowerRune = s.toList := by
  rw [map_congr_left (g := id),map_id]
  intro c hc
  rw [lowerRune,if_neg (h c hc).2,if_pos (h c hc).1]
  rfl

theorem trimDot_undotted {s : String} (h : s.toList.getLast? ≠ some '.') : trimDot s = s := by
  rw [trimDot]
  split
  · next rest hrest =>
    rw [getLast?_eq_head?_reverse,hrest] at h
    exact absurd rfl h
  · rfl

structure Solid (host : String) : Prop extends HostText host where
  spaceless : ∀ c ∈ host.toList, isSpace c = false

theorem solid_of_normal {host : String} (h : NormalHost host) : Solid host := by
  rcases h with ⟨hvalid,_⟩ | ⟨suffix,hvalid,rfl⟩
  · exact ⟨(fqdn_hostText hvalid).1,fun c hc => (fqdn_char hvalid hc).2⟩
  · obtain ⟨htext,hne⟩ := fqdn_hostText hvalid
    refine ⟨htext.append lowered_star hne,fun c hc => ?_⟩
    rcases mem_append.mp (String.toList_append ▸ hc) with hc | hc
    · fin_cases hc <;> decide
    · exact (fqdn_char hvalid hc).2

theorem foldHost_normal {host : String} (h : NormalHost host) : foldHost host = host := by
  obtain ⟨htext,hplain⟩ := solid_of_normal h
  have htrim : trimSpace host = host := trimSpace_eq_self
    ⟨fun c hc => hplain c (mem_of_mem_head? hc),fun c hc => hplain c (mem_of_getLast? hc)⟩
  rw [foldHost,htrim,trimDot_undotted htext.undotted,toLower,map_lowered htext.lowered,
    String.ofList_toList]

def Under (suffix query : String) : Prop :=
  toLower query = query ∧ '.' :: suffix.toList <:+ query.toList

section Wildcard

variable {suffix query : String} {r : EgressRule} (hvalid : isValidCredentialFQDN suffix = true)

include hvalid

theorem trimDot_under {name : String} (h : '.' :: suffix.toList <:+ name.toList) :
    trimDot name = name := by
  obtain ⟨htext,hne⟩ := fqdn_hostText hvalid
  obtain ⟨front,hfront⟩ := h
  refine trimDot_undotted ?_
  rw [← hfront,append_cons,getLast?_append_of_ne_nil _ (by simpa using hne)]
  exact htext.undotted

theorem under_queryName {name : String} (h : '.' :: suffix.toList <:+ name.toList) :
    Under suffix (queryName name) := by
  have hmap := h.map lowerRune
  rw [map_cons,map_lowered (fqdn_hostText hvalid).1.lowered] at hmap
  rw [queryName,trimDot_under hvalid h]
  exact ⟨toLower_idem name,by rw [toLower,String.toList_ofList]; exact hmap⟩

theorem queryName_under (h : Under suffix query) : queryName query = query := by
  rw [queryName,trimDot_under hvalid h.2,h.1]

theorem toLower_wildcard : toLower ("*." ++ suffix) = "*." ++ suffix := by
  obtain ⟨htext,hne⟩ := fqdn_hostText hvalid
  rw [toLower,map_lowered (htext.append lowered_star hne).lowered,String.ofList_toList]

theorem under_wildcard : Under suffix ("*." ++ suffix) :=
  ⟨toLower_wildcard hvalid,by simp⟩

theorem accepts_wildcard : r.accepts ("*." ++ suffix) = true ↔ r.targetKind = .domain ∧
      ∃ rest, r.pattern.toList = '*' :: '.' :: rest ∧ '.' :: rest <:+ '.' :: suffix.toList := by
  have hlist : ("*." ++ suffix).toList = '*' :: '.' :: suffix.toList := by simp
  rw [accepts_iff (toLower_wildcard hvalid)]
  refine and_congr_right fun _ => ⟨?_,?_⟩
  · rintro (⟨_,heq⟩ | ⟨rest,hpat,hrest⟩)
    · exact ⟨suffix.toList,by rw [heq,hlist],suffix_refl _⟩
    · rw [hlist] at hrest
      exact ⟨rest,hpat,(suffix_cons_iff.mp hrest).resolve_left (by simp)⟩
  · rintro ⟨rest,hpat,hrest⟩
    rw [hlist]
    exact .inr ⟨rest,hpat,hrest.trans (suffix_cons _ _)⟩

theorem accepts_under (hq : Under suffix query) (h : r.accepts ("*." ++ suffix) = true) :
    r.accepts query = true := by
  obtain ⟨hkind,rest,hpat,hrest⟩ := (accepts_wildcard hvalid).mp h
  exact (accepts_iff hq.1).mpr ⟨hkind,.inr ⟨rest,hpat,hrest.trans hq.2⟩⟩

theorem accepts_part (hq : Under suffix query) (h : r.accepts query = true)
    (hno : r.accepts ("*." ++ suffix) = false) :
    r.targetKind = .domain ∧ '.' :: suffix.toList <:+ r.pattern.toList := by
  obtain ⟨hkind,⟨_,heq⟩ | ⟨rest,hpat,hrest⟩⟩ := (accepts_iff hq.1).mp h
  · exact ⟨hkind,heq ▸ hq.2⟩
  rcases suffix_or_suffix_of_suffix hrest hq.2 with hs | hs
  · rw [(accepts_wildcard hvalid).mpr ⟨hkind,rest,hpat,hs⟩] at hno
    cases hno
  · rw [hpat]
    exact ⟨hkind,hs.trans (suffix_cons _ _)⟩

end Wildcard

def PatternsAllowed (p : NetworkPolicy) (host : String) : Prop :=
  p.evaluate host = actionAllow ∧ ∀ r ∈ p.egress, r.targetKind = .domain →
    host.toList.tail <:+ r.pattern.toList → p.evaluate r.pattern = actionAllow

theorem find?_narrow {asked probed : EgressRule → Bool} {rs : List EgressRule} {r : EgressRule}
    (h : rs.find? asked = some r) (hr : probed r = true)
    (hsub : ∀ r ∈ rs, probed r = true → asked r = true) : rs.find? probed = some r := by
  obtain ⟨-,before,after,rfl,hbefore⟩ := find?_eq_some_iff_append.mp h
  refine find?_eq_some_iff_append.mpr ⟨hr,before,after,rfl,fun r' hr' => ?_⟩
  have hno := hbefore r' hr'
  have hmem := mem_append_left (r :: after) hr'
  cases hprobed : probed r' with
  | false => rfl
  | true => rwa [hsub r' hmem hprobed] at hno

section Pattern

variable {query : String} {r : EgressRule} {rest : List Char}
  (hpat : r.pattern.toList = '*' :: '.' :: rest) (hrest : '.' :: rest <:+ query.toList)

include hpat hrest

theorem under_pattern {suffix : String} (hq : Under suffix query)
    (hends : '.' :: suffix.toList <:+ r.pattern.toList) : Under suffix r.pattern := by
  refine ⟨?_,hends⟩
  have hmap : query.toList.map lowerRune = query.toList.map id := by
    rw [map_id,← String.toList_ofList (l := query.toList.map lowerRune)]
    exact congrArg String.toList hq.1
  have hlower : ∀ c ∈ '.' :: rest, lowerRune c = c := fun c hc =>
    map_inj_left.mp hmap c (hrest.subset hc)
  rw [toLower,hpat,map_cons,map_congr_left hlower,map_id',← String.ofList_toList (s := r.pattern),
    hpat]
  rfl

theorem accepts_pattern {r' : EgressRule} (hquery : toLower query = query)
    (hlower : toLower r.pattern = r.pattern) (h : r'.accepts r.pattern = true) :
    r'.accepts query = true := by
  refine (accepts_iff hquery).mpr ?_
  obtain ⟨hkind,⟨-,heq⟩ | ⟨rest',hpat',hrest'⟩⟩ := (accepts_iff hlower).mp h
  · exact ⟨hkind,.inr ⟨rest,(congrArg _ heq).trans hpat,hrest⟩⟩
  · rw [hpat] at hrest'
    have hin := (suffix_cons_iff.mp hrest').resolve_left (by simp)
    exact ⟨hkind,.inr ⟨rest',hpat',hin.trans hrest⟩⟩

end Pattern

theorem evaluate_under {p : NetworkPolicy} {suffix name : String}
    (hp : p.domainIndex = some (compileDomainIndex p.egress))
    (hvalid : isValidCredentialFQDN suffix = true) (hname : '.' :: suffix.toList <:+ name.toList)
    (h : PatternsAllowed p ("*." ++ suffix)) : p.evaluate name = actionAllow := by
  have hquery := under_queryName hvalid hname
  obtain ⟨hself,hpatterns⟩ := h
  rw [String.toList_append] at hpatterns
  rw [evaluate_indexed hp,queryName_under hvalid (under_wildcard hvalid)] at hself
  rw [evaluate_indexed hp]
  generalize queryName name = query at hquery ⊢
  cases hfound : p.egress.find? (·.accepts query) with
  | none =>
    rwa [find?_eq_none.mpr] at hself
    exact fun r hr hcovers => find?_eq_none.mp hfound r hr (accepts_under hvalid hquery hcovers)
  | some r =>
    have hr := find?_some hfound
    cases hcovers : r.accepts ("*." ++ suffix) with
    | true => rwa [find?_narrow hfound hcovers fun r _ => accepts_under hvalid hquery] at hself
    | false =>
      obtain ⟨hkind,hends⟩ := accepts_part hvalid hquery hr hcovers
      have hallowed := hpatterns r (mem_of_find?_eq_some hfound) hkind hends
      rw [evaluate_indexed hp] at hallowed
      obtain ⟨-,⟨hne,heq⟩ | ⟨rest,hpat,hrest⟩⟩ := (accepts_iff hquery.1).mp hr
      · rw [heq,queryName_under hvalid hquery,hfound] at hallowed
        exact hallowed
      have hunder := under_pattern hpat hrest hquery hends
      have hself : '.' :: rest <:+ r.pattern.toList := by
        rw [hpat]
        exact suffix_cons '*' _
      rw [queryName_under hvalid hunder,find?_narrow hfound
        ((accepts_iff hunder.1).mpr ⟨hkind,.inr ⟨rest,hpat,hself⟩⟩)] at hallowed
      · exact hallowed
      · exact fun _ _ => accepts_pattern hpat hrest hquery.1 hunder.1

theorem binding_hosts_allowed_iff {user : Option NetworkPolicy} {deny allow : List EgressRule}
    {host : String} (hhost : NormalHost host)
    (hcovers : explicitAllowCoversHost (some (mergeAlwaysOverlay user deny allow)) host = true)
    (py : Lower) :
    (∀ name, (hostMatches py name host).1 = true →
        (mergeAlwaysOverlay user deny allow).evaluate name = actionAllow) ↔
      (hasPrefix host "*." = true → PatternsAllowed (mergeAlwaysOverlay user deny allow) host) := by
  rcases hhost with ⟨hvalid,hstar⟩ | ⟨suffix,hvalid,rfl⟩
  · refine iff_of_true (fun name hmatch => ?_) fun h => ?_
    · rw [hostMatches_exact hvalid hstar,decide_eq_true_eq] at hmatch
      simp only [explicitAllowCoversHost,foldHost_normal (.inl ⟨hvalid,hstar⟩)] at hcovers
      split at hcovers
      · cases hcovers
      rw [hstar,if_neg Bool.false_ne_true,decide_eq_true_eq] at hcovers
      rwa [hmatch]
    · rw [hstar] at h
      cases h
  simp only [hostMatches_wildcard hvalid,decide_eq_true_eq]
  refine ⟨fun h _ => ⟨h _ (under_wildcard hvalid).2,fun r _ _ hends => h _ ?_⟩,
    fun h name hname => evaluate_under rfl hvalid hname (h (hasPrefix_star suffix))⟩
  rwa [String.toList_append] at hends

def layeredPolicy : NetworkPolicy :=
  mergeAlwaysOverlay none [domainRule "allow" "s.example.com"]
    [domainRule "deny" "s.example.com",domainRule "allow" "*.example.com"]

theorem binding_host_allowed_wildcard : NormalHost "*.example.com" ∧
      layeredPolicy.evaluate "api.example.com" = actionAllow := by
  have hhost : NormalHost "*.example.com" := .inr ⟨"example.com",by decide +kernel,rfl⟩
  have hpatterns : layeredPolicy.evaluate "*.example.com" = actionAllow ∧
      layeredPolicy.egress.all fun r => layeredPolicy.evaluate r.pattern = actionAllow := by
    decide +kernel
  refine ⟨hhost,(binding_hosts_allowed_iff hhost (by decide +kernel) .onAscii).mpr (fun _ => ?_) _
    (by decide +kernel)⟩
  exact ⟨hpatterns.1,fun r hr _ _ => decide_eq_true_eq.mp (all_eq_true.mp hpatterns.2 r hr)⟩

theorem wildcard_host_denied : NormalHost "*.example.com" ∧
      explicitAllowCoversHost (some (mergeAlwaysOverlay none [domainRule "deny" "s.example.com"]
        [domainRule "allow" "*.example.com"])) "*.example.com" = true ∧
      (hostMatches .onAscii "s.example.com" "*.example.com").1 = true ∧
      (mergeAlwaysOverlay none [domainRule "deny" "s.example.com"]
        [domainRule "allow" "*.example.com"]).evaluate "s.example.com" = actionDeny := by
  refine ⟨.inr ⟨"example.com",?_,rfl⟩,?_⟩ <;> decide +kernel

end OpenSandbox.Mitm
