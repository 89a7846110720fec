import OpenSandbox.Egress.Vault.Integrity
import OpenSandbox.Egress.Mitm.Select

namespace OpenSandbox.Mitm

open PyText Vault List Outcome GoText

structure HostText (s : String) : Prop where
  lowered : Lowered s
  undotted : s.toList.getLast? ≠ some '.'

variable {s : String}

theorem HostText.canonical (h : HostText s) (py : Lower) : py.lower (rstripDots s) = s := by
  rw [rstripDots_eq_self h.undotted,py.lower_eq_self h.lowered]

theorem HostText.append {t : String} (ht : Lowered t) (hs : HostText s) (hne : s ≠ "") :
    HostText (t ++ s) := by
  refine ⟨?_,?_⟩
  · intro c hc
    rcases mem_append.mp (String.toList_append ▸ hc) with hc | hc
    · exact ht c hc
    · exact hs.lowered c hc
  · have hlist : s.toList ≠ [] := by simpa using hne
    rw [String.toList_append,getLast?_append_of_ne_nil _ hlist]
    exact hs.undotted

theorem isAlnum_plain {c : Char} (h : isAlnum c = true) :
    (c.toNat < 128 ∧ ¬ ('A' ≤ c ∧ c ≤ 'Z')) ∧ GoText.isSpace c = false := by
  rw [← Bool.not_eq_true,isSpace_iff]
  simp only [isAlnum,Bool.or_eq_true,Bool.and_eq_true,decide_eq_true_eq,Char.le_def,
    UInt32.le_iff_toNat_le,spaceCodes] at h ⊢
  simp only [Char.toNat]
  simp at h ⊢
  omega

theorem fqdn_char (h : isValidCredentialFQDN s = true) {c : Char} (hc : c ∈ s.toList) :
    (c.toNat < 128 ∧ ¬ ('A' ≤ c ∧ c ≤ 'Z')) ∧ GoText.isSpace c = false := by
  simp only [isValidCredentialFQDN,Bool.and_eq_true,all_eq_true,isHostnameLabel] at h
  have hsplit : c = '.' ∨ ∃ label ∈ s.toList.splitOn '.', c ∈ label := mem_splitOn hc
  rcases hsplit with rfl | ⟨label,hlabel,hmem⟩
  · decide
  have hchar := (h.2 label hlabel).1.1.2 c hmem
  rcases Bool.or_eq_true_iff.mp hchar with halnum | hdash
  · exact isAlnum_plain halnum
  · rw [of_decide_eq_true hdash]
    decide

theorem fqdn_hostText (h : isValidCredentialFQDN s = true) : HostText s ∧ s ≠ "" := by
  have hchars (c : Char) (hc : c ∈ s.toList) := (fqdn_char h hc).1
  simp only [isValidCredentialFQDN,Bool.and_eq_true,all_eq_true,isHostnameLabel] at h
  obtain ⟨⟨_,hdot⟩,hlabels⟩ := h
  refine ⟨⟨hchars,fun hlast => ?_⟩,?_⟩
  · have hnil := hlabels [] (mem_of_mem_tail (nil_mem_splitOn hlast))
    simp at hnil
  · rintro rfl
    exact absurd hdot (by decide)

section Hosts

variable {py : Lower} {host : String}

theorem hostMatches_exact {pattern : String} (h : isValidCredentialFQDN pattern = true)
    (hstar : GoText.hasPrefix pattern "*." = false) :
    hostMatches py host pattern = (decide (host = pattern), 2) := by
  have hstarts : startsWith pattern "*." = false := hstar
  simp [hostMatches,(fqdn_hostText h).1.canonical,hstarts]

theorem lowered_star : Lowered "*." := by
  intro c hc
  fin_cases hc <;> decide

theorem hostMatches_wildcard {suffix : String} (h : isValidCredentialFQDN suffix = true) :
    hostMatches py host ("*." ++ suffix) = (decide ('.' :: suffix.toList <:+ host.toList), 1) := by
  obtain ⟨htext,hne⟩ := fqdn_hostText h
  have hlist : ("*." ++ suffix).toList = '*' :: '.' :: suffix.toList := by
    rw [String.toList_append]
    rfl
  have hstarts : startsWith ("*." ++ suffix) "*." = true := by
    rw [startsWith_iff,hlist]
    exact ⟨suffix.toList,rfl⟩
  have happex : '.' :: suffix.toList <:+ host.toList → host ≠ suffix := by
    rintro hsuffix rfl
    have := hsuffix.length_le
    simp at this
  simp only [hostMatches,(htext.append lowered_star hne).canonical,hstarts,if_true,hlist,
    drop_succ_cons,drop_zero,String.ofList_toList,Prod.mk.injEq,and_true]
  rw [Bool.eq_iff_iff,Bool.and_eq_true,endsWith_iff,decide_eq_true_eq,decide_eq_true_eq,
    String.toList_ofList]
  exact ⟨fun hboth => hboth.1,fun hsuffix => ⟨hsuffix,happex hsuffix⟩⟩

theorem hostMatches_precedence {pattern : String} {precedence : Nat}
    (h : hostMatches py host pattern = (true, precedence)) : precedence = 1 ∨ precedence = 2 := by
  simp only [hostMatches] at h
  split at h
  · exact .inl (Prod.mk.inj h).2.symm
  · exact .inr (Prod.mk.inj h).2.symm

theorem wildcardSuffix_append (suffix : String) : wildcardSuffix ("*." ++ suffix) = suffix := by
  rw [wildcardSuffix,String.toList_append]
  exact String.ofList_toList

theorem hasPrefix_star (suffix : String) : GoText.hasPrefix ("*." ++ suffix) "*." = true := by
  rw [hasPrefix_iff,String.toList_append]
  exact prefix_append _ _

theorem dotted_toList (s : String) : ("." ++ s).toList = '.' :: s.toList := by
  rw [String.toList_append]
  rfl

theorem hostsAmbiguous_exact {x y : String} (hx : GoText.hasPrefix x "*." = false) :
    hostsAmbiguous x y = true ↔ x = y := by
  rw [hostsAmbiguous]
  constructor
  · intro h
    split at h
    · cases h
    · simpa [hx] using h
  · rintro rfl
    simp [hx]

theorem hostsAmbiguous_wildcard (s t : String) : hostsAmbiguous ("*." ++ s) ("*." ++ t) = true ↔
      s = t ∨ '.' :: t.toList <:+ s.toList ∨ '.' :: s.toList <:+ t.toList := by
  simp only [hostsAmbiguous,hasPrefix_star,wildcardHostsOverlap,wildcardSuffix_append,
    Bool.or_eq_true,decide_eq_true_eq,hasSuffix_iff,dotted_toList,ne_eq,
    not_true_eq_false,if_false,if_true,or_assoc]

theorem hostsAmbiguous_of_matches {x y : String} {precedence : Nat} (hx : NormalHost x)
    (hy : NormalHost y) (hmatchx : hostMatches py host x = (true, precedence))
    (hmatchy : hostMatches py host y = (true, precedence)) : hostsAmbiguous x y = true := by
  rcases hx with ⟨hvalidx,hstarx⟩ | ⟨s,hvalids,rfl⟩ <;>
    rcases hy with ⟨hvalidy,hstary⟩ | ⟨t,hvalidt,rfl⟩
  · rw [hostMatches_exact hvalidx hstarx,Prod.mk.injEq,decide_eq_true_eq] at hmatchx
    rw [hostMatches_exact hvalidy hstary,Prod.mk.injEq,decide_eq_true_eq] at hmatchy
    exact (hostsAmbiguous_exact hstarx).mpr (hmatchx.1.symm.trans hmatchy.1)
  · rw [hostMatches_exact hvalidx hstarx,Prod.mk.injEq] at hmatchx
    rw [hostMatches_wildcard hvalidt,Prod.mk.injEq] at hmatchy
    omega
  · rw [hostMatches_wildcard hvalids,Prod.mk.injEq] at hmatchx
    rw [hostMatches_exact hvalidy hstary,Prod.mk.injEq] at hmatchy
    omega
  rw [hostMatches_wildcard hvalids,Prod.mk.injEq,decide_eq_true_eq] at hmatchx
  rw [hostMatches_wildcard hvalidt,Prod.mk.injEq,decide_eq_true_eq] at hmatchy
  rw [hostsAmbiguous_wildcard]
  rcases suffix_or_suffix_of_suffix hmatchx.1 hmatchy.1 with h | h
  · rcases suffix_cons_iff.mp h with heq | h
    · exact .inl (String.toList_inj.mp (cons.inj heq).2)
    · exact .inr (.inr h)
  · rcases suffix_cons_iff.mp h with heq | h
    · exact .inl (String.toList_inj.mp (cons.inj heq).2.symm)
    · exact .inr (.inl h)

end Hosts

def longLabel (n : Nat) : String := String.ofList (List.replicate (n + 1) 'a')

theorem lowered_longLabel (n : Nat) : Lowered (longLabel n ++ ".") := by
  intro c hc
  rw [String.toList_append,longLabel,String.toList_ofList] at hc
  rcases mem_append.mp hc with hc | hc
  · rw [eq_of_mem_replicate hc]
    decide
  · fin_cases hc
    decide

structure Reaches (py : Lower) (x y : String) (n : Nat) (host : String) (precedence : Nat) :
    Prop where
  text : HostText host
  nonempty : host ≠ ""
  first : hostMatches py host x = (true, precedence)
  second : hostMatches py host y = (true, precedence)
  fresh : precedence = 2 ∨ precedence = 1 ∧ n < host.toList.length

theorem reaches_wildcard (py : Lower) {t : String} (hs : isValidCredentialFQDN s = true)
    (ht : isValidCredentialFQDN t = true) (n : Nat) (h : s = t ∨ '.' :: t.toList <:+ s.toList) :
    Reaches py ("*." ++ s) ("*." ++ t) n (longLabel n ++ "." ++ s) 1 := by
  obtain ⟨htext,hne⟩ := fqdn_hostText hs
  have hlist : (longLabel n ++ "." ++ s).toList = replicate (n + 1) 'a' ++ '.' :: s.toList := by
    simp [longLabel]
  have hsuffix : '.' :: s.toList <:+ (longLabel n ++ "." ++ s).toList := by
    rw [hlist]
    exact suffix_append _ _
  refine ⟨htext.append (lowered_longLabel n) hne,?_,?_,?_,.inr ⟨rfl,?_⟩⟩
  · intro hempty
    have := congrArg (·.toList.length) hempty
    simp [hlist] at this
  · rw [hostMatches_wildcard hs,decide_eq_true hsuffix]
  · rw [hostMatches_wildcard ht,decide_eq_true]
    rcases h with rfl | h
    · exact hsuffix
    · exact (h.trans (suffix_cons _ _)).trans hsuffix
  · rw [hlist]
    simp
    omega

theorem exists_reaches (py : Lower) {x y : String} (hx : NormalHost x) (hy : NormalHost y)
    (h : hostsAmbiguous x y = true) (n : Nat) :
    ∃ host precedence, Reaches py x y n host precedence := by
  rcases hx with ⟨hvalidx,hstarx⟩ | ⟨s,hvalids,rfl⟩
  · obtain rfl := (hostsAmbiguous_exact hstarx).mp h
    obtain ⟨htext,hne⟩ := fqdn_hostText hvalidx
    have hself : hostMatches py x x = (true, 2) := by simp [hostMatches_exact hvalidx hstarx]
    exact ⟨x,2,htext,hne,hself,hself,.inl rfl⟩
  rcases hy with ⟨hvalidy,hstary⟩ | ⟨t,hvalidt,rfl⟩
  · rw [hostsAmbiguous_comm] at h
    have := (hostsAmbiguous_exact hstary).mp h
    rw [this,hasPrefix_star] at hstary
    cases hstary
  · rcases (hostsAmbiguous_wildcard s t).mp h with heq | h | h
    · exact ⟨_,1,reaches_wildcard py hvalids hvalidt n (.inl heq)⟩
    · exact ⟨_,1,reaches_wildcard py hvalids hvalidt n (.inr h)⟩
    · obtain ⟨htext,hne,hfirst,hsecond,hfresh⟩ := reaches_wildcard py hvalidt hvalids n (.inr h)
      exact ⟨_,1,htext,hne,hsecond,hfirst,hfresh⟩

variable {path : String}

theorem pathMatches_iff {pattern : String} : pathMatches path pattern = true ↔
      path = pattern ∨ endsWith pattern "*" = true ∧ pattern.toList.dropLast <+: path.toList := by
  rw [pathMatches]
  split_ifs with hstar
  · rw [startsWith_iff,String.toList_ofList]
    refine ⟨fun h => .inr ⟨hstar,h⟩,?_⟩
    rintro (rfl | ⟨_,h⟩)
    · exact dropLast_prefix _
    · exact h
  · simp [hstar]

theorem pathMatches_self (path : String) : pathMatches path path = true :=
  pathMatches_iff.mpr (.inl rfl)

theorem pathPatternOverlaps_iff {x y : String} :
    pathPatternOverlaps x y = true ↔ pathMatches x y = true ∨ pathMatches y x = true := by
  have hx : x.toList.dropLast <+: x.toList := dropLast_prefix _
  have hy : y.toList.dropLast <+: y.toList := dropLast_prefix _
  simp only [pathMatches_iff,pathPatternOverlaps,dropStar,Bool.and_eq_true,hasPrefix_iff,
    hasSuffix_iff,endsWith_iff,String.toList_ofList]
  split
  · next heq => simp [heq]
  split
  · next h => exact ⟨fun _ => .inr (.inr h),fun _ => rfl⟩
  split
  · next h => exact ⟨fun _ => .inl (.inr h),fun _ => rfl⟩
  split
  · next hne hleft hright hstars =>
    simp only [Bool.or_eq_true,hasPrefix_iff,String.toList_ofList]
    constructor
    · rintro (h | h)
      · exact .inl (.inr ⟨hstars.2,h.trans hx⟩)
      · exact .inr (.inr ⟨hstars.1,h.trans hy⟩)
    rintro ((h | h) | (h | h))
    · exact absurd h hne
    · exact absurd h hright
    · exact absurd h.symm hne
    · exact absurd h hleft
  · next hne hleft hright _ =>
    simp only [Bool.false_eq_true,false_iff,not_or]
    exact ⟨⟨hne,hright⟩,fun h => hne h.symm,hleft⟩

theorem pathPatternOverlaps_of_matches {x y : String} (hx : pathMatches path x = true)
    (hy : pathMatches path y = true) : pathPatternOverlaps x y = true := by
  rw [pathPatternOverlaps_iff]
  rcases pathMatches_iff.mp hx with rfl | ⟨hstarx,hprex⟩
  · exact .inl hy
  rcases pathMatches_iff.mp hy with rfl | ⟨hstary,hprey⟩
  · exact .inr hx
  rcases prefix_or_prefix_of_prefix hprex hprey with h | h
  · exact .inr (pathMatches_iff.mpr (.inr ⟨hstarx,h.trans ( dropLast_prefix _)⟩))
  · exact .inl (pathMatches_iff.mpr (.inr ⟨hstary,h.trans ( dropLast_prefix _)⟩))

theorem query_not_mem_of_matches {pattern : String} (hpath : '?' ∉ path.toList)
    (h : pathMatches path pattern = true) : '?' ∉ pattern.toList := by
  rcases pathMatches_iff.mp h with rfl | ⟨hstar,hfollows⟩
  · exact hpath
  obtain ⟨front,hfront⟩ := endsWith_iff.mp hstar
  rw [← hfront,show "*".toList = ['*'] from rfl] at hfollows ⊢
  rw [dropLast_concat] at hfollows
  simp only [mem_append,mem_singleton,not_or]
  exact ⟨fun hmem => hpath (hfollows.subset hmem),by decide⟩

section Precedence

variable {py : Lower} {host : String}

theorem raisePrecedence_attained (best : Nat) (m : Bool × Nat) :
    raisePrecedence best m = best ∨ m = (true, raisePrecedence best m) := by
  rw [raisePrecedence]
  split
  · next h => exact .inr (Prod.ext (Bool.and_eq_true_iff.mp h).1 rfl)
  · exact .inl rfl

theorem le_raisePrecedence (best : Nat) (m : Bool × Nat) :
    best ≤ raisePrecedence best m ∧ ∀ p, m = (true, p) → p ≤ raisePrecedence best m := by
  refine ⟨?_,?_⟩
  · rw [raisePrecedence]
    split
    · next h => exact le_of_lt (of_decide_eq_true (Bool.and_eq_true_iff.mp h).2)
    · exact Nat.le_refl _
  · rintro p rfl
    simp only [raisePrecedence,Bool.true_and,decide_eq_true_eq]
    split
    · exact Nat.le_refl _
    · omega

theorem bestPrecedence_attained (best : Nat) (hosts : List String) :
    bestPrecedence py host best hosts = best ∨ ∃ pattern ∈ hosts, hostMatches py host pattern =
        (true, bestPrecedence py host best hosts) := by
  induction hosts generalizing best with
  | nil => exact .inl rfl
  | cons pattern hosts ih =>
    rw [bestPrecedence]
    rcases ih (raisePrecedence best (hostMatches py host pattern)) with heq | ⟨other,hmem,h⟩
    · rw [heq]
      rcases raisePrecedence_attained best (hostMatches py host pattern) with hsame | h
      · exact .inl hsame
      · exact .inr ⟨pattern,mem_cons_self,h⟩
    · exact .inr ⟨other,mem_cons_of_mem _ hmem,h⟩

theorem le_bestPrecedence (best : Nat) (hosts : List String) :
    best ≤ bestPrecedence py host best hosts ∧
      ∀ pattern ∈ hosts, ∀ precedence, hostMatches py host pattern = (true, precedence) →
        precedence ≤ bestPrecedence py host best hosts := by
  induction hosts generalizing best with
  | nil => exact ⟨Nat.le_refl _,by simp⟩
  | cons pattern hosts ih =>
    rw [bestPrecedence]
    obtain ⟨hle,hrest⟩ := ih (raisePrecedence best (hostMatches py host pattern))
    obtain ⟨hbest,hpattern⟩ := le_raisePrecedence best (hostMatches py host pattern)
    refine ⟨hbest.trans hle,forall_mem_cons.mpr ⟨fun precedence hother => ?_,hrest⟩⟩
    exact (hpattern precedence hother).trans hle

end Precedence

structure Hits (py : Lower) (flow : Flow) (m : Match) : Prop where
  scheme : py.lower flow.scheme ∈ m.schemes
  port : requestPort flow = canonicalPort (py.lower flow.scheme)
  method : ∃ method ∈ m.methods, upper method = upper flow.method
  path : ∃ pattern ∈ m.paths, pathMatches (requestPath flow) pattern = true

theorem orDefault_eq {values defaults : List String} (h : values ≠ []) :
    orDefault values defaults = values := if_neg h

theorem matches_iff {py : Lower} {flow : Flow} {b : ActiveBinding} {precedence : Nat}
    (hm : NormalMatch b.matching) :
    Matches py flow b precedence ↔ Hits py flow b.matching ∧ 0 < precedence ∧
      bestPrecedence py (requestHost py flow) 0 b.matching.hosts = precedence := by
  simp only [Matches,bindingMatches,orDefault_eq hm.schemes_ne,orDefault_eq hm.methods_ne,
    orDefault_eq hm.paths_ne]
  constructor
  · intro h
    split at h
    · cases h
    next hscheme =>
    split at h
    · cases h
    next hport =>
    split at h
    · cases h
    next hmethod =>
    split_ifs at h with hpath
    · cases h
    obtain ⟨hpos,rfl⟩ := Prod.mk.inj h
    refine ⟨⟨not_not.mp hscheme,not_not.mp hport,?_,?_⟩,of_decide_eq_true hpos,rfl⟩
    · exact mem_map.mp (not_not.mp hmethod)
    · simpa using hpath
  · rintro ⟨⟨hscheme,hport,hmethod,hpath⟩,hpos,rfl⟩
    rw [if_neg (not_not.mpr hscheme),if_neg (not_not.mpr hport),
      if_neg (not_not.mpr (mem_map.mpr hmethod)),if_neg (by simpa using hpath)]
    simp [hpos]

section Snapshot

variable {Ctx Src : Type} {sources : Sources Ctx Src} {ctx : Ctx}

structure Shows (bindings : List ActiveBinding) (m : GoMap Binding) : Prop where
  names : (bindings.map (·.name)).Nodup
  source : ∀ a ∈ bindings, ∃ b, m.lookup a.name = some b ∧ a.matching = b.matching
  complete : ∀ k b, m.lookup k = some b → ∃ a ∈ bindings, a.name = k ∧ a.matching = b.matching

theorem activeSnapshot_faces {s : Store Src} {snapshot : ActiveSnapshot}
    (h : s.activeSnapshot sources ctx = .ok snapshot) :
    snapshot.bindings.map (fun a => (a.name, a.matching)) =
      (sortedBindings s.bindings).map fun b => (b.name, b.matching) := by
  rw [Store.activeSnapshot] at h
  split_ifs at h
  obtain ⟨rendered,hrendered,hok⟩ := bind_eq_ok.mp h
  cases hok
  clear h
  rw [mapM_eq_ok] at hrendered
  rw [map_map]
  generalize sortedBindings s.bindings = bindings at hrendered
  induction hrendered with
  | nil => rfl
  | cons hface _ ih =>
    obtain ⟨_,_,hface⟩ := bind_eq_ok.mp hface
    obtain ⟨_,_,hface⟩ := bind_eq_ok.mp hface
    cases hface
    exact congrArg (cons _) ih

theorem sortedBindings_names {m : GoMap Binding} (hm : m.Entries fun k b => b.name = k) :
    (sortedBindings m).map (·.name) = m.keys.insertionSort (· ≤ ·) := by
  have hkeys : ∀ keys : List String, (∀ k ∈ keys, k ∈ m) →
      (keys.filterMap m.lookup).map (·.name) = keys := by
    intro keys hmem
    induction keys with
    | nil => rfl
    | cons k keys ih =>
      rw [forall_mem_cons] at hmem
      obtain ⟨b,hb⟩ := Option.isSome_iff_exists.mp (AList.lookup_isSome.mpr hmem.1)
      simp only [filterMap_cons,hb,map_cons,hm k b hb,ih hmem.2]
  apply hkeys
  intro k hk
  rwa [mem_insertionSort,AList.mem_keys.symm] at hk

theorem mem_sortedBindings {m : GoMap Binding} {b : Binding} :
    b ∈ sortedBindings m ↔ ∃ k, m.lookup k = some b := by
  rw [sortedBindings,mem_filterMap]
  constructor
  · rintro ⟨k,_,hk⟩
    exact ⟨k,hk⟩
  rintro ⟨k,hk⟩
  refine ⟨k,?_,hk⟩
  rw [mem_insertionSort,AList.mem_keys.symm,← AList.lookup_isSome,hk]
  rfl

theorem activeSnapshot_shows {s : Store Src} (hs : Accepted s) {snapshot : ActiveSnapshot}
    (h : s.activeSnapshot sources ctx = .ok snapshot) : Shows snapshot.bindings s.bindings := by
  have hfaces := activeSnapshot_faces h
  refine ⟨?_,fun a ha => ?_,fun k b hk => ?_⟩
  · have hnames := congrArg (map Prod.fst) hfaces
    rw [map_map,map_map] at hnames
    have hsorted := sortedBindings_names hs.integral.bindingNames
    rw [show snapshot.bindings.map (·.name) = _ from hnames.trans hsorted]
    exact (perm_insertionSort _ _).nodup_iff.mpr s.bindings.keys_nodup
  · have hmem := mem_map_of_mem (f := fun a => (a.name, a.matching)) ha
    rw [hfaces] at hmem
    obtain ⟨b,hb,heq⟩ := mem_map.mp hmem
    obtain ⟨k,hk⟩ := mem_sortedBindings.mp hb
    obtain ⟨hname,hmatching⟩ := Prod.mk.inj heq
    rw [← hname,hs.integral.bindingNames k b hk]
    exact ⟨b,hk,hmatching.symm⟩
  · have hmem := mem_map_of_mem (f := fun b => (b.name, b.matching))
      (mem_sortedBindings.mpr ⟨k,hk⟩)
    rw [← hfaces] at hmem
    obtain ⟨a,ha,heq⟩ := mem_map.mp hmem
    obtain ⟨hname,hmatching⟩ := Prod.mk.inj heq
    exact ⟨a,ha,hname.trans (hs.integral.bindingNames k b hk),hmatching⟩

end Snapshot

structure Collides (a b : Match) : Prop where
  scheme : ∃ scheme ∈ a.schemes, scheme ∈ b.schemes
  method : ∃ x ∈ a.methods, ∃ y ∈ b.methods, x ≠ y ∧ upper x = upper y
  path : ∃ x ∈ a.paths, ∃ y ∈ b.paths, '?' ∉ x.toList ∧ '?' ∉ y.toList ∧
    pathPatternOverlaps x y = true
  host : ∃ x ∈ a.hosts, ∃ y ∈ b.hosts, hostsAmbiguous x y = true

theorem query_not_mem_requestPath (flow : Flow) : '?' ∉ (requestPath flow).toList := by
  rw [requestPath,orText]
  split
  · decide
  · exact query_not_mem_beforeQuery _

section Ties

variable {py : Lower} {flow : Flow} {a b : ActiveBinding}

variable {precedence : Nat}

theorem matched_host (hm : NormalMatch b.matching) (h : Matches py flow b precedence) :
    ∃ pattern ∈ b.matching.hosts,
      hostMatches py (requestHost py flow) pattern = (true, precedence) := by
  obtain ⟨_,hpos,rfl⟩ := (matches_iff hm).mp h
  exact (bestPrecedence_attained 0 b.matching.hosts).resolve_left (Nat.ne_of_gt hpos)

theorem collides_of_tie {x y : Binding} (hx : NormalMatch x.matching) (hy : NormalMatch y.matching)
    (hapart : Apart x y) (ha : a.matching = x.matching) (hb : b.matching = y.matching)
    (hmatcha : Matches py flow a precedence) (hmatchb : Matches py flow b precedence) :
    Collides x.matching y.matching := by
  rw [← ha] at hx
  rw [← hb] at hy
  obtain ⟨hitsa,_,_⟩ := (matches_iff hx).mp hmatcha
  obtain ⟨hitsb,_,_⟩ := (matches_iff hy).mp hmatchb
  obtain ⟨u,hu,hmatchu⟩ := matched_host hx hmatcha
  obtain ⟨v,hv,hmatchv⟩ := matched_host hy hmatchb
  obtain ⟨p,hp,hmatchp⟩ := hitsa.path
  obtain ⟨q,hq,hmatchq⟩ := hitsb.path
  obtain ⟨m,hm,hupperm⟩ := hitsa.method
  obtain ⟨n,hn,huppern⟩ := hitsb.method
  have hpaths := pathPatternOverlaps_of_matches hmatchp hmatchq
  have hhosts := hostsAmbiguous_of_matches (hx.hosts u hu) (hy.hosts v hv) hmatchu hmatchv
  have hfree := query_not_mem_requestPath flow
  have hschemea := hitsa.scheme
  have hschemeb := hitsb.scheme
  rw [ha] at hschemea hm hp hu
  rw [hb] at hschemeb hn hq hv
  refine ⟨⟨_,hschemea,hschemeb⟩,⟨m,hm,n,hn,?_,hupperm.trans huppern.symm⟩,
    ⟨p,hp,q,hq,query_not_mem_of_matches hfree hmatchp,
      query_not_mem_of_matches hfree hmatchq,hpaths⟩,⟨u,hu,v,hv,hhosts⟩⟩
  rintro rfl
  have hambiguous := bindingsAmbiguous_iff.mpr
    ⟨⟨_,hschemea,hschemeb⟩,⟨m,hm,hn⟩,⟨p,hp,q,hq,hpaths⟩,⟨u,hu,v,hv,hhosts⟩⟩
  rw [Apart,hambiguous] at hapart
  cases hapart

def requestFor (scheme host method path : String) : Flow :=
  ⟨scheme,host,host,canonicalPort scheme,method,path⟩

theorem requestPort_requestFor (scheme host method path : String) :
    requestPort (requestFor scheme host method path) = canonicalPort scheme := by
  have hpos : canonicalPort scheme ≠ 0 := by
    rw [canonicalPort]
    split <;> decide
  exact if_pos hpos

theorem requestPath_requestFor {path : String} (hslash : GoText.hasPrefix path "/" = true)
    (hfree : '?' ∉ path.toList) (scheme host method : String) :
    requestPath (requestFor scheme host method path) = path := by
  have hne : path ≠ "" := by
    rintro rfl
    exact absurd hslash (by decide)
  simp [requestPath,requestFor,orText,hne,beforeQuery_eq_self hfree]

theorem lowered_scheme {scheme : String} (h : scheme = "https" ∨ scheme = "http") :
    py.lower scheme = scheme := by
  apply py.lower_eq_self
  rcases h with rfl | rfl <;> intro c hc <;> fin_cases hc <;> decide

theorem common_path {x y : String} (hx : GoText.hasPrefix x "/" = true)
    (hy : GoText.hasPrefix y "/" = true) (hfreex : '?' ∉ x.toList) (hfreey : '?' ∉ y.toList)
    (h : pathPatternOverlaps x y = true) :
    ∃ path, GoText.hasPrefix path "/" = true ∧ '?' ∉ path.toList ∧
      pathMatches path x = true ∧ pathMatches path y = true := by
  rcases pathPatternOverlaps_iff.mp h with h | h
  · exact ⟨x,hx,hfreex,pathMatches_self x,h⟩
  · exact ⟨y,hy,hfreey,h,pathMatches_self y⟩

theorem reaches_bounds {x y host pattern : String} {n other : Nat}
    (h : Reaches py x y n host precedence) (hpattern : NormalHost pattern)
    (hlength : pattern.toList.length ≤ n) (hother : hostMatches py host pattern = (true, other)) :
    other ≤ precedence := by
  rcases hpattern with ⟨hvalid,hstar⟩ | ⟨suffix,hvalid,rfl⟩
  · rw [hostMatches_exact hvalid hstar,Prod.mk.injEq,decide_eq_true_eq] at hother
    obtain ⟨rfl,rfl⟩ := hother
    rcases h.fresh with hprecedence | ⟨_,hlong⟩ <;> omega
  · rw [hostMatches_wildcard hvalid,Prod.mk.injEq] at hother
    rcases h.fresh with hprecedence | ⟨hprecedence,_⟩ <;> omega

theorem exists_length_bound (bindings : List ActiveBinding) :
    ∃ n, ∀ c ∈ bindings, ∀ pattern ∈ c.matching.hosts, pattern.toList.length ≤ n := by
  refine ⟨((bindings.flatMap (·.matching.hosts)).map (·.toList.length)).foldr max 0,?_⟩
  intro c hc pattern hpattern
  exact le_max_of_le' 0 (mem_map_of_mem (mem_flatMap.mpr ⟨c,hc,hpattern⟩)) (Nat.le_refl _)

theorem hits_requestFor {m : Match} {scheme host method path x pattern : String}
    (hnormal : NormalMatch m) (hscheme : scheme ∈ m.schemes) (hx : x ∈ m.methods)
    (hupper : upper x = upper method) (hpattern : pattern ∈ m.paths)
    (hslash : GoText.hasPrefix path "/" = true) (hfree : '?' ∉ path.toList)
    (hpath : pathMatches path pattern = true) :
    Hits py (requestFor scheme host method path) m := by
  have hlower : py.lower (requestFor scheme host method path).scheme = scheme :=
    lowered_scheme (hnormal.schemes scheme hscheme)
  refine ⟨by rwa [hlower],?_,⟨x,hx,hupper⟩,⟨pattern,hpattern,?_⟩⟩
  · rw [hlower,requestPort_requestFor]
  · rwa [requestPath_requestFor hslash hfree]

theorem exists_tie (py : Lower) {bindings : List ActiveBinding}
    (hnormal : ∀ c ∈ bindings, NormalMatch c.matching) (ha : a ∈ bindings) (hb : b ∈ bindings)
    (h : Collides a.matching b.matching) : ∃ flow, Tied py flow bindings a b := by
  obtain ⟨⟨scheme,hschemea,hschemeb⟩,⟨m,hm,n,hn,_,hupper⟩,
    ⟨p,hp,q,hq,hfreep,hfreeq,hoverlap⟩,⟨u,hu,v,hv,hambiguous⟩⟩ := h
  obtain ⟨bound,hbound⟩ := exists_length_bound bindings
  obtain ⟨host,precedence,hreach⟩ :=
    exists_reaches py ((hnormal a ha).hosts u hu) ((hnormal b hb).hosts v hv) hambiguous bound
  obtain ⟨path,hslash,hfree,hpathp,hpathq⟩ :=
    common_path ((hnormal a ha).paths p hp) ((hnormal b hb).paths q hq) hfreep hfreeq hoverlap
  have hor : orText host host = host := by simp [orText]
  have hhost : requestHost py (requestFor scheme host m path) = host :=
    (congrArg (fun t => py.lower (rstripDots t)) hor).trans (hreach.text.canonical py)
  have hmost : ∀ c ∈ bindings, ∀ pattern ∈ c.matching.hosts, ∀ other,
      hostMatches py host pattern = (true, other) → other ≤ precedence :=
    fun c hc pattern hpattern _ hother => reaches_bounds hreach
      ((hnormal c hc).hosts pattern hpattern) (hbound c hc pattern hpattern) hother
  have hmatch : ∀ c ∈ bindings, ∀ pattern ∈ c.matching.hosts,
      hostMatches py host pattern = (true, precedence) →
      Hits py (requestFor scheme host m path) c.matching →
      Matches py (requestFor scheme host m path) c precedence := by
    intro c hc pattern hpattern hhit hhits
    have hpos := hostMatches_precedence hhit
    refine (matches_iff (hnormal c hc)).mpr ⟨hhits,by omega,?_⟩
    rw [hhost]
    refine Nat.le_antisymm ?_ ((le_bestPrecedence 0 _).2 pattern hpattern _ hhit)
    rcases bestPrecedence_attained 0 c.matching.hosts with hzero | ⟨other,hother,hattained⟩
    · rw [hzero]
      exact Nat.zero_le _
    · exact hmost c hc other hother _ hattained
  have hitsa : Hits py (requestFor scheme host m path) a.matching :=
    hits_requestFor (hnormal a ha) hschemea hm rfl hp hslash hfree hpathp
  have hitsb : Hits py (requestFor scheme host m path) b.matching :=
    hits_requestFor (hnormal b hb) hschemeb hn hupper.symm hq hslash hfree hpathq
  refine ⟨requestFor scheme host m path,precedence,hmatch a ha u hu hreach.first hitsa,
    hmatch b hb v hv hreach.second hitsb,fun c hc other hother => ?_⟩
  obtain ⟨pattern,hpattern,hattained⟩ := matched_host (hnormal c hc) hother
  rw [hhost] at hattained
  exact hmost c hc pattern hpattern other hattained

end Ties

section Selection

variable {Ctx Src : Type} {sources : Sources Ctx Src} {ctx : Ctx}

def NoCollision (bindings : GoMap Binding) : Prop :=
  ∀ k k' b b', bindings.lookup k = some b → bindings.lookup k' = some b' → k ≠ k' →
    ¬ Collides b.matching b'.matching

theorem selection_unambiguous_iff {s : Store Src} (h : Reached sources s)
    {snapshot : ActiveSnapshot} (hsnapshot : s.activeSnapshot sources ctx = .ok snapshot)
    (py : Lower) :
    (∀ flow, selectBinding py flow snapshot.bindings ≠ .ambiguous) ↔ NoCollision s.bindings := by
  have haccepted := h.accepted
  have hshows := activeSnapshot_shows haccepted hsnapshot
  have hnormal : ∀ k b, s.bindings.lookup k = some b → NormalMatch b.matching := by
    intro k b hk
    obtain ⟨_,raw,hraw⟩ := haccepted.bindings k b hk
    exact normalizeMatch_normal (normalizeBinding_ok hraw).1
  constructor
  · intro hunambiguous k k' b b' hk hk' hne hcollides
    obtain ⟨x,hx,rfl,hmatchx⟩ := hshows.complete k b hk
    obtain ⟨y,hy,rfl,hmatchy⟩ := hshows.complete k' b' hk'
    rw [← hmatchx,← hmatchy] at hcollides
    have hactive : ∀ c ∈ snapshot.bindings, NormalMatch c.matching := by
      intro c hc
      obtain ⟨d,hd,heq⟩ := hshows.source c hc
      exact heq ▸ hnormal c.name d hd
    obtain ⟨flow,htied⟩ := exists_tie py hactive hx hy hcollides
    exact hunambiguous flow (ambiguous_of_tied hx hy hne htied)
  · intro hnone flow hambiguous
    obtain ⟨a,ha,b,hb,hne,precedence,hmatcha,hmatchb,_⟩ :=
      tied_of_ambiguous hshows.names hambiguous
    obtain ⟨x,hx,hax⟩ := hshows.source a ha
    obtain ⟨y,hy,hby⟩ := hshows.source b hb
    exact hnone a.name b.name x y hx hy hne (collides_of_tie (hnormal a.name x hx)
      (hnormal b.name y hy) (haccepted.apart hx hy hne) hax hby hmatcha hmatchb)

end Selection

def methodStore (first second : String) : Store String :=
  (Store.new.call inlineSources (createWith
    [bearerBinding "first" "api.example.com" first,
      bearerBinding "second" "api.example.com" second])).2

def methodSnapshot (first second : String) : Except SnapshotError ActiveSnapshot :=
  (methodStore first second).activeSnapshot inlineSources ()

def matchingsOf (bindings : GoMap Binding) : List (String × Match) :=
  bindings.entries.map fun e => (e.1, e.2.matching)

theorem noCollision_of_methods {bindings : GoMap Binding}
    (h : ∀ e ∈ matchingsOf bindings, ∀ e' ∈ matchingsOf bindings, e.1 ≠ e'.1 →
      ∀ x ∈ e.2.methods, ∀ y ∈ e'.2.methods, upper x ≠ upper y) : NoCollision bindings := by
  intro k k' b b' hk hk' hne hcollides
  have hmem {k : String} {b : Binding} (hk : bindings.lookup k = some b) :
      (k, b.matching) ∈ matchingsOf bindings :=
    mem_map.mpr ⟨⟨k,b⟩,AList.mem_lookup_iff.mp hk,rfl⟩
  obtain ⟨x,hx,y,hy,_,heq⟩ := hcollides.method
  exact h _ (hmem hk) _ (hmem hk') hne x hx y hy heq

theorem selection_unambiguous_getPost :
    ∃ snapshot, methodSnapshot "get" "post" = .ok snapshot ∧ snapshot.bindings.length = 2 ∧
      ∀ flow, selectBinding Lower.onAscii flow snapshot.bindings ≠ .ambiguous := by
  have hreached : Reached inlineSources (methodStore "get" "post") := .step (.start rfl) trivial rfl
  obtain ⟨hcount,hmethods⟩ : ((methodSnapshot "get" "post").map (·.bindings.length)).toOption =
      some 2 ∧ ∀ e ∈ matchingsOf (methodStore "get" "post").bindings,
        ∀ e' ∈ matchingsOf (methodStore "get" "post").bindings, e.1 ≠ e'.1 →
          ∀ x ∈ e.2.methods, ∀ y ∈ e'.2.methods, upper x ≠ upper y := by
    decide +kernel
  cases hsnapshot : methodSnapshot "get" "post" with
  | error e =>
    rw [hsnapshot] at hcount
    cases hcount
  | ok snapshot =>
    rw [hsnapshot] at hcount
    have hiff := selection_unambiguous_iff hreached hsnapshot Lower.onAscii
    exact ⟨snapshot,rfl,Option.some.inj hcount,hiff.mpr (noCollision_of_methods hmethods)⟩

theorem sharp_s_ties : (methodSnapshot "ß" "SS").map (fun snapshot =>
      selectBinding Lower.onAscii (requestFor "https" "api.example.com" "SS" "/")
        snapshot.bindings) = .ok .ambiguous := by
  decide +kernel

end OpenSandbox.Mitm
