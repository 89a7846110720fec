import OpenSandbox.Egress.PolicyText

namespace OpenSandbox.Policy

open GoText List Option

def dotSuffixes : List Char → List String
  | [] => []
  | c :: cs => if c = '.' then String.ofList (c :: cs) :: dotSuffixes cs else dotSuffixes cs

def scanWildcard (wildcard : List (String × CompiledDomainRule)) :
    Option CompiledDomainRule → List String → Option CompiledDomainRule
  | best, [] => best
  | best, suffix :: rest =>
      match wildcard.lookup suffix with
      | none => scanWildcard wildcard best rest
      | some rule =>
          if rule.index = 0 then some rule
          else if best.all (fun b => rule.index < b.index) then
            scanWildcard wildcard (some rule) rest
          else scanWildcard wildcard best rest

def CompiledDomainIndex.matchDomain (idx : CompiledDomainIndex) (domain : String) :
    Option String :=
  if domain = "" then none
  else
    match idx.exact.lookup domain with
    | some rule =>
        if rule.index = 0 then some rule.action
        else (scanWildcard idx.wildcard (some rule) (dotSuffixes domain.toList)).map (·.action)
    | none => (scanWildcard idx.wildcard none (dotSuffixes domain.toList)).map (·.action)

def EgressRule.pattern (r : EgressRule) : String := toLower (trimSpace r.target)

def EgressRule.matchesDomain (r : EgressRule) (domain : String) : Bool :=
  let pattern := r.pattern
  let domain := toLower domain
  if pattern = "" then false
  else if pattern = domain then true
  else
    match pattern.toList with
    | '*' :: '.' :: rest =>
        decide ('.' :: rest <:+ domain.toList) && decide (domain.toList ≠ rest)
    | _ => false

def NetworkPolicy.evaluateLinear (p : NetworkPolicy) (domain : String) : Option String :=
  (p.egress.find? fun r => decide (r.targetKind = .domain) && r.matchesDomain domain).map
    fun r => orDeny r.action

def trimDot (domain : String) : String :=
  match domain.toList.reverse with
  | '.' :: rest => String.ofList rest.reverse
  | _ => domain

def queryName (domain : String) : String := toLower (trimDot domain)

def NetworkPolicy.evaluate (p : NetworkPolicy) (domain : String) : String :=
  match p.domainIndex with
  | some idx =>
      match idx.matchDomain (queryName domain) with
      | some action => orDeny action
      | none => orDeny p.defaultAction
  | none =>
      match p.evaluateLinear (queryName domain) with
      | some action => action
      | none => orDeny p.defaultAction

def EgressRule.accepts (domain : String) (r : EgressRule) : Bool :=
  decide (r.targetKind = .domain) && r.matchesDomain domain

def EgressRule.indexKey (r : EgressRule) : Option (Bool × String) :=
  if r.targetKind ≠ .domain ∨ r.pattern = "" then none
  else match r.pattern.toList with
    | '*' :: '.' :: rest => some (true, String.ofList ('.' :: rest))
    | _ => some (false, r.pattern)

def firstRule (p : EgressRule → Bool) : Nat → List EgressRule → Option CompiledDomainRule
  | _, [] => none
  | i, r :: rs => if p r then some ⟨i,r.action⟩ else firstRule p (i + 1) rs

theorem le_firstRule {p : EgressRule → Bool} {i : Nat} {rs : List EgressRule}
    {rule : CompiledDomainRule} (h : firstRule p i rs = some rule) : i ≤ rule.index := by
  induction rs generalizing i with
  | nil => cases h
  | cons r rs ih =>
    rw [firstRule] at h
    split at h
    · cases h
      exact le_rfl
    · exact (Nat.le_succ i).trans (ih h)

section Scan

variable (p q : EgressRule → Bool) (i : Nat) (rs : List EgressRule)

theorem firstRule_action : (firstRule p i rs).map (·.action) = (rs.find? p).map (·.action) := by
  induction rs generalizing i with
  | nil => rfl
  | cons r rs ih => cases hp : p r <;> simp [firstRule,hp,ih]

theorem firstRule_or : firstRule (fun r => p r || q r) i rs = match firstRule q i rs with
    | none => firstRule p i rs
    | some rule =>
        if (firstRule p i rs).all (fun b => rule.index < b.index) then some rule
        else firstRule p i rs := by
  induction rs generalizing i with
  | nil => rfl
  | cons r rs ih =>
    cases hp : p r with
    | false =>
      cases hq : q r with
      | false => simpa [firstRule,hp,hq] using ih (i + 1)
      | true =>
        have hlater : (firstRule p (i + 1) rs).all (fun b => i < b.index) = true := by
          rw [Option.all_eq_true]
          exact fun b hb => decide_eq_true (le_firstRule hb)
        simp [firstRule,hp,hq,hlater]
    | true =>
      cases hq : q r with
      | false =>
        cases hrule : firstRule q (i + 1) rs with
        | none => simp [firstRule,hp,hq,hrule]
        | some rule =>
          have hle := le_firstRule hrule
          simp [firstRule,hp,hq,hrule,show ¬ rule.index < i by omega]
      | true => simp [firstRule,hp,hq]

theorem firstRule_zero {rule : CompiledDomainRule} (h : firstRule q i rs = some rule)
    (hzero : rule.index = 0) : firstRule (fun r => q r || p r) i rs = some rule := by
  rw [firstRule_or,h]
  split
  · rfl
  · simp [hzero]

theorem scanWildcard_firstRule {wildcard : List (String × CompiledDomainRule)}
    {key : String → EgressRule → Bool} (h : ∀ k, wildcard.lookup k = firstRule (key k) i rs)
    (suffixes : List String) :
    scanWildcard wildcard (firstRule p i rs) suffixes =
      firstRule (fun r => p r || suffixes.any (key · r)) i rs := by
  induction suffixes generalizing p with
  | nil => simp [scanWildcard]
  | cons suffix rest ih =>
    have hor := firstRule_or p (key suffix) i rs
    have hnext := ih fun r => p r || key suffix r
    simp only [Bool.or_assoc] at hnext
    rw [scanWildcard,h]
    cases hrule : firstRule (key suffix) i rs with
    | none =>
      rw [hrule] at hor
      rwa [hor] at hnext
    | some rule =>
      rw [hrule] at hor
      dsimp only at hor
      by_cases hzero : rule.index = 0
      · have hfirst := firstRule_zero (fun r => p r || rest.any (key · r)) _ i rs hrule hzero
        simp only [hzero,any_cons,if_true,Bool.or_left_comm (p _),hfirst]
      · simp only [hzero,if_false]
        by_cases hall : (firstRule p i rs).all (fun b => rule.index < b.index) = true
        · rw [if_pos hall] at hor ⊢
          rwa [hor] at hnext
        · rw [if_neg hall] at hor ⊢
          rwa [hor] at hnext

end Scan

variable {domain : String}

theorem mem_dotSuffixes {cs rest : List Char} :
    String.ofList ('.' :: rest) ∈ dotSuffixes cs ↔ '.' :: rest <:+ cs := by
  induction cs with
  | nil => simp [dotSuffixes]
  | cons c cs ih =>
    rw [dotSuffixes,suffix_cons_iff]
    split
    · rw [mem_cons,ih,String.ofList_inj]
    · next hc =>
      rw [ih,cons.injEq]
      exact ⟨.inr,fun h => h.resolve_left fun heq => hc heq.1.symm⟩

theorem lookup_insertFirst (m : List (String × CompiledDomainRule)) (k k' : String)
    (r : CompiledDomainRule) :
    (insertFirst m k r).lookup k' = (m.lookup k').or (if k = k' then some r else none) := by
  unfold insertFirst
  split
  · next hsome =>
    obtain ⟨x,hx⟩ := isSome_iff_exists.mp hsome
    split
    · next hk => simp [← hk,hx]
    · simp
  · by_cases hk : k = k'
    · simp [lookup_append,hk]
    · have hbeq : (k' == k) = false := beq_false_of_ne (Ne.symm hk)
      simp [lookup_append,lookup_cons,hbeq,hk]

theorem lookup_compileRule (idx : CompiledDomainIndex) (r : EgressRule) (i : Nat) (k : String) :
    (compileRule idx r i).exact.lookup k = (idx.exact.lookup k).or
        (if r.indexKey = some (false, k) then some ⟨i,r.action⟩ else none) ∧
      (compileRule idx r i).wildcard.lookup k = (idx.wildcard.lookup k).or
        (if r.indexKey = some (true, k) then some ⟨i,r.action⟩ else none) := by
  unfold compileRule
  simp only
  split
  · next hempty => simp [EgressRule.indexKey,EgressRule.pattern,hempty]
  next hempty =>
  split
  · next hpat =>
    simp [lookup_insertFirst,EgressRule.indexKey,EgressRule.pattern,hempty,hpat]
  · next hpat =>
    have hkey : r.indexKey = some (false, toLower (trimSpace r.target)) := by
      unfold EgressRule.indexKey EgressRule.pattern
      simp only [if_neg hempty]
    simp [lookup_insertFirst,hkey]

theorem lookup_compileDomainIndex (egress : List EgressRule) (k : String) :
    (compileDomainIndex egress).exact.lookup k =
        firstRule (fun r => r.indexKey = some (false, k)) 0 egress ∧
      (compileDomainIndex egress).wildcard.lookup k =
        firstRule (fun r => r.indexKey = some (true, k)) 0 egress := by
  have hfold (rs : List EgressRule) (i : Nat) (idx : CompiledDomainIndex) :
      let out := (rs.zipIdx i).foldl (fun idx ri => compileRule idx ri.1 ri.2) idx
      out.exact.lookup k = (idx.exact.lookup k).or
          (firstRule (fun r => r.indexKey = some (false, k)) i rs) ∧
        out.wildcard.lookup k = (idx.wildcard.lookup k).or
          (firstRule (fun r => r.indexKey = some (true, k)) i rs) := by
    induction rs generalizing i idx with
    | nil => simp [firstRule]
    | cons r rs ih =>
      obtain ⟨hexact,hwildcard⟩ := lookup_compileRule idx r i k
      have hrest := ih (i + 1) (compileRule idx r i)
      rw [hexact,hwildcard,Option.or_assoc,Option.or_assoc] at hrest
      simp only [zipIdx_cons,foldl_cons,firstRule,decide_eq_true_eq]
      refine ⟨hrest.1.trans ?_,hrest.2.trans ?_⟩
      all_goals split <;> simp
  exact hfold egress 0 ⟨[],[]⟩

section

variable (hlow : toLower domain = domain)

include hlow

theorem accepts_iff {r : EgressRule} :
    r.accepts domain = true ↔ r.targetKind = .domain ∧ (r.pattern ≠ "" ∧ r.pattern = domain ∨
      ∃ rest, r.pattern.toList = '*' :: '.' :: rest ∧ '.' :: rest <:+ domain.toList) := by
  rw [EgressRule.accepts,EgressRule.matchesDomain,hlow,Bool.and_eq_true,decide_eq_true_eq]
  refine and_congr_right fun _ => ?_
  split
  · next hempty => simp [hempty]
  · next hne =>
    split_ifs with heq
    · simp [hne,← heq]
    · split
      · next rest hpat =>
        have hlen (hs : '.' :: rest <:+ domain.toList) : domain.toList ≠ rest := by
          rintro rfl
          exact absurd hs.length_le (by simp)
        by_cases hs : '.' :: rest <:+ domain.toList <;> simp [hne,heq,hs,hlen,hpat]
      · next hpat => simpa [hne,heq] using fun rest h => absurd h (hpat rest)

theorem accepts_eq_indexKey (r : EgressRule) :
    r.accepts domain = (decide (r.indexKey = some (false, domain)) ||
      (dotSuffixes domain.toList).any fun k => r.indexKey = some (true, k)) := by
  rw [Bool.eq_iff_iff,accepts_iff hlow,EgressRule.indexKey]
  by_cases hskip : r.targetKind ≠ .domain ∨ r.pattern = ""
  · rcases hskip with hkind | hempty
    · simp [hkind]
    · simp [hempty]
  rw [if_neg hskip]
  simp only [not_or,not_not] at hskip
  split
  · next rest hpat =>
    have hself (h : r.pattern = domain) : '.' :: rest <:+ domain.toList := by simp [← h,hpat]
    simpa [hskip,hpat,← mem_dotSuffixes] using hself
  · next hpat => simpa [hskip] using fun rest h => absurd h (hpat rest)

theorem matchDomain_compileDomainIndex (egress : List EgressRule) :
    (compileDomainIndex egress).matchDomain domain =
      (egress.find? (·.accepts domain)).map (·.action) := by
  have hscan := scanWildcard_firstRule (fun r => r.indexKey = some (false, domain)) 0 egress
    (fun k => (lookup_compileDomainIndex egress k).2) (dotSuffixes domain.toList)
  simp only [← accepts_eq_indexKey hlow] at hscan
  rw [CompiledDomainIndex.matchDomain,(lookup_compileDomainIndex egress domain).1]
  split_ifs with hempty
  · have hno (r : EgressRule) : r.accepts domain = false := by
      rw [accepts_eq_indexKey hlow,hempty,EgressRule.indexKey]
      split
      · rfl
      · next hskip => split <;> simp_all [dotSuffixes]
    simp [hno]
  · rw [← firstRule_action _ 0,← hscan]
    split
    · next rule hrule =>
      split_ifs with hzero
      · have hfirst := firstRule_zero (fun r => (dotSuffixes domain.toList).any fun k =>
          r.indexKey = some (true, k)) _ 0 egress hrule hzero
        simp only [← accepts_eq_indexKey hlow] at hfirst
        rw [hscan,hfirst]
        rfl
      · rw [hrule]
    · next hrule => rw [hrule]

end

def NetworkPolicy.MatchesNoRule (p : NetworkPolicy) (domain : String) : Prop :=
  ∀ r ∈ p.egress, r.targetKind = .domain → r.matchesDomain (queryName domain) = false

theorem evaluateLinear_eq (p : NetworkPolicy) (domain : String) : p.evaluateLinear domain =
    (p.egress.find? (·.accepts domain)).map fun r => orDeny r.action := rfl

theorem evaluate_indexed {p : NetworkPolicy}
    (h : p.domainIndex = some (compileDomainIndex p.egress)) (name : String) :
    p.evaluate name = ((p.egress.find? (·.accepts (queryName name))).map fun r =>
      orDeny r.action).getD (orDeny p.defaultAction) := by
  rw [NetworkPolicy.evaluate,h]
  simp only [matchDomain_compileDomainIndex (toLower_idem (trimDot name)),queryName]
  cases p.egress.find? (·.accepts (toLower (trimDot name))) with
  | none | some r => rfl

theorem evaluate_default {p : NetworkPolicy} (hp : Canonical p) (h : p.MatchesNoRule domain) :
    p.evaluate domain = p.defaultAction := by
  have hnone : p.egress.find? (·.accepts (queryName domain)) = none := by
    rw [find?_eq_none]
    intro r hr haccepts
    obtain ⟨hkind,hmatch⟩ := Bool.and_eq_true_iff.mp haccepts
    rw [h r hr (of_decide_eq_true hkind)] at hmatch
    cases hmatch
  rw [evaluate_indexed hp.indexed,hnone]
  exact orDeny_eq_self hp.chosen

theorem index_refines_first_match (egress : List EgressRule) (defaultAction name : String) :
    (compileDomainIndex egress).matchDomain (toLower name) =
        (egress.find? (·.accepts (toLower name))).map (·.action) ∧
      ((compileDomainIndex egress).matchDomain (toLower name) = none ↔
        NetworkPolicy.evaluateLinear ⟨egress,defaultAction,none⟩ (toLower name) = none) ∧
      ∀ query, NetworkPolicy.evaluate ⟨egress,defaultAction,some (compileDomainIndex egress)⟩
          query = NetworkPolicy.evaluate ⟨egress,defaultAction,none⟩ query := by
  have hmatch := matchDomain_compileDomainIndex (toLower_idem name) egress
  refine ⟨hmatch,?_,fun query => ?_⟩
  · rw [hmatch,evaluateLinear_eq,map_eq_none_iff,map_eq_none_iff]
  · rw [evaluate_indexed rfl,NetworkPolicy.evaluate]
    simp only [evaluateLinear_eq]
    cases egress.find? (·.accepts (queryName query)) with
    | none | some r => rfl

theorem overlay_precedence {raw : String} {user : NetworkPolicy}
    (h : parsePolicy raw = .ok user) {deny allow : List EgressRule}
    (hdeny : ∀ r ∈ deny, r.action = actionDeny) (hallow : ∀ r ∈ allow, r.action = actionAllow)
    (name : String) :
    (mergeAlwaysOverlay (some user) deny allow).evaluate name =
      if deny.any (·.accepts (queryName name)) then actionDeny
      else if allow.any (·.accepts (queryName name)) then actionAllow
      else user.evaluate name := by
  have hu := canonical_of_parsePolicy h
  rw [evaluate_indexed rfl,evaluate_indexed hu.indexed,← isSome_find?,← isSome_find?]
  simp only [mergeAlwaysOverlay,ensureDefaults,getD_some,find?_append,if_neg hu.chosen]
  cases hd : deny.find? (·.accepts (queryName name)) with
  | some r =>
    have hr := hdeny r (mem_of_find?_eq_some hd)
    simp [hr,orDeny_eq_self,actionDeny]
  | none =>
    cases ha : allow.find? (·.accepts (queryName name)) with
    | some r =>
      have hr := hallow r (mem_of_find?_eq_some ha)
      simp [hr,orDeny_eq_self,actionAllow]
    | none => simp

def domainRule (action target : String) : EgressRule :=
  ⟨action,target,.domain,.invalid,noPrefix⟩

theorem overlay_precedence_ruled : ∃ user, parsePolicy ruledText = .ok user ∧
      user.evaluate "A.b." = actionAllow ∧
      (mergeAlwaysOverlay (some user) [domainRule "deny" "a.b"]
        [domainRule "allow" "*.c"]).evaluate "A.b." = actionDeny ∧
      (mergeAlwaysOverlay (some user) [domainRule "deny" "a.b"]
        [domainRule "allow" "*.c"]).evaluate "c.b" = user.evaluate "c.b" := by
  have hallowed : (parsePolicy ruledText).toOption.map (·.evaluate "A.b.") = some actionAllow := by
    decide +kernel
  obtain ⟨user,huser,heval⟩ := Option.map_eq_some_iff.mp hallowed
  have hparse := Outcome.toOption_eq_some.mp huser
  have hdeny : ∀ r ∈ [domainRule "deny" "a.b"], r.action = actionDeny := by
    simp [domainRule,actionDeny]
  have hallow : ∀ r ∈ [domainRule "allow" "*.c"], r.action = actionAllow := by
    simp [domainRule,actionAllow]
  have hlaw := overlay_precedence hparse hdeny hallow
  refine ⟨user,hparse,heval,(hlaw _).trans (if_pos ?_),((hlaw _).trans (if_neg ?_)).trans
    (if_neg ?_)⟩
  · decide
  · decide
  · decide

end OpenSandbox.Policy
