import OpenSandbox.Egress.Fleetnft.Script

namespace OpenSandbox.Fleetnft

open Netip Policy Slots Registry Ruleset List Function

abbrev Chains := String → Option (List NftRule)

def Table.elems (t : Table) (kind : SetKind) (s : Subject) (fam : Family) :
    Option (List SetElem) := (t.sets (setName kind s fam)).map NftSet.elems

structure SameSlice (t t' : Table) (s : Subject) : Prop where
  chain : t'.chains (subjectChain s) = t.chains (subjectChain s)
  sets : ∀ kind fam, t'.sets (setName kind s fam) = t.sets (setName kind s fam)

theorem AboutAll.sameSlice {s v : Subject} {frag : List Stmt} (h : AboutAll s frag)
    (hne : subjectChain v ≠ subjectChain s) (t : Table) :
    SameSlice t (frag.foldl Stmt.effect t) v := by
  refine ⟨foldl_chains_other (fun st hst hc => ?_) t,
    fun kind fam => foldl_sets_other (fun st hst hn => ?_) t⟩
  · exact ((h st hst).1 _ hc).elim (subjectChain_ne_dispatch v) hne
  · obtain ⟨kind',fam',hname⟩ := mem_allSetNames.mp ((h st hst).2 _ hn)
    exact hne (setName_inj hname).2.2

structure Acts (s : Subject) (frag : List Stmt) (f : Chains → Chains)
    (g : SetKind → Family → Option (List SetElem) → Option (List SetElem)) : Prop where
  base : ∀ t, (frag.foldl Stmt.effect t).base = t.base
  chains : ∀ t, (frag.foldl Stmt.effect t).chains = f t.chains
  elems : ∀ t kind fam,
    (frag.foldl Stmt.effect t).elems kind s fam = g kind fam (t.elems kind s fam)

section Acts

variable {s : Subject} {frag frag' : List Stmt} {f f' : Chains → Chains}
variable {g g' : SetKind → Family → Option (List SetElem) → Option (List SetElem)}

theorem Acts.append (h : Acts s frag f g) (h' : Acts s frag' f' g') :
    Acts s (frag ++ frag') (fun c => f' (f c)) fun kind fam e => g' kind fam (g kind fam e) := by
  refine ⟨fun t => ?_,fun t => ?_,fun t kind fam => ?_⟩
  · rw [foldl_append,h'.base,h.base]
  · rw [foldl_append,h'.chains,h.chains]
  · rw [foldl_append,h'.elems,h.elems]

theorem Acts.congr (h : Acts s frag f g) (hf : ∀ c, f c = f' c)
    (hg : ∀ kind fam e, g kind fam e = g' kind fam e) : Acts s frag f' g' :=
  ⟨h.base,fun t => (h.chains t).trans (hf _),fun t kind fam => (h.elems t kind fam).trans (hg ..)⟩

theorem acts_nil : Acts s [] (fun c => c) fun _ _ e => e :=
  ⟨fun _ => rfl,fun _ => rfl,fun _ _ _ => rfl⟩

theorem acts_onSet {st : Stmt} {kind' : SetKind} {fam' : Family}
    {g : Option (List SetElem) → Option (List SetElem)} (up : Option NftSet → Option NftSet)
    (hst : ∀ t, st.effect t = { t with
      sets := Function.update t.sets (setName kind' s fam') (up (t.sets (setName kind' s fam'))) })
    (hg : ∀ x, (up x).map NftSet.elems = g (x.map NftSet.elems)) :
    Acts s [st] (fun c => c) fun kind fam e => if kind = kind' ∧ fam = fam' then g e else e := by
  refine ⟨fun t => ?_,fun t => ?_,fun t kind fam => ?_⟩ <;> simp only [foldl_cons,foldl_nil,hst]
  by_cases h : setName kind s fam = setName kind' s fam'
  · obtain ⟨rfl,rfl,-⟩ := setName_inj h
    simp [Table.elems,hg]
  have hne : ¬ (kind = kind' ∧ fam = fam') := by
    rintro ⟨rfl,rfl⟩
    exact h rfl
  simp [Table.elems,hne,update_of_ne h]

theorem acts_addSet (kind : SetKind) (fam : Family) (type : Family) (flags : SetFlags) :
    Acts s [.addSet (setName kind s fam) type flags] (fun c => c) fun kind' fam' e =>
      if kind' = kind ∧ fam' = fam then some (e.getD []) else e := by
  refine acts_onSet (fun x => some (x.getD ⟨type,flags,[]⟩)) (fun t => rfl) fun x => ?_
  cases x <;> rfl

theorem acts_flushSet (kind : SetKind) (fam : Family) :
    Acts s [.flushSet (setName kind s fam)] (fun c => c) fun kind' fam' e =>
      if kind' = kind ∧ fam' = fam then e.map fun _ => [] else e := by
  refine acts_onSet _ (fun t => rfl) fun x => ?_
  cases x <;> rfl

theorem acts_addElement (kind : SetKind) (fam : Family) (es : List SetElem) :
    Acts s [.addElement (setName kind s fam) es] (fun c => c) fun kind' fam' e =>
      if kind' = kind ∧ fam' = fam then e.map (· ++ es) else e := by
  refine acts_onSet _ (fun t => rfl) fun x => ?_
  cases x <;> rfl

theorem acts_onChains {st : Stmt} (hst : ∀ t, st.effect t = { t with chains := f t.chains }) :
    Acts s [st] f fun _ _ e => e := by
  refine ⟨fun t => ?_,fun t => ?_,fun t kind fam => ?_⟩ <;> simp only [foldl_cons,foldl_nil,hst]
  rfl

def onChain (s : Subject) (up : Option (List NftRule) → Option (List NftRule)) (c : Chains) :
    Chains := Function.update c (subjectChain s) (up (c (subjectChain s)))

def addDispatch (rule : NftRule) (c : Chains) : Chains :=
  Function.update c dispatchChain ((c dispatchChain).map (· ++ [rule]))

theorem acts_writeSubjectChain :
    Acts s (writeSubjectChain s) (onChain s fun rs => some (rs.getD [])) fun _ _ e => e :=
  acts_onChains fun _ => rfl

theorem acts_flushChain :
    Acts s [.flushChain (subjectChain s)] (onChain s fun rs => rs.map fun _ => [])
      fun _ _ e => e := acts_onChains fun _ => rfl

theorem acts_writeDispatchRule (slot : Slot) :
    Acts s (writeDispatchRule s slot) (addDispatch (dispatchRule s slot)) fun _ _ e => e :=
  acts_onChains fun _ => rfl

theorem acts_writeSubjectVerdictRules (action : String) : Acts s (writeSubjectVerdictRules s action)
      (onChain s fun rs => rs.map (· ++ verdictRules s action)) fun _ _ e => e := by
  refine ⟨fun t => ?_,fun t => ?_,fun t kind fam => ?_⟩ <;>
    rw [writeSubjectVerdictRules,foldl_addRule]
  · rfl
  · rfl

end Acts

def netElems (elems : List Element) : List SetElem :=
  ((normalizeIntervalSet elems).toOption.getD []).map .net

def staticElems (pol : NetworkPolicy) : SetKind → Family → List SetElem
  | .allow, .v4 => netElems pol.staticIPSets.allowV4
  | .allow, .v6 => netElems pol.staticIPSets.allowV6
  | .deny, .v4 => netElems pol.staticIPSets.denyV4
  | .deny, .v6 => netElems pol.staticIPSets.denyV6
  | .dyn, _ => []

def polElems : Option NetworkPolicy → SetKind → Family → List SetElem
  | none, _, _ => []
  | some pol, kind, fam => staticElems pol kind fam

section Fragments

variable {s : Subject} {frag : List Stmt}

theorem acts_writeSetElements {kind : SetKind} {fam : Family} {elems : List Element}
    (h : writeSetElements (setName kind s fam) elems = .ok frag) :
    Acts s frag (fun c => c) fun kind' fam' e =>
      if kind' = kind ∧ fam' = fam then e.map (· ++ netElems elems) else e := by
  have hnil (hn : netElems elems = []) (kind' : SetKind) (fam' : Family)
      (e : Option (List SetElem)) :
      e = if kind' = kind ∧ fam' = fam then e.map (· ++ netElems elems) else e := by
    simp [hn]
  unfold writeSetElements at h
  split_ifs at h with he
  · cases h
    subst he
    exact acts_nil.congr (fun _ => rfl) (hnil rfl)
  split at h
  · cases h
  · next hn =>
    cases h
    exact acts_nil.congr (fun _ => rfl) (hnil (by simp [netElems,hn,Except.toOption]))
  · next p ps hn =>
    cases h
    have he : netElems elems = (p :: ps).map .net := by simp [netElems,hn,Except.toOption]
    rw [he]
    exact acts_addElement kind fam _

theorem acts_writeStaticElements {pol : NetworkPolicy} (h : writeStaticElements s pol = .ok frag) :
    Acts s frag (fun c => c) fun kind fam e => e.map (· ++ staticElems pol kind fam) := by
  obtain ⟨f₁,f₂,f₃,f₄,rfl,h₁,h₂,h₃,h₄⟩ := writeStaticElements_parts h
  refine ((((acts_writeSetElements h₁).append (acts_writeSetElements h₂)).append
    (acts_writeSetElements h₃)).append (acts_writeSetElements h₄)).congr (fun _ => rfl) ?_
  intro kind fam e
  cases kind <;> cases fam <;> simp [staticElems]

theorem acts_addSetStmts : Acts s (addSetStmts s) (fun c => c) fun _ _ e => some (e.getD []) := by
  have h := ((((((acts_addSet (s := s)
      .allow .v4 (ipSetType (setName .allow s .v4)) .interval).append
    (acts_addSet .allow .v6 (ipSetType (setName .allow s .v6)) .interval)).append
    (acts_addSet .deny .v4 (ipSetType (setName .deny s .v4)) .interval)).append
    (acts_addSet .deny .v6 (ipSetType (setName .deny s .v6)) .interval)).append
    (acts_addSet .dyn .v4 .v4 (.timeout dynSetTimeoutS))).append
    (acts_addSet .dyn .v6 .v6 (.timeout dynSetTimeoutS)))
  refine h.congr (fun _ => rfl) ?_
  intro kind fam e
  cases kind <;> cases fam <;> simp

theorem acts_writeSubjectSets {pol : Option NetworkPolicy} (h : writeSubjectSets s pol = .ok frag) :
    Acts s frag (fun c => c) fun kind fam e => some (e.getD [] ++ polElems pol kind fam) := by
  cases pol with
  | none =>
    cases h
    refine acts_addSetStmts.congr (fun _ => rfl) fun kind fam e => ?_
    rw [polElems,append_nil]
  | some pol =>
    obtain ⟨elems,hel,rfl⟩ := map_eq_ok h
    exact acts_addSetStmts.append (acts_writeStaticElements hel)

theorem acts_installFragment {inst : InstalledSubject} (h : installFragment s inst = .ok frag) :
    Acts s frag
      (fun c => onChain s (fun rs => some (rs.getD [] ++ verdictRules s (polAction inst.pol)))
        (addDispatch (dispatchRule s inst.slot) c))
      fun kind fam e => some (e.getD [] ++ polElems inst.pol kind fam) := by
  rw [installFragment_eq] at h
  obtain ⟨sets,hs,rfl⟩ := map_eq_ok h
  have hne := subjectChain_ne_dispatch s
  refine ((((acts_writeSubjectSets hs).append acts_writeSubjectChain).append
    (acts_writeDispatchRule inst.slot)).append (acts_writeSubjectVerdictRules _)).congr ?_
    fun _ _ _ => rfl
  intro c
  funext n
  by_cases hns : n = subjectChain s
  · subst hns
    simp [onChain,addDispatch,hne]
  by_cases hnd : n = dispatchChain
  · subst hnd
    simp [onChain,addDispatch,hne.symm]
  · simp [onChain,addDispatch,hns,hnd]

theorem acts_flushSets : Acts s ((allSetNames s).map .flushSet) (fun c => c)
    fun _ _ e => e.map fun _ => [] := by
  have h := (((((acts_flushSet (s := s) .allow .v4).append (acts_flushSet .allow .v6)).append
    (acts_flushSet .deny .v4)).append (acts_flushSet .deny .v6)).append
    (acts_flushSet .dyn .v4)).append (acts_flushSet .dyn .v6)
  refine h.congr (fun _ => rfl) ?_
  intro kind fam e
  cases kind <;> cases fam <;> simp

theorem acts_flushStaticSets : Acts s ((staticSetNames s).map .flushSet) (fun c => c)
    fun kind _ e => if kind = .dyn then e else e.map fun _ => [] := by
  have h := (((acts_flushSet (s := s) .allow .v4).append (acts_flushSet .allow .v6)).append
    (acts_flushSet .deny .v4)).append (acts_flushSet .deny .v6)
  refine h.congr (fun _ => rfl) ?_
  intro kind fam e
  cases kind <;> cases fam <;> simp

theorem acts_resetFragment (slot : Slot) : Acts s (writeSubjectResetFragment s slot)
      (fun c => onChain s (fun rs => rs.map fun _ => verdictRules s actionDeny)
        (addDispatch (dispatchRule s slot) c))
      fun _ _ e => e.map fun _ => [] := by
  have hne := subjectChain_ne_dispatch s
  refine ((acts_flushChain.append acts_flushSets).append
    ((acts_writeDispatchRule slot).append (acts_writeSubjectVerdictRules actionDeny))).congr ?_
    fun _ _ _ => rfl
  intro c
  funext n
  by_cases hns : n = subjectChain s
  · subst hns
    simp [onChain,addDispatch,hne,comp_def]
  by_cases hnd : n = dispatchChain
  · subst hnd
    simp [onChain,addDispatch,hne.symm]
  · simp [onChain,addDispatch,hns,hnd]

theorem acts_swapFragment {pol : NetworkPolicy}
    (h : writeSubjectPolicySwapFragment s pol = .ok frag) :
    Acts s frag (onChain s fun rs => rs.map fun _ => verdictRules s pol.defaultAction)
      fun kind fam e => if kind = .dyn then e else e.map fun _ => staticElems pol kind fam := by
  obtain ⟨elems,hel,rfl⟩ := map_eq_ok h
  refine (((acts_flushChain.append acts_flushStaticSets).append
    (acts_writeStaticElements hel)).append (acts_writeSubjectVerdictRules _)).congr ?_ ?_
  · intro c
    simp [onChain,comp_def]
  · intro kind fam e
    cases kind <;> simp [staticElems,comp_def]

theorem acts_writeLeases (fam : Family) (ips : List ResolvedIP) :
    Acts s (writeLeases s fam ips) (fun c => c) fun kind fam' e =>
      if kind = .dyn ∧ fam' = fam then e.map (· ++ leases fam ips) else e := by
  unfold writeLeases
  split_ifs with h
  · refine acts_nil.congr (fun _ => rfl) fun kind fam' e => ?_
    simp [h]
  · exact acts_addElement .dyn fam _

theorem acts_resolvedFragment (ips : List ResolvedIP) :
    Acts s (writeResolvedIPsFragment s ips) (fun c => c) fun kind fam e =>
      if kind = .dyn then e.map (· ++ leases fam ips) else e := by
  refine ((acts_writeLeases .v4 ips).append (acts_writeLeases .v6 ips)).congr (fun _ => rfl) ?_
  intro kind fam e
  cases kind <;> cases fam <;> simp

end Fragments

end OpenSandbox.Fleetnft
