import OpenSandbox.Egress.Fleetnft.Kernel

namespace OpenSandbox.Fleetnft

open Netip Policy Slots Registry Ruleset List Option

def dispatchChain : String := "dispatch"
def dynSetTimeoutS : Nat := 360
def nftTTLSlackSec : Int := 60
def minTTLSec : Int := 60
def maxTTLSec : Int := 360

inductive Err where
  | unknownSubject
  | normalize (set reason : String)
  | nft (msg : String)
  deriving DecidableEq

def headerRules : List NftRule :=
  [⟨.established,.verdict .accept⟩,⟨.dport .tcp 853,.verdict .drop⟩,
    ⟨.dport .udp 853,.verdict .drop⟩]

def headerStmts : List Stmt :=
  .addBaseChain dispatchChain :: headerRules.map (.addRule dispatchChain)

def writeTableHeader : List Cmd := .deleteTable :: .addTable :: stmts headerStmts

def removeDeleteTableLine (script : List Cmd) : List Cmd := script.filter (· ≠ .deleteTable)

variable (s : Subject) (slot : Slot)

def dispatchRule : NftRule :=
  ⟨.source slot.ip slot.hostVeth,.jump (subjectChain s)⟩

def writeDispatchRule : List Stmt :=
  [.addRule dispatchChain (dispatchRule s slot)]

def defaultVerdict (defaultAction : String) : Verdict :=
  if defaultAction = actionDeny then .drop else .accept

def verdictRules (defaultAction : String) : List NftRule :=
  [⟨.daddr .v4 (denySetName s .v4),.verdict .drop⟩,⟨.daddr .v6 (denySetName s .v6),.verdict .drop⟩,
    ⟨.daddr .v4 (dynSetName s .v4),.verdict .accept⟩,⟨.daddr .v6 (dynSetName s .v6),
    .verdict .accept⟩,⟨.daddr .v4 (allowSetName s .v4),.verdict .accept⟩,
    ⟨.daddr .v6 (allowSetName s .v6),.verdict .accept⟩,⟨.always,
    .verdict (defaultVerdict defaultAction)⟩]

def writeSubjectVerdictRules (defaultAction : String) : List Stmt :=
  (verdictRules s defaultAction).map (.addRule (subjectChain s))

def writeSubjectChain : List Stmt := [.addChain (subjectChain s)]

def writeSetElements (set : String) (elems : List Element) : Except Err (List Stmt) :=
  if elems = [] then .ok []
  else match normalizeIntervalSet elems with
    | .error e => .error (.normalize set e)
    | .ok [] => .ok []
    | .ok (p :: ps) => .ok [.addElement set ((p :: ps).map .net)]

def writeStaticElements (pol : NetworkPolicy) : Except Err (List Stmt) := do
  let sets := pol.staticIPSets
  let allowV4 ← writeSetElements (allowSetName s .v4) sets.allowV4
  let allowV6 ← writeSetElements (allowSetName s .v6) sets.allowV6
  let denyV4 ← writeSetElements (denySetName s .v4) sets.denyV4
  let denyV6 ← writeSetElements (denySetName s .v6) sets.denyV6
  return allowV4 ++ allowV6 ++ denyV4 ++ denyV6

def addSetStmts : List Stmt :=
  (staticSetNames s).map (fun n => .addSet n (ipSetType n) .interval) ++
    [.addSet (dynSetName s .v4) .v4 (.timeout dynSetTimeoutS),
      .addSet (dynSetName s .v6) .v6 (.timeout dynSetTimeoutS)]

def writeSubjectSets : Option NetworkPolicy → Except Err (List Stmt)
  | none => .ok (addSetStmts s)
  | some pol => (writeStaticElements s pol).map (addSetStmts s ++ ·)

def writeSubjectDenyFirstFragment : Except Err (List Stmt) :=
  (writeSubjectSets s none).map fun sets =>
    sets ++ writeSubjectChain s ++ writeDispatchRule s slot ++ writeSubjectVerdictRules s actionDeny

def writeSubjectInitialPolicyFragment (pol : NetworkPolicy) : Except Err (List Stmt) :=
  (writeSubjectSets s (some pol)).map fun sets =>
    sets ++ writeSubjectChain s ++ writeDispatchRule s slot ++
      writeSubjectVerdictRules s pol.defaultAction

def writeSubjectResetFragment : List Stmt :=
  .flushChain (subjectChain s) :: (allSetNames s).map .flushSet ++ writeDispatchRule s slot ++
    writeSubjectVerdictRules s actionDeny

def writeSubjectPolicySwapFragment (pol : NetworkPolicy) : Except Err (List Stmt) :=
  (writeStaticElements s pol).map fun elems =>
    .flushChain (subjectChain s) :: (staticSetNames s).map .flushSet ++ elems ++
      writeSubjectVerdictRules s pol.defaultAction

structure ResolvedIP where
  addr : Addr
  ttl : Int

def clampTTL (ns : Int) : Int :=
  min (max (ns.tdiv 1000000000 + nftTTLSlackSec) minTTLSec) maxTTLSec

def leases (fam : Family) (ips : List ResolvedIP) : List SetElem :=
  (ips.filter fun r => fam.carries r.addr.unmap).map fun r => .lease r.addr.unmap (clampTTL r.ttl)

def writeLeases (fam : Family) (ips : List ResolvedIP) : List Stmt :=
  if leases fam ips = [] then [] else [.addElement (dynSetName s fam) (leases fam ips)]

def writeResolvedIPsFragment (ips : List ResolvedIP) : List Stmt :=
  writeLeases s .v4 ips ++ writeLeases s .v6 ips

theorem subjectChain_ne_dispatch : subjectChain s ≠ dispatchChain := by
  intro h
  have hc := congrArg (fun x : String => x.toList.head?) h
  simp [subjectChain,dispatchChain] at hc

structure InstalledSubject where
  slot : Slot
  pol : Option NetworkPolicy
  deriving DecidableEq

def installFragment (inst : InstalledSubject) : Except Err (List Stmt) :=
  match inst.pol with
  | none => writeSubjectDenyFirstFragment s inst.slot
  | some pol => writeSubjectInitialPolicyFragment s inst.slot pol

def polAction : Option NetworkPolicy → String
  | none => actionDeny
  | some pol => pol.defaultAction

theorem installFragment_eq (inst : InstalledSubject) :
    installFragment s inst = (writeSubjectSets s inst.pol).map fun sets =>
      sets ++ writeSubjectChain s ++ writeDispatchRule s inst.slot ++
        writeSubjectVerdictRules s (polAction inst.pol) := by
  unfold installFragment
  cases inst.pol <;> rfl

theorem map_eq_ok {α β ε : Type} {f : α → β} {x : Except ε α} {b : β} (h : x.map f = .ok b) :
    ∃ a, x = .ok a ∧ f a = b := by
  cases x with
  | error e => cases h
  | ok a => exact ⟨a,rfl,Except.ok.inj h⟩

def Stmt.About (st : Stmt) : Prop :=
  (∀ c, st.chain? = some c → c = dispatchChain ∨ c = subjectChain s) ∧
    ∀ n, st.set? = some n → n ∈ allSetNames s

def AboutAll (frag : List Stmt) : Prop := ∀ st ∈ frag, st.About s

section About

variable {s : Subject}

theorem AboutAll.append {f g : List Stmt} (hf : AboutAll s f) (hg : AboutAll s g) :
    AboutAll s (f ++ g) := forall_mem_append.mpr ⟨hf,hg⟩

theorem AboutAll.cons {st : Stmt} {f : List Stmt} (h : st.About s) (hf : AboutAll s f) :
    AboutAll s (st :: f) := forall_mem_cons.mpr ⟨h,hf⟩

theorem AboutAll.nil : AboutAll s [] := forall_mem_nil _

theorem about_chain {st : Stmt} (hc : st.chain? = some (subjectChain s)) (hn : st.set? = none) :
    st.About s := by
  refine ⟨fun c h => ?_,fun n h => ?_⟩
  · rw [hc] at h
    exact .inr (some.inj h).symm
  · rw [hn] at h
    cases h

theorem about_set {st : Stmt} {n : String} (hc : st.chain? = none) (hn : st.set? = some n)
    (h : n ∈ allSetNames s) : st.About s := by
  refine ⟨fun c hst => ?_,fun m hst => ?_⟩
  · rw [hc] at hst
    cases hst
  · rw [hn] at hst
    exact some.inj hst ▸ h

theorem setName_mem (kind : SetKind) (fam : Family) : setName kind s fam ∈ allSetNames s :=
  mem_allSetNames.mpr ⟨kind,fam,rfl⟩

theorem about_writeDispatchRule (slot : Slot) : AboutAll s (writeDispatchRule s slot) := by
  refine .cons ⟨fun c h => .inl (some.inj h).symm,fun n h => ?_⟩ .nil
  cases h

theorem about_writeSubjectVerdictRules (action : String) :
    AboutAll s (writeSubjectVerdictRules s action) :=
  forall_mem_map.mpr fun _ _ => about_chain rfl rfl

variable {frag : List Stmt}

theorem about_writeSetElements {kind : SetKind} {fam : Family} {elems : List Element}
    (h : writeSetElements (setName kind s fam) elems = .ok frag) : AboutAll s frag := by
  unfold writeSetElements at h
  split at h
  · cases h
    exact .nil
  split at h
  · cases h
  · cases h
    exact .nil
  · cases h
    exact .cons (about_set rfl rfl (setName_mem kind fam)) .nil

theorem about_addSetStmts : AboutAll s (addSetStmts s) := by
  intro st h
  simp only [addSetStmts,staticSetNames,map_cons,map_nil,cons_append,
    nil_append,mem_cons,not_mem_nil,or_false] at h
  rcases h with rfl | rfl | rfl | rfl | rfl | rfl <;> exact about_set rfl rfl (setName_mem _ _)

theorem about_flushSets {names : List String} (h : ∀ n ∈ names, n ∈ allSetNames s) :
    AboutAll s (names.map .flushSet) :=
  forall_mem_map.mpr fun n hn => about_set rfl rfl (h n hn)

variable {pol : NetworkPolicy}

theorem writeStaticElements_parts (h : writeStaticElements s pol = .ok frag) :
    ∃ f₁ f₂ f₃ f₄, frag = f₁ ++ f₂ ++ f₃ ++ f₄ ∧
      writeSetElements (setName .allow s .v4) pol.staticIPSets.allowV4 = .ok f₁ ∧
      writeSetElements (setName .allow s .v6) pol.staticIPSets.allowV6 = .ok f₂ ∧
      writeSetElements (setName .deny s .v4) pol.staticIPSets.denyV4 = .ok f₃ ∧
      writeSetElements (setName .deny s .v6) pol.staticIPSets.denyV6 = .ok f₄ := by
  unfold writeStaticElements at h
  simp only [bind,Except.bind] at h
  split at h
  · cases h
  next f₁ h₁ =>
  split at h
  · cases h
  next f₂ h₂ =>
  split at h
  · cases h
  next f₃ h₃ =>
  split at h
  · cases h
  next f₄ h₄ =>
  cases h
  exact ⟨f₁,f₂,f₃,f₄,rfl,h₁,h₂,h₃,h₄⟩

theorem about_writeStaticElements (h : writeStaticElements s pol = .ok frag) : AboutAll s frag := by
  obtain ⟨f₁,f₂,f₃,f₄,rfl,h₁,h₂,h₃,h₄⟩ := writeStaticElements_parts h
  exact .append (.append (.append (about_writeSetElements h₁) (about_writeSetElements h₂))
    (about_writeSetElements h₃)) (about_writeSetElements h₄)

theorem about_writeSubjectSets {pol : Option NetworkPolicy}
    (h : writeSubjectSets s pol = .ok frag) : AboutAll s frag := by
  cases pol with
  | none =>
    cases h
    exact about_addSetStmts
  | some pol =>
    obtain ⟨elems,he,rfl⟩ := map_eq_ok h
    exact .append about_addSetStmts (about_writeStaticElements he)

theorem about_installFragment {inst : InstalledSubject} (h : installFragment s inst = .ok frag) :
    AboutAll s frag := by
  rw [installFragment_eq] at h
  obtain ⟨sets,hs,rfl⟩ := map_eq_ok h
  exact .append (.append (.append (about_writeSubjectSets hs) (.cons (about_chain rfl rfl) .nil))
    (about_writeDispatchRule _)) (about_writeSubjectVerdictRules _)

theorem about_writeSubjectResetFragment (slot : Slot) :
    AboutAll s (writeSubjectResetFragment s slot) :=
  .append (.append (.cons (about_chain rfl rfl) (about_flushSets fun _ h => h))
    (about_writeDispatchRule _)) (about_writeSubjectVerdictRules _)

theorem about_writeSubjectPolicySwapFragment (h : writeSubjectPolicySwapFragment s pol = .ok frag) :
    AboutAll s frag := by
  obtain ⟨elems,he,rfl⟩ := map_eq_ok h
  refine .append (.append (.cons (about_chain rfl rfl) (about_flushSets fun n hn => ?_))
    (about_writeStaticElements he)) (about_writeSubjectVerdictRules _)
  exact mem_append_left _ hn

theorem about_writeResolvedIPsFragment (ips : List ResolvedIP) :
    AboutAll s (writeResolvedIPsFragment s ips) := by
  have hfam (fam : Family) : AboutAll s (writeLeases s fam ips) := by
    unfold writeLeases
    split
    · exact .nil
    · exact .cons (about_set rfl rfl (setName_mem .dyn fam)) .nil
  exact .append (hfam .v4) (hfam .v6)

end About

end OpenSandbox.Fleetnft
