import OpenSandbox.Library.GoMap
import OpenSandbox.Egress.Vault.Binding

namespace OpenSandbox.Vault

open GoText Policy List Outcome

inductive Kind where
  | credential
  | binding
  deriving DecidableEq

inductive VaultError where
  | notFound
  | vaultExists
  | expectedRevision (expected current : BitVec 64)
  | blankName (kind : Kind)
  | source (name reason : String)
  | binding (name : String) (reason : BindingError)
  | duplicateName (kind : Kind) (name : String)
  | blankDelete (kind : Kind)
  | mentionedTwice (kind : Kind) (name : String)
  | missing (kind : Kind) (name : String)
  | duplicateAdd (kind : Kind) (name : String)
  | alreadyExists (kind : Kind) (name : String)
  | policyRequired
  | unknownReference (binding credential : String)
  | hostNotAllowed (binding host : String)
  | hostIgnored (binding host : String)
  | ambiguous (first second : String)
  deriving DecidableEq

def normalizeBinding (b : Binding) : Except VaultError Binding :=
  let name := trimSpace b.name
  if name = "" then .error (.blankName .binding)
  else
    match normalizeMatch b.matching with
    | .error e => .error (.binding name e)
    | .ok matching =>
        match normalizeAuth b.auth with
        | .error e => .error (.binding name e)
        | .ok auth => .ok ⟨name,matching,auth⟩

def credentialRefsForAuth (auth : Auth) : List String :=
  (if auth.type = "customHeaders" then auth.headers.map (·.credential)
    else if auth.type ≠ "passthrough" ∧ auth.credential ≠ "" then [auth.credential]
    else []) ++
    auth.substitutions.map (·.credential)

def validateBindingCredentialRefs {V : Type} (credentials : GoMap V) (b : Binding) :
    Except VaultError Unit :=
  (credentialRefsForAuth b.auth).forM fun name =>
    if (credentials.lookup name).isSome then .ok () else .error (.unknownReference b.name name)

def probeHost (host : String) : String := "probe." ++ wildcardSuffix host

def explicitAllowCoversHost (pol : Option NetworkPolicy) (raw : String) : Bool :=
  match pol with
  | none => false
  | some pol =>
      let host := foldHost raw
      if host = "" then false
      else if hasPrefix host "*." then pol.evaluate (probeHost host) = actionAllow
      else pol.evaluate host = actionAllow

def trimYAMLScalar (raw : String) : String :=
  let value := trimSpace raw
  match value.toList with
  | c :: d :: rest =>
      if (c = '\'' ∨ c = '"') ∧ (d :: rest).getLast? = some c then
        String.ofList (d :: rest).dropLast
      else value
  | _ => value

def parseMitmproxyInlineList (raw : String) : List String :=
  let value := trimSpace raw
  if value = "" ∨ value = "[]" then []
  else if hasPrefix value "[" = false ∨ hasSuffix value "]" = false then [trimYAMLScalar value]
  else
    let value := trimSpace (String.ofList (value.toList.drop 1).dropLast)
    if value = "" then []
    else
      let parts := (value.toList.splitOn ',').map fun part => trimSpace (String.ofList part)
      (parts.filter (· ≠ "")).map trimYAMLScalar

def isSkippedLine (trimmed : String) : Bool := trimmed = "" || hasPrefix trimmed "#"

def parseIgnoreItems : List String → List String
  | [] => []
  | line :: lines =>
      let trimmed := trimSpace line
      if isSkippedLine trimmed then parseIgnoreItems lines
      else if hasPrefix line " " = false ∧ hasPrefix line "\t" = false then []
      else if hasPrefix trimmed "-" = false then parseIgnoreItems lines
      else
        let item := trimSpace (String.ofList (trimmed.toList.drop 1))
        if item = "" then parseIgnoreItems lines else trimYAMLScalar item :: parseIgnoreItems lines

def parseIgnoreLines : List String → List String
  | [] => []
  | line :: lines =>
      let trimmed := trimSpace line
      let key := trimSpace (String.ofList (trimmed.toList.takeWhile (· ≠ ':')))
      if isSkippedLine trimmed then parseIgnoreLines lines
      else if contains trimmed ":" = false ∨ key ≠ "ignore_hosts" then parseIgnoreLines lines
      else
        let value := trimSpace (String.ofList ((trimmed.toList.dropWhile (· ≠ ':')).drop 1))
        if value ≠ "" then parseMitmproxyInlineList value else parseIgnoreItems lines

def parseMitmproxyIgnoreHosts (config : String) : List String :=
  parseIgnoreLines ((config.toList.splitOn '\n').map String.ofList)

structure Env where
  policy : Option NetworkPolicy
  mitmproxyConfig : String
  compile : String → Option (String → Bool)
  checkOrder : MapOrder
  pairOrder : MapOrder

def bindingHostMatchesIgnoreHosts (env : Env) (host : String) : Bool :=
  let candidates := host :: if hasPrefix host "*." then [probeHost host] else []
  (parseMitmproxyIgnoreHosts env.mitmproxyConfig).any fun raw =>
    let part := trimSpace raw
    part ≠ "" && (env.compile part).any fun re => candidates.any re

def validateBindingPolicy (env : Env) (b : Binding) : Except VaultError Unit :=
  b.matching.hosts.forM fun host =>
    if explicitAllowCoversHost env.policy host = false then .error (.hostNotAllowed b.name host)
    else if bindingHostMatchesIgnoreHosts env host then .error (.hostIgnored b.name host)
    else .ok ()

def stringSlicesOverlap (a b : List String) : Bool := b.any fun y => a.contains y

def dropStar (pattern : String) : String := String.ofList pattern.toList.dropLast

def pathPatternOverlaps (a b : String) : Bool :=
  if a = b then true
  else if hasSuffix a "*" && hasPrefix b (dropStar a) then true
  else if hasSuffix b "*" && hasPrefix a (dropStar b) then true
  else if hasSuffix a "*" && hasSuffix b "*" then
    hasPrefix (dropStar a) (dropStar b) || hasPrefix (dropStar b) (dropStar a)
  else false

def pathPatternsOverlap (a b : List String) : Bool :=
  a.any fun x => b.any fun y => pathPatternOverlaps x y

def wildcardHostsOverlap (a b : String) : Bool :=
  let aSuffix := wildcardSuffix a
  let bSuffix := wildcardSuffix b
  aSuffix = bSuffix || hasSuffix aSuffix ("." ++ bSuffix) || hasSuffix bSuffix ("." ++ aSuffix)

def hostsAmbiguous (a b : String) : Bool :=
  if hasPrefix a "*." ≠ hasPrefix b "*." then false
  else if hasPrefix a "*." then wildcardHostsOverlap a b
  else a = b

def hostSetsAmbiguousAtSamePrecedence (aHosts bHosts : List String) : Bool :=
  aHosts.any fun a => bHosts.any fun b => hostsAmbiguous a b

def bindingsAmbiguous (a b : Binding) : Bool :=
  stringSlicesOverlap a.matching.schemes b.matching.schemes &&
    stringSlicesOverlap a.matching.methods b.matching.methods &&
    pathPatternsOverlap a.matching.paths b.matching.paths &&
    hostSetsAmbiguousAtSamePrecedence a.matching.hosts b.matching.hosts

def validateAmbiguity : List Binding → Except VaultError Unit
  | [] => .ok ()
  | a :: list =>
      match list.find? (bindingsAmbiguous a) with
      | some b => .error (.ambiguous a.name b.name)
      | none => validateAmbiguity list

def validateBindingAmbiguity (order : MapOrder) (bindings : GoMap Binding) :
    Except VaultError Unit :=
  validateAmbiguity (bindings.valuesIn order)

def validateCandidate {V : Type} (env : Env) (credentials : GoMap V) (bindings : GoMap Binding) :
    Except VaultError Unit := do
  if bindings.keys ≠ [] ∧ env.policy.isNone then .error .policyRequired
  else
    (bindings.valuesIn env.checkOrder).forM fun b => do
      validateBindingCredentialRefs credentials b
      validateBindingPolicy env b
    validateBindingAmbiguity env.pairOrder bindings

theorem normalizeBinding_ok {raw b : Binding} (h : normalizeBinding raw = .ok b) :
    normalizeMatch raw.matching = .ok b.matching ∧ normalizeAuth raw.auth = .ok b.auth := by
  simp only [normalizeBinding] at h
  split_ifs at h
  split at h
  · cases h
  next matching hmatching =>
  split at h
  · cases h
  · next auth hauth =>
    cases h
    exact ⟨hmatching,hauth⟩

theorem stringSlicesOverlap_iff {a b : List String} :
    stringSlicesOverlap a b = true ↔ ∃ x, x ∈ a ∧ x ∈ b := by
  simp only [stringSlicesOverlap,any_eq_true,contains_iff_mem]
  exact ⟨fun ⟨x,hb,ha⟩ => ⟨x,ha,hb⟩,fun ⟨x,ha,hb⟩ => ⟨x,hb,ha⟩⟩

theorem pathPatternOverlaps_comm (a b : String) :
    pathPatternOverlaps a b = pathPatternOverlaps b a := by
  grind [pathPatternOverlaps]

theorem hostsAmbiguous_comm (a b : String) : hostsAmbiguous a b = hostsAmbiguous b a := by
  grind [hostsAmbiguous,wildcardHostsOverlap]

theorem bindingsAmbiguous_iff {a b : Binding} : bindingsAmbiguous a b = true ↔
      (∃ scheme, scheme ∈ a.matching.schemes ∧ scheme ∈ b.matching.schemes) ∧
      (∃ method, method ∈ a.matching.methods ∧ method ∈ b.matching.methods) ∧
      (∃ x ∈ a.matching.paths, ∃ y ∈ b.matching.paths, pathPatternOverlaps x y = true) ∧
      ∃ x ∈ a.matching.hosts, ∃ y ∈ b.matching.hosts, hostsAmbiguous x y = true := by
  simp only [bindingsAmbiguous,Bool.and_eq_true,stringSlicesOverlap_iff,pathPatternsOverlap,
    hostSetsAmbiguousAtSamePrecedence,any_eq_true,and_assoc]

theorem bindingsAmbiguous_symm {a b : Binding} (h : bindingsAmbiguous a b = true) :
    bindingsAmbiguous b a = true := by
  rw [bindingsAmbiguous_iff] at h ⊢
  obtain ⟨⟨scheme,hsa,hsb⟩,⟨method,hma,hmb⟩,⟨x,hx,y,hy,hxy⟩,⟨u,hu,v,hv,huv⟩⟩ := h
  rw [pathPatternOverlaps_comm] at hxy
  rw [hostsAmbiguous_comm] at huv
  exact ⟨⟨scheme,hsb,hsa⟩,⟨method,hmb,hma⟩,⟨y,hy,x,hx,hxy⟩,⟨v,hv,u,hu,huv⟩⟩

def Apart (a b : Binding) : Prop := bindingsAmbiguous a b = false

instance : Std.Symm Apart where
  symm a b h := by
    rw [Apart,Bool.eq_false_iff] at h ⊢
    exact fun hba => h (bindingsAmbiguous_symm hba)

theorem validateAmbiguity_ok {list : List Binding} (h : validateAmbiguity list = .ok ()) :
    list.Pairwise Apart := by
  induction list with
  | nil => exact List.Pairwise.nil
  | cons a list ih =>
    rw [validateAmbiguity] at h
    split at h
    · cases h
    · next hnone =>
      refine pairwise_cons.mpr ⟨fun b hb => ?_,ih h⟩
      simpa [Apart] using find?_eq_none.mp hnone b hb

theorem validateCandidate_ok {V : Type} {env : Env} {credentials : GoMap V}
    {bindings : GoMap Binding} (h : validateCandidate env credentials bindings = .ok ()) :
    (∀ k b, bindings.lookup k = some b →
      ∀ name ∈ credentialRefsForAuth b.auth, name ∈ credentials) ∧
    ∀ k k' b b', bindings.lookup k = some b → bindings.lookup k' = some b' → k ≠ k' →
      Apart b b' := by
  rw [validateCandidate] at h
  split_ifs at h
  obtain ⟨_,hchecks,hpairs⟩ := bind_eq_ok.mp h
  refine ⟨fun k b hk => ?_,fun k k' b b' hk hk' hne => ?_⟩
  · have hb := forM_eq_ok.mp hchecks b (GoMap.mem_valuesIn.mpr ⟨k,hk⟩)
    obtain ⟨_,hrefs,_⟩ := bind_eq_ok.mp hb
    intro name hname
    have hcheck := forM_eq_ok.mp hrefs name hname
    split_ifs at hcheck with hsome
    exact AList.lookup_isSome.mp hsome
  · exact GoMap.forall_of_pairwise_valuesIn (validateAmbiguity_ok hpairs) hk hk' hne

end OpenSandbox.Vault
