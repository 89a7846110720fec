import OpenSandbox.Egress.PolicyText

namespace OpenSandbox.Policy

open Netip

def NetworkPolicy.withExtraAllowIPs (p : NetworkPolicy) (ips : List Addr) : NetworkPolicy :=
  { p with egress := p.egress ++ ips.map fun ip => ⟨actionAllow,ip.text,.ip,ip,noPrefix⟩ }

end OpenSandbox.Policy

namespace OpenSandbox.PolicyServer

open Netip Policy GoText

inductive Method where
  | post
  | patch
  | delete

inductive Status where
  | ok
  | badRequest
  | requestEntityTooLarge
  | internalServerError
  deriving DecidableEq

structure AlwaysRules where
  deny : List EgressRule
  allow : List EgressRule
  deriving DecidableEq

structure Config where
  nameserverIPs : List Addr
  maxEgressRules : Int

def mergeWith (always : AlwaysRules) (pol : NetworkPolicy) : NetworkPolicy :=
  mergeAlwaysOverlay (some pol) always.deny always.allow

def staticPolicy (cfg : Config) (always : AlwaysRules) (pol : NetworkPolicy) : NetworkPolicy :=
  (mergeWith always pol).withExtraAllowIPs cfg.nameserverIPs

def mergeKey (r : RuleFields) : String := toLower r.target

def mergeUnseen : List String → List RuleFields → List RuleFields
  | _, [] => []
  | seen, r :: rs =>
      if mergeKey r ∈ seen then mergeUnseen seen rs else r :: mergeUnseen (mergeKey r :: seen) rs

def mergeEgressRules (base additions : List RuleFields) : List RuleFields :=
  if additions = [] then base else mergeUnseen [] (additions ++ base)

def patchMergedPolicy (base : NetworkPolicy) (patchRules : List RuleFields) :
    Except ParseError NetworkPolicy :=
  let merged := mergeEgressRules (base.egress.map EgressRule.fields) patchRules
  parsePolicy (GoJson.marshal (policyValue false merged base.defaultAction))

def removeSet (targets : List String) : List String :=
  (targets.map fun t => toLower (trimSpace t)).filter (· ≠ "")

def removeRulesByTarget (rules : List EgressRule) (targets : List String) :
    List EgressRule × List EgressRule :=
  if targets = [] ∨ rules = [] then (rules, [])
  else rules.partition fun r => toLower r.target ∉ removeSet targets

inductive Plan where
  | reply (status : Status)
  | commit (pol : NetworkPolicy)
  deriving DecidableEq

structure Request where
  method : Method
  body : Option String
  always : AlwaysRules
  vaultAccepts : NetworkPolicy → Bool
  writeFails : Bool
  applyFails : Bool
  nilEgress : Bool

def enforceEgressRuleLimit (cfg : Config) (egressCount : Nat) : Bool :=
  decide (cfg.maxEgressRules ≤ 0) || decide ((egressCount : Int) ≤ cfg.maxEgressRules)

def planCommit (req : Request) (pol : NetworkPolicy) : Plan :=
  if req.vaultAccepts (mergeWith req.always pol) then .commit pol else .reply .badRequest

def planLimited (cfg : Config) (req : Request) (pol : NetworkPolicy) : Plan :=
  if enforceEgressRuleLimit cfg pol.egress.length then planCommit req pol
  else .reply .requestEntityTooLarge

def handlePost (cfg : Config) (req : Request) (raw : String) : Plan :=
  if raw = "" then planCommit req defaultDenyPolicy
  else
    match parsePolicy raw with
    | .error _ => .reply .badRequest
    | .ok pol => planLimited cfg req pol

def handlePatch (cfg : Config) (current : NetworkPolicy) (req : Request) (raw : String) : Plan :=
  if raw = "" then .reply .badRequest
  else
    match (GoJson.parse raw).bind (unmarshalRules .nil) with
    | none => .reply .badRequest
    | some patchRules =>
        if patchRules.elems = [] then .reply .badRequest
        else
          match patchMergedPolicy current patchRules.elems with
          | .error _ => .reply .badRequest
          | .ok pol => planLimited cfg req pol

def handleDelete (current : NetworkPolicy) (req : Request) (raw : String) : Plan :=
  if raw = "" then .reply .badRequest
  else
    match (GoJson.parse raw).bind (GoJson.intoSlice "" GoJson.intoString .nil) with
    | none => .reply .badRequest
    | some targets =>
        if targets.elems = [] then .reply .badRequest
        else
          let kept := (removeRulesByTarget current.egress targets.elems).1
          if current.egress.length - kept.length = 0 then .reply .ok
          else
            let fields := kept.map EgressRule.fields
            match parsePolicy (GoJson.marshal (policyValue false fields current.defaultAction)) with
            | .error _ => .reply .internalServerError
            | .ok pol => planCommit req pol

def handlePolicy (cfg : Config) (current : NetworkPolicy) (req : Request) : Plan :=
  match req.body with
  | none => .reply .badRequest
  | some body =>
      match req.method with
      | .post => handlePost cfg req (trimSpace body)
      | .patch => handlePatch cfg current req (trimSpace body)
      | .delete => handleDelete current req (trimSpace body)

def ensurePolicyDefaults (p : NetworkPolicy) : NetworkPolicy :=
  { p with defaultAction := orDeny p.defaultAction }

structure Sidecar where
  file : Option String
  user : NetworkPolicy
  nftUser : NetworkPolicy
  nft : NetworkPolicy

def commitPolicy (cfg : Config) (st : Sidecar) (req : Request) (pol : NetworkPolicy) :
    Status × Sidecar :=
  if req.writeFails then (.internalServerError, st)
  else if req.applyFails then (.internalServerError, { st with file := some (savedText req.nilEgress pol) })
  else
    (.ok, ⟨some (savedText req.nilEgress pol),ensurePolicyDefaults pol,pol,staticPolicy cfg req.always pol⟩)

def serve (cfg : Config) (st : Sidecar) (req : Request) : Status × Sidecar :=
  match handlePolicy cfg st.user req with
  | .reply status => (status, st)
  | .commit pol => commitPolicy cfg st req pol

inductive InitialSource where
  | policyFile
  | env
  | default
  deriving DecidableEq

def loadPolicyFromEnv (env : String) : Except ParseError (NetworkPolicy × InitialSource) :=
  if env = "" then .ok (defaultDenyPolicy, .default)
  else (parsePolicy env).map fun pol => (pol, if trimSpace env = "" then .default else .env)

def recordedPolicy (file : Option String) : Option NetworkPolicy :=
  file.bind fun data =>
    if trimSpace data = "" then none else (parsePolicy (trimSpace data)).toOption

def loadInitialPolicyDetailed (file : Option String) (env : String) :
    Except ParseError (NetworkPolicy × InitialSource) :=
  match recordedPolicy file with
  | some pol => .ok (pol, .policyFile)
  | none => loadPolicyFromEnv env

def Started (cfg : Config) (st : Sidecar) : Prop :=
  ∃ env always source, loadInitialPolicyDetailed st.file env = .ok (st.user, source) ∧
    st.nftUser = st.user ∧ st.nft = staticPolicy cfg always st.user

variable {req : Request} {pol : NetworkPolicy}

theorem planCommit_canonical {pol' : NetworkPolicy} (h : Canonical pol)
    (hp : planCommit req pol = .commit pol') : Canonical pol' := by
  unfold planCommit at hp
  split_ifs at hp
  cases hp
  exact h

variable {cfg : Config}

theorem planLimited_canonical {pol' : NetworkPolicy} (h : Canonical pol)
    (hp : planLimited cfg req pol = .commit pol') : Canonical pol' := by
  unfold planLimited at hp
  split_ifs at hp
  exact planCommit_canonical h hp

variable {raw : String}

theorem handlePost_canonical (h : handlePost cfg req raw = .commit pol) : Canonical pol := by
  unfold handlePost at h
  split at h
  · exact planCommit_canonical canonical_defaultDenyPolicy h
  · split at h
    · cases h
    · next hparse => exact planLimited_canonical (canonical_of_parsePolicy hparse) h

variable {current : NetworkPolicy}

theorem handlePatch_canonical (h : handlePatch cfg current req raw = .commit pol) :
    Canonical pol := by
  unfold handlePatch at h
  split_ifs at h
  split at h
  · cases h
  split_ifs at h
  split at h
  · cases h
  · next hmerged =>
    unfold patchMergedPolicy at hmerged
    exact planLimited_canonical (canonical_of_parsePolicy hmerged) h

theorem handleDelete_canonical (h : handleDelete current req raw = .commit pol) :
    Canonical pol := by
  unfold handleDelete at h
  simp only at h
  split_ifs at h
  split at h
  · cases h
  split at h
  · cases h
  split_ifs at h
  split at h
  · cases h
  · next hparse => exact planCommit_canonical (canonical_of_parsePolicy hparse) h

theorem handlePolicy_canonical (h : handlePolicy cfg current req = .commit pol) :
    Canonical pol := by
  unfold handlePolicy at h
  split at h
  · cases h
  split at h
  · exact handlePost_canonical h
  · exact handlePatch_canonical h
  · exact handleDelete_canonical h

variable {p : NetworkPolicy}

theorem ensurePolicyDefaults_canonical (h : Canonical p) : ensurePolicyDefaults p = p := by
  rw [ensurePolicyDefaults,orDeny_eq_self h.chosen]

theorem recordedPolicy_savedText (isNil : Bool) (h : Canonical p) :
    recordedPolicy (some (savedText isNil p)) = some p := by
  rw [recordedPolicy,Option.bind_some,if_neg (trimSpace_savedText_ne isNil p),
    parsePolicy_trimSpace,parsePolicy_savedText isNil h]
  rfl

theorem recordedPolicy_canonical {file : Option String} (h : recordedPolicy file = some p) :
    Canonical p := by
  unfold recordedPolicy at h
  obtain ⟨data,_,h⟩ := Option.bind_eq_some_iff.mp h
  split_ifs at h
  cases hp : parsePolicy (trimSpace data) with
  | error e =>
    rw [hp] at h
    cases h
  | ok q =>
    rw [hp] at h
    cases h
    exact canonical_of_parsePolicy hp

end OpenSandbox.PolicyServer
