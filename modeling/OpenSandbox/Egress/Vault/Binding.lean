import OpenSandbox.Library.Outcome
import OpenSandbox.Egress.PolicyEval

namespace OpenSandbox.Vault

open GoText Policy Netip List Outcome

structure Match where
  schemes : List String
  ports : List Int
  hosts : List String
  methods : List String
  paths : List String
  deriving DecidableEq

structure CustomHeaderEntry where
  name : String
  credential : String

structure Substitution where
  credential : String
  placeholder : String
  surfaces : List String

structure Auth where
  type : String
  credential : String
  name : String
  headers : List CustomHeaderEntry
  substitutions : List Substitution

structure Binding where
  name : String
  matching : Match
  auth : Auth

inductive BindingError where
  | emptyHosts
  | unsupportedScheme (scheme : String)
  | unsupportedPort (port : Int)
  | blankHost
  | hostWithSchemeOrPath (host : String)
  | invalidWildcard (host : String)
  | wildcardIP (host : String)
  | hostIP (host : String)
  | hostNotFQDN (host : String)
  | blankMethod
  | relativePath
  | authRequiresCredential (type : String)
  | invalidHeaderName (name : String)
  | reservedHeaderName (name : String)
  | noCustomHeaders
  | duplicateHeader (name : String)
  | headerRequiresCredential (name : String)
  | passthroughCredential
  | passthroughName
  | passthroughHeaders
  | unsupportedAuthType (type : String)
  | substitutionCredential (i : Nat)
  | substitutionPlaceholder (i : Nat)
  | substitutionSurfaces (i : Nat)
  | unsupportedSurface (i : Nat) (surface : String)
  | duplicatePlaceholder (i : Nat) (placeholder surface : String) (previous : Nat)
  deriving DecidableEq

def isAlnum (c : Char) : Bool := ('a' ≤ c && c ≤ 'z') || ('0' ≤ c && c ≤ '9')

def isHostnameLabel (label : List Char) : Bool :=
  decide (label.length ≤ 63) && label.all (fun c => isAlnum c || c = '-') &&
    label.head?.any isAlnum && label.getLast?.any isAlnum

def isValidCredentialFQDN (host : String) : Bool :=
  decide (host.utf8ByteSize ≤ 253) && contains host "." &&
    (host.toList.splitOn '.').all isHostnameLabel

def foldHost (host : String) : String := toLower (trimDot (trimSpace host))

def wildcardSuffix (host : String) : String := String.ofList (host.toList.drop 2)

def normalizeCredentialHost (raw : String) : Except BindingError String :=
  let host := foldHost raw
  if host = "" then .error .blankHost
  else if contains host "://" || contains host "/" then .error (.hostWithSchemeOrPath host)
  else if hasPrefix host "*." then
    let suffix := wildcardSuffix host
    if suffix = "" || contains suffix "*" then .error (.invalidWildcard host)
    else if (parseAddr suffix).isSome then .error (.wildcardIP host)
    else if isValidCredentialFQDN suffix then .ok ("*." ++ suffix)
    else .error (.invalidWildcard host)
  else if contains host "*" then .error (.invalidWildcard host)
  else if (parseAddr host).isSome then .error (.hostIP host)
  else if isValidCredentialFQDN host then .ok host
  else .error (.hostNotFQDN host)

def normalizeScheme (raw : String) : Except BindingError String :=
  let scheme := toLower (trimSpace raw)
  if scheme ≠ "https" ∧ scheme ≠ "http" then .error (.unsupportedScheme scheme) else .ok scheme

def checkPort (port : Int) : Except BindingError Unit :=
  if port ≠ 80 ∧ port ≠ 443 then .error (.unsupportedPort port) else .ok ()

def normalizeMethod (raw : String) : Except BindingError String :=
  let method := toUpper (trimSpace raw)
  if method = "" then .error .blankMethod else .ok method

def normalizePath (raw : String) : Except BindingError String :=
  let path := trimSpace raw
  if path = "" ∨ hasPrefix path "/" = false then .error .relativePath else .ok path

def orDefault (values defaults : List String) : List String :=
  if values = [] then defaults else values

def normalizeMatch (m : Match) : Except BindingError Match := do
  let schemes := orDefault m.schemes ["https"]
  let methods := orDefault m.methods ["GET","POST","PUT","PATCH","DELETE"]
  let paths := orDefault m.paths ["/*"]
  if m.hosts = [] then .error .emptyHosts
  else
    let schemes ← schemes.mapM normalizeScheme
    m.ports.forM checkPort
    let hosts ← m.hosts.mapM normalizeCredentialHost
    let methods ← methods.mapM normalizeMethod
    let paths ← paths.mapM normalizePath
    return ⟨schemes.eraseDups,[],hosts.eraseDups,methods.eraseDups,paths.eraseDups⟩

def isTokenChar (c : Char) : Bool :=
  isAlnum c || ('A' ≤ c && c ≤ 'Z') || "!#$%&'*+-.^_`|~".toList.contains c

def canonicalRunes : Bool → List Char → List Char
  | _, [] => []
  | upper, c :: cs =>
      let c' := if upper && 'a' ≤ c && c ≤ 'z' then Char.ofNat (c.toNat - 32)
        else if !upper && 'A' ≤ c && c ≤ 'Z' then Char.ofNat (c.toNat + 32)
        else c
      c' :: canonicalRunes (c = '-') cs

def canonicalHeaderName (name : String) : String :=
  if name.toList.all isTokenChar then String.ofList (canonicalRunes true name.toList) else name

def reservedHeaderNames : List String :=
  ["host","content-length","content-type","transfer-encoding","connection","upgrade","te",
    "trailer","proxy-authorization","proxy-authenticate","forwarded","x-forwarded-for",
    "x-forwarded-host","x-forwarded-proto"]

def validateCredentialHeaderName (name : String) : Except BindingError Unit :=
  if name = "" ∨ name.toList.all isTokenChar = false then .error (.invalidHeaderName name)
  else if toLower name ∈ reservedHeaderNames then .error (.reservedHeaderName name)
  else .ok ()

def requireCredential (type raw : String) : Except BindingError String :=
  let credential := trimSpace raw
  if credential = "" then .error (.authRequiresCredential type) else .ok credential

def normalizeHeaders : List String → List CustomHeaderEntry →
    Except BindingError (List CustomHeaderEntry)
  | _, [] => .ok []
  | seen, h :: hs => do
      let name := canonicalHeaderName (trimSpace h.name)
      validateCredentialHeaderName name
      if toLower name ∈ seen then .error (.duplicateHeader name)
      else
        let credential := trimSpace h.credential
        if credential = "" then .error (.headerRequiresCredential name)
        else
          let rest ← normalizeHeaders (toLower name :: seen) hs
          return ⟨name,credential⟩ :: rest

def surfaceNames : List String := ["path","query","header","body"]

abbrev SeenPairs := List ((String × String) × Nat)

def normalizeSurfaces (i : Nat) (placeholder : String) :
    List String → List String → SeenPairs → Except BindingError (List String × SeenPairs)
  | [], out, pairs => .ok (out, pairs)
  | raw :: raws, out, pairs =>
      let surface := toLower (trimSpace raw)
      if surface ∉ surfaceNames then .error (.unsupportedSurface i surface)
      else if surface ∈ out then normalizeSurfaces i placeholder raws out pairs
      else
        match pairs.lookup (placeholder, surface) with
        | some previous => .error (.duplicatePlaceholder i placeholder surface previous)
        | none =>
            normalizeSurfaces i placeholder raws (out ++ [surface])
              (((placeholder, surface), i) :: pairs)

def normalizeSubstitutionsFrom : Nat → SeenPairs → List Substitution →
    Except BindingError (List Substitution)
  | _, _, [] => .ok []
  | i, pairs, s :: ss => do
      let credential := trimSpace s.credential
      if credential = "" then .error (.substitutionCredential i)
      else if trimSpace s.placeholder = "" then .error (.substitutionPlaceholder i)
      else if s.surfaces = [] then .error (.substitutionSurfaces i)
      else
        let (surfaces, pairs) ← normalizeSurfaces i s.placeholder s.surfaces [] pairs
        let rest ← normalizeSubstitutionsFrom (i + 1) pairs ss
        return ⟨credential,s.placeholder,surfaces⟩ :: rest

def normalizeSubstitutions : List Substitution → Except BindingError (List Substitution) :=
  normalizeSubstitutionsFrom 0 []

def normalizeAuthType (a : Auth) : Except BindingError Auth := do
  let type := trimSpace a.type
  if type = "bearer" ∨ type = "basic" then
    let credential ← requireCredential type a.credential
    return { a with type := type, credential := credential }
  else if type = "apiKey" then
    let name := canonicalHeaderName (trimSpace a.name)
    validateCredentialHeaderName name
    let credential ← requireCredential type a.credential
    return { a with type := type, name := name, credential := credential }
  else if type = "customHeaders" then
    if a.headers = [] then .error .noCustomHeaders
    else
      let headers ← normalizeHeaders [] a.headers
      return { a with type := type, headers := headers }
  else if type = "passthrough" then
    if trimSpace a.credential ≠ "" then .error .passthroughCredential
    else if trimSpace a.name ≠ "" then .error .passthroughName
    else if a.headers ≠ [] then .error .passthroughHeaders
    else return { a with type := type }
  else .error (.unsupportedAuthType type)

def normalizeAuth (a : Auth) : Except BindingError Auth := do
  let a ← normalizeAuthType a
  let substitutions ← normalizeSubstitutions a.substitutions
  return { a with substitutions := substitutions }

def supportedAuthTypes : List String :=
  ["bearer","basic","apiKey","customHeaders","passthrough"]

structure Auth.Supported (a : Auth) : Prop where
  type : a.type ∈ supportedAuthTypes
  credential : a.type ∈ ["bearer","basic","apiKey"] → a.credential ≠ ""

variable {raw : String}

theorem requireCredential_ne {type credential : String}
    (h : requireCredential type raw = .ok credential) : credential ≠ "" := by
  simp only [requireCredential] at h
  split_ifs at h with hne
  cases h
  exact hne

theorem normalizeAuthType_supported {a b : Auth} (h : normalizeAuthType a = .ok b) :
    b.Supported := by
  simp only [normalizeAuthType] at h
  split at h
  · next htype =>
    obtain ⟨credential,hcredential,h⟩ := bind_eq_ok.mp h
    cases h
    refine ⟨?_,fun _ => requireCredential_ne hcredential⟩
    rcases htype with htype | htype <;> simp [supportedAuthTypes,htype]
  split at h
  · next htype =>
    obtain ⟨_,_,h⟩ := bind_eq_ok.mp h
    obtain ⟨credential,hcredential,h⟩ := bind_eq_ok.mp h
    cases h
    exact ⟨by simp [supportedAuthTypes,htype],fun _ => requireCredential_ne hcredential⟩
  split at h
  · next htype =>
    split_ifs at h
    obtain ⟨_,_,h⟩ := bind_eq_ok.mp h
    cases h
    exact ⟨by simp [supportedAuthTypes,htype],by simp [htype]⟩
  split at h
  · next htype =>
    split at h
    · cases h
    split at h
    · cases h
    split_ifs at h
    cases h
    exact ⟨by simp [supportedAuthTypes,htype],by simp [htype]⟩
  · cases h

theorem normalizeAuth_supported {a b : Auth} (h : normalizeAuth a = .ok b) : b.Supported := by
  obtain ⟨c,hc,h⟩ := bind_eq_ok.mp h
  obtain ⟨_,_,h⟩ := bind_eq_ok.mp h
  cases h
  exact ⟨(normalizeAuthType_supported hc).type,(normalizeAuthType_supported hc).credential⟩

def NormalHost (pattern : String) : Prop :=
  (isValidCredentialFQDN pattern = true ∧ hasPrefix pattern "*." = false) ∨
    ∃ suffix, isValidCredentialFQDN suffix = true ∧ pattern = "*." ++ suffix

structure NormalMatch (m : Match) : Prop where
  schemes_ne : m.schemes ≠ []
  schemes : ∀ scheme ∈ m.schemes, scheme = "https" ∨ scheme = "http"
  hosts : ∀ host ∈ m.hosts, NormalHost host
  methods_ne : m.methods ≠ []
  paths_ne : m.paths ≠ []
  paths : ∀ path ∈ m.paths, hasPrefix path "/" = true

theorem normalizeCredentialHost_normal {host : String}
    (h : normalizeCredentialHost raw = .ok host) : NormalHost host := by
  simp only [normalizeCredentialHost] at h
  split at h
  · cases h
  split at h
  · cases h
  split at h
  · split at h
    · cases h
    split at h
    · cases h
    split_ifs at h with hvalid
    obtain rfl := Except.ok.inj h
    exact .inr ⟨_,hvalid,rfl⟩
  next hexact =>
  split at h
  · cases h
  split at h
  · cases h
  split_ifs at h with hvalid
  obtain rfl := Except.ok.inj h
  exact .inl ⟨hvalid,by simpa only [Bool.not_eq_true] using hexact⟩

theorem normalizeScheme_normal {scheme : String} (h : normalizeScheme raw = .ok scheme) :
    scheme = "https" ∨ scheme = "http" := by
  simp only [normalizeScheme] at h
  split_ifs at h with hscheme
  obtain rfl := Except.ok.inj h
  by_contra hneither
  exact hscheme (not_or.mp hneither)

theorem normalizePath_normal {path : String} (h : normalizePath raw = .ok path) :
    hasPrefix path "/" = true := by
  simp only [normalizePath] at h
  split_ifs at h with hpath
  obtain rfl := Except.ok.inj h
  by_contra hnot
  exact hpath (.inr (Bool.eq_false_iff.mpr hnot))

theorem orDefault_ne {values defaults : List String} (h : defaults ≠ []) :
    orDefault values defaults ≠ [] := by
  rw [orDefault]
  split
  · exact h
  · assumption

variable {f : String → Except BindingError String}

theorem eraseDups_mapM_ne {xs ys : List String} (h : xs.mapM f = .ok ys) (hne : xs ≠ []) :
    ys.eraseDups ≠ [] := by
  have hlength := (mapM_eq_ok.mp h).length_eq
  obtain ⟨y,hy⟩ := exists_mem_of_length_pos (hlength ▸ length_pos_of_ne_nil hne)
  exact ne_nil_of_mem (mem_eraseDups.mpr hy)

theorem forall_eraseDups_mapM {P : String → Prop} {xs ys : List String} (h : xs.mapM f = .ok ys)
    (hf : ∀ x y, f x = .ok y → P y) : ∀ y ∈ ys.eraseDups, P y := by
  intro y hy
  obtain ⟨x,hx⟩ := mapM_ok_mem h y (mem_eraseDups.mp hy)
  exact hf x y hx

theorem normalizeMatch_normal {m n : Match} (h : normalizeMatch m = .ok n) : NormalMatch n := by
  simp only [normalizeMatch] at h
  split_ifs at h
  obtain ⟨schemes,hschemes,h⟩ := bind_eq_ok.mp h
  obtain ⟨_,_,h⟩ := bind_eq_ok.mp h
  obtain ⟨hosts,hhosts,h⟩ := bind_eq_ok.mp h
  obtain ⟨methods,hmethods,h⟩ := bind_eq_ok.mp h
  obtain ⟨paths,hpaths,h⟩ := bind_eq_ok.mp h
  cases h
  exact ⟨eraseDups_mapM_ne hschemes (orDefault_ne (by simp)),
    forall_eraseDups_mapM hschemes fun _ _ => normalizeScheme_normal,
    forall_eraseDups_mapM hhosts fun _ _ => normalizeCredentialHost_normal,
    eraseDups_mapM_ne hmethods (orDefault_ne (by simp)),
    eraseDups_mapM_ne hpaths (orDefault_ne (by simp)),
    forall_eraseDups_mapM hpaths fun _ _ => normalizePath_normal⟩

end OpenSandbox.Vault
