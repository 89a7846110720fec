import OpenSandbox.Library.Runs
import OpenSandbox.Egress.Vault.Validation

namespace OpenSandbox.Vault

open GoText Outcome GoJson

structure Sources (Ctx Src : Type) where
  factories : List (String × (String → Except String Src))
  sourceType : Src → String
  resolve : Ctx → Src → Except String String

def typeField : GoJson.Field String := ⟨"type",GoJson.intoString⟩

def extractSourceType (raw : String) : Except String String :=
  if raw = "" then .ok "inline"
  else
    match (GoJson.parse raw).bind (GoJson.intoStruct [typeField] "") with
    | none => .error "parse credential source"
    | some "" => .ok "inline"
    | some type => .ok type

def Sources.create {Ctx Src : Type} (sources : Sources Ctx Src) (raw : String) :
    Except String Src :=
  match extractSourceType raw with
  | .error reason => .error reason
  | .ok type =>
      match sources.factories.lookup type with
      | none => .error ("unsupported credential source type " ++ type)
      | some factory => factory raw

structure InlineFields where
  type : String
  value : String

def inlineFields : List (GoJson.Field InlineFields) :=
  [⟨"type",fun f v => (GoJson.intoString f.type v).map fun s => { f with type := s }⟩,
    ⟨"value",fun f v => (GoJson.intoString f.value v).map fun s => { f with value := s }⟩]

def inlineSourceFactory (raw : String) : Except String String :=
  match (GoJson.parse raw).bind (GoJson.intoKnownStruct inlineFields ⟨"",""⟩) with
  | none => .error "parse inline credential source"
  | some src =>
      if src.value = "" then .error "inline credential value cannot be empty" else .ok src.value

def inlineSources : Sources Unit String :=
  ⟨[("inline", inlineSourceFactory)],fun _ => "inline",fun _ value => .ok value⟩

structure Credential where
  name : String
  source : String

structure Record (Src : Type) where
  name : String
  sourceType : String
  source : Src
  revision : BitVec 64

structure MutationSet (Raw : Type) where
  add : List Raw
  replace : List Raw
  delete : List String

structure CreateRequest where
  credentials : List Credential
  bindings : List Binding

structure MutationRequest where
  expectedRevision : Option (BitVec 64)
  credentials : Option (MutationSet Credential)
  bindings : Option (MutationSet Binding)

structure Table (Raw V : Type) where
  kind : Kind
  normalize : Raw → Except VaultError V
  name : V → String

namespace Table

variable {Raw V : Type} (t : Table Raw V)

def create : List Raw → GoMap V → Except VaultError (GoMap V)
  | [], m => .ok m
  | raw :: raws, m => do
      let v ← t.normalize raw
      if t.name v ∈ m then .error (.duplicateName t.kind (t.name v))
      else create raws (m.insert (t.name v) v)

def delete : List String → List String → GoMap V → Except VaultError (List String × GoMap V)
  | [], mentioned, m => .ok (mentioned, m)
  | raw :: raws, mentioned, m =>
      let name := trimSpace raw
      if name = "" then .error (.blankDelete t.kind)
      else if name ∈ mentioned then .error (.mentionedTwice t.kind name)
      else if name ∉ m then .error (.missing t.kind name)
      else delete raws (name :: mentioned) (m.erase name)

def replace : List Raw → List String → GoMap V → Except VaultError (List String × GoMap V)
  | [], mentioned, m => .ok (mentioned, m)
  | raw :: raws, mentioned, m => do
      let v ← t.normalize raw
      let name := t.name v
      if name ∈ mentioned then .error (.mentionedTwice t.kind name)
      else if name ∉ m then .error (.missing t.kind name)
      else replace raws (name :: mentioned) (m.insert name v)

def add (mentioned : List String) :
    List Raw → List String → GoMap V → Except VaultError (GoMap V)
  | [], _, m => .ok m
  | raw :: raws, seen, m => do
      let v ← t.normalize raw
      let name := t.name v
      if name ∈ mentioned then .error (.mentionedTwice t.kind name)
      else if name ∈ seen then .error (.duplicateAdd t.kind name)
      else if name ∈ m then .error (.alreadyExists t.kind name)
      else add mentioned raws (name :: seen) (m.insert name v)

def applyMutations (m : GoMap V) : Option (MutationSet Raw) → Except VaultError (GoMap V)
  | none => .ok m
  | some mutations => do
      let (mentioned, m) ← t.delete mutations.delete [] m
      let (mentioned, m) ← t.replace mutations.replace mentioned m
      t.add mentioned mutations.add [] m

variable {t}

variable {P : String → V → Prop} {raws : List Raw} {m m' : GoMap V}

theorem create_entries (hP : ∀ raw v, t.normalize raw = .ok v → P (t.name v) v) (hm : m.Entries P)
    (h : t.create raws m = .ok m') : m'.Entries P := by
  induction raws generalizing m with
  | nil =>
    cases h
    exact hm
  | cons raw raws ih =>
    obtain ⟨v,hv,h⟩ := bind_eq_ok.mp h
    split_ifs at h
    exact ih (hm.insert (hP raw v hv)) h

variable {mentioned : List String}

theorem delete_entries {raws : List String} {r : List String × GoMap V} (hm : m.Entries P)
    (h : t.delete raws mentioned m = .ok r) : r.2.Entries P := by
  induction raws generalizing mentioned m with
  | nil =>
    cases h
    exact hm
  | cons raw raws ih =>
    simp only [delete] at h
    split at h
    · cases h
    split at h
    · cases h
    split_ifs at h
    exact ih (hm.erase _) h

variable (hP : ∀ raw v, t.normalize raw = .ok v → P (t.name v) v)

include hP

theorem replace_entries
    {r : List String × GoMap V} (hm : m.Entries P) (h : t.replace raws mentioned m = .ok r) :
    r.2.Entries P := by
  induction raws generalizing mentioned m with
  | nil =>
    cases h
    exact hm
  | cons raw raws ih =>
    obtain ⟨v,hv,h⟩ := bind_eq_ok.mp h
    simp only at h
    split at h
    · cases h
    split_ifs at h
    exact ih (hm.insert (hP raw v hv)) h

theorem add_entries {seen : List String}
    (hm : m.Entries P) (h : t.add mentioned raws seen m = .ok m') : m'.Entries P := by
  induction raws generalizing seen m with
  | nil =>
    cases h
    exact hm
  | cons raw raws ih =>
    obtain ⟨v,hv,h⟩ := bind_eq_ok.mp h
    simp only at h
    split at h
    · cases h
    split at h
    · cases h
    split_ifs at h
    exact ih (hm.insert (hP raw v hv)) h

theorem applyMutations_entries {mutations : Option (MutationSet Raw)} (hm : m.Entries P)
    (h : t.applyMutations m mutations = .ok m') : m'.Entries P := by
  cases mutations with
  | none =>
    cases h
    exact hm
  | some mutations =>
    obtain ⟨⟨_,_⟩,hdelete,h⟩ := bind_eq_ok.mp h
    obtain ⟨⟨_,_⟩,hreplace,hadd⟩ := bind_eq_ok.mp h
    exact add_entries hP (replace_entries hP (delete_entries hm hdelete) hreplace) hadd

end Table

structure Metadata where
  name : String
  sourceType : String
  revision : BitVec 64
  deriving DecidableEq

structure AuthMetadata where
  type : String
  name : String
  deriving DecidableEq

structure BindingMetadata where
  name : String
  revision : BitVec 64
  matching : Match
  auth : AuthMetadata
  deriving DecidableEq

structure State where
  revision : BitVec 64
  credentials : List Metadata
  bindings : List BindingMetadata
  deriving DecidableEq

structure Store (Src : Type) where
  present : Bool
  revision : BitVec 64
  credentials : GoMap (Record Src)
  bindings : GoMap Binding

def sanitizeAuth (auth : Auth) : AuthMetadata :=
  ⟨auth.type,if auth.type = "apiKey" then auth.name else ""⟩

section Operations

variable {Ctx Src : Type} (sources : Sources Ctx Src)

def normalizeCredential (revision : BitVec 64) (c : Credential) :
    Except VaultError (Record Src) :=
  let name := trimSpace c.name
  if name = "" then .error (.blankName .credential)
  else
    match sources.create c.source with
    | .error reason => .error (.source name reason)
    | .ok source => .ok ⟨name,sources.sourceType source,source,revision⟩

def credentialTable (revision : BitVec 64) : Table Credential (Record Src) :=
  ⟨.credential,normalizeCredential sources revision,(·.name)⟩

def bindingTable : Table Binding Binding := ⟨.binding,normalizeBinding,(·.name)⟩

def applyCredentialMutations (revision : BitVec 64) (credentials : GoMap (Record Src)) :
    Option (MutationSet Credential) → Except VaultError (GoMap (Record Src)) :=
  (credentialTable sources revision).applyMutations credentials

def applyBindingMutations (bindings : GoMap Binding) :
    Option (MutationSet Binding) → Except VaultError (GoMap Binding) :=
  bindingTable.applyMutations bindings

namespace Store

def new : Store Src := ⟨false,0,∅,∅⟩

variable (s : Store Src)

def metadata : List Metadata :=
  (s.credentials.valuesIn .asStored).map fun c => ⟨c.name,c.sourceType,c.revision⟩

def bindingMetadata : List BindingMetadata :=
  (s.bindings.valuesIn .asStored).map fun b =>
    ⟨b.name,s.revision,b.matching,sanitizeAuth b.auth⟩

def sanitizedLocked : State where
  revision := s.revision
  credentials := s.metadata.insertionSort fun a b => a.name ≤ b.name
  bindings := s.bindingMetadata.insertionSort fun a b => a.name ≤ b.name

def sanitized : Except VaultError State :=
  if s.present then .ok s.sanitizedLocked else .error .notFound

def createCandidate (req : CreateRequest) (env : Env) : Except VaultError (Store Src) := do
  let credentials ← (credentialTable sources 1).create req.credentials ∅
  let bindings ← bindingTable.create req.bindings ∅
  validateCandidate env credentials bindings
  return ⟨true,1,credentials,bindings⟩

def patchCandidate (req : MutationRequest) (env : Env) : Except VaultError (Store Src) := do
  let nextRevision := s.revision + 1
  let credentials ← applyCredentialMutations sources nextRevision s.credentials req.credentials
  let bindings ← applyBindingMutations s.bindings req.bindings
  validateCandidate env credentials bindings
  return ⟨s.present,nextRevision,credentials,bindings⟩

def commit : Except VaultError (Store Src) → Except VaultError State × Store Src
  | .error e => (.error e, s)
  | .ok next => (.ok next.sanitizedLocked, next)

def create (req : CreateRequest) (env : Env) (s : Store Src) :
    Except VaultError State × Store Src :=
  if s.present then (.error .vaultExists, s) else s.commit (createCandidate sources req env)

def patch (req : MutationRequest) (env : Env) (s : Store Src) :
    Except VaultError State × Store Src :=
  if s.present = false then (.error .notFound, s)
  else
    match req.expectedRevision.filter (· ≠ s.revision) with
    | some expected => (.error (.expectedRevision expected s.revision), s)
    | none => s.commit (s.patchCandidate sources req env)

def delete : Except VaultError Unit × Store Src :=
  if s.present then (.ok (), new) else (.error .notFound, s)

end Store

inductive Call where
  | create (req : CreateRequest) (env : Env)
  | patch (req : MutationRequest) (env : Env)
  | delete
  | sanitized

def Store.call (s : Store Src) : Call → Except VaultError (Option State) × Store Src
  | .create req env => ((s.create sources req env).1.map some, (s.create sources req env).2)
  | .patch req env => ((s.patch sources req env).1.map some, (s.patch sources req env).2)
  | .delete => (s.delete.1.map fun _ => none, s.delete.2)
  | .sanitized => (s.sanitized.map some, s)

inductive Effect (s : Store Src) : Call → Except VaultError (Option State) → Store Src → Prop
  | failed (c e) : Effect s c (.error e) s
  | shown : s.present = true → Effect s .sanitized (.ok (some s.sanitizedLocked)) s
  | created {req env s'} : s.present = false → Store.createCandidate sources req env = .ok s' →
      Effect s (.create req env) (.ok (some s'.sanitizedLocked)) s'
  | patched {req env s'} : s.present = true →
      (∀ r, req.expectedRevision = some r → r = s.revision) →
      s.patchCandidate sources req env = .ok s' →
      Effect s (.patch req env) (.ok (some s'.sanitizedLocked)) s'
  | deleted : s.present = true → Effect s .delete (.ok none) Store.new

theorem Store.patch_effect (s : Store Src) (req : MutationRequest) (env : Env) :
    Effect sources s (.patch req env) (s.call sources (.patch req env)).1
      (s.call sources (.patch req env)).2 := by
  simp only [Store.call,Store.patch]
  split
  · exact .failed _ _
  next hpresent =>
  split
  · exact .failed _ _
  next hnone =>
  have hexpected : ∀ r, req.expectedRevision = some r → r = s.revision := by
    intro r hr
    simpa [hr,Option.filter_some] using hnone
  cases hc : s.patchCandidate sources req env with
  | error e => exact .failed _ e
  | ok s' => exact .patched (by simpa using hpresent) hexpected hc

theorem Store.call_effect (s : Store Src) (c : Call) :
    Effect sources s c (s.call sources c).1 (s.call sources c).2 := by
  cases c with
  | create req env =>
    simp only [Store.call,Store.create]
    split
    · exact .failed _ _
    next habsent =>
    cases hc : Store.createCandidate sources req env with
    | error e => exact .failed _ e
    | ok s' => exact .created (by simpa using habsent) hc
  | patch req env => exact s.patch_effect sources req env
  | delete =>
    simp only [Store.call,Store.delete]
    split
    · next hpresent => exact .deleted hpresent
    · exact .failed _ _
  | sanitized =>
    simp only [Store.call,Store.sanitized]
    split
    · next hpresent => exact .shown hpresent
    · exact .failed _ _

theorem Store.patchCandidate_ok {s s' : Store Src} {req : MutationRequest} {env : Env}
    (h : s.patchCandidate sources req env = .ok s') :
    applyCredentialMutations sources (s.revision + 1) s.credentials req.credentials =
        .ok s'.credentials ∧
      applyBindingMutations s.bindings req.bindings = .ok s'.bindings ∧
      validateCandidate env s'.credentials s'.bindings = .ok () ∧ s'.revision = s.revision + 1 := by
  obtain ⟨credentials,hcredentials,h⟩ := bind_eq_ok.mp h
  obtain ⟨bindings,hbindings,h⟩ := bind_eq_ok.mp h
  obtain ⟨_,hvalid,h⟩ := bind_eq_ok.mp h
  cases h
  exact ⟨hcredentials,hbindings,hvalid,rfl⟩

def Reached : Store Src → Prop :=
  Runs.Reach (fun s c s' => (Store.call sources s c).2 = s') (fun _ _ => True) (· = Store.new)

end Operations

end OpenSandbox.Vault
