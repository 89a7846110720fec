import OpenSandbox.Egress.Vault.Snapshot

namespace OpenSandbox.Vault

open List Outcome

variable {Ctx Src : Type} {sources : Sources Ctx Src}

structure Integral (s : Store Src) : Prop where
  credentialNames : s.credentials.Entries fun k c => c.name = k
  bindingNames : s.bindings.Entries fun k b => b.name = k
  supported : s.bindings.Entries fun _ b => b.auth.type ∈ supportedAuthTypes
  resolved : s.bindings.Entries fun _ b =>
    ∀ name ∈ credentialRefsForAuth b.auth, name ∈ s.credentials

def Normalized (k : String) (b : Binding) : Prop :=
  b.name = k ∧ ∃ raw, normalizeBinding raw = .ok b

structure Accepted (s : Store Src) : Prop where
  credentials : s.credentials.Entries fun k c => c.name = k
  bindings : s.bindings.Entries Normalized
  validated : ∃ env, validateCandidate env s.credentials s.bindings = .ok ()

variable {k : String} {b : Binding}

theorem Normalized.supported (h : Normalized k b) : b.auth.Supported := by
  obtain ⟨_,raw,hraw⟩ := h
  exact normalizeAuth_supported (normalizeBinding_ok hraw).2

variable {s : Store Src}

theorem Accepted.refs (h : Accepted s) (hk : s.bindings.lookup k = some b) :
    ∀ name ∈ credentialRefsForAuth b.auth, name ∈ s.credentials := by
  obtain ⟨env,henv⟩ := h.validated
  exact (validateCandidate_ok henv).1 k b hk

theorem Accepted.apart (h : Accepted s) {k' : String} {b' : Binding}
    (hk : s.bindings.lookup k = some b) (hk' : s.bindings.lookup k' = some b') (hne : k ≠ k') :
    Apart b b' := by
  obtain ⟨env,henv⟩ := h.validated
  exact (validateCandidate_ok henv).2 k k' b b' hk hk' hne

theorem Accepted.integral {s : Store Src} (h : Accepted s) : Integral s where
  credentialNames := h.credentials
  bindingNames k b hk := (h.bindings k b hk).1
  supported k b hk := (h.bindings k b hk).supported.type
  resolved _ _ hk := h.refs hk

theorem accepted_new : Accepted (Store.new : Store Src) where
  credentials := GoMap.entries_empty _
  bindings := GoMap.entries_empty _
  validated := ⟨⟨none,"",fun _ => none,.asStored,.asStored⟩,rfl⟩

theorem credentialTable_named {revision : BitVec 64} (raw : Credential) (c : Record Src) :
    (credentialTable sources revision).normalize raw = .ok c →
      c.name = (credentialTable sources revision).name c := fun _ => rfl

theorem bindingTable_normalized (raw b : Binding) (h : bindingTable.normalize raw = .ok b) :
    Normalized (bindingTable.name b) b :=
  ⟨rfl,raw,h⟩

theorem Accepted.call (h : Accepted s) (c : Call) : Accepted (s.call sources c).2 := by
  have heffect := s.call_effect sources c
  generalize (s.call sources c).1 = r, (s.call sources c).2 = s' at heffect
  cases heffect with
  | failed _ e | shown hpresent => exact h
  | @created req env s' _ hc =>
    obtain ⟨credentials,hcredentials,h⟩ := bind_eq_ok.mp hc
    obtain ⟨bindings,hbindings,h⟩ := bind_eq_ok.mp h
    obtain ⟨_,hvalid,h⟩ := bind_eq_ok.mp h
    cases h
    exact ⟨Table.create_entries credentialTable_named (GoMap.entries_empty _) hcredentials,
      Table.create_entries bindingTable_normalized (GoMap.entries_empty _) hbindings,env,hvalid⟩
  | @patched req env s' _ _ hc =>
    obtain ⟨hcredentials,hbindings,hvalid,_⟩ := Store.patchCandidate_ok sources hc
    exact ⟨Table.applyMutations_entries credentialTable_named h.credentials hcredentials,
      Table.applyMutations_entries bindingTable_normalized h.bindings hbindings,env,hvalid⟩
  | deleted hpresent => exact accepted_new

theorem Reached.accepted (h : Reached sources s) : Accepted s := by
  refine Runs.Reach.invariant ?_ ?_ h
  · rintro s rfl
    exact accepted_new
  · rintro s c s' hs _ rfl
    exact hs.call c

theorem call_error_unchanged {c : Call} {e : VaultError} (h : (s.call sources c).1 = .error e) :
    (s.call sources c).2 = s := by
  have heffect := s.call_effect sources c
  rw [h] at heffect
  generalize (s.call sources c).2 = s' at heffect
  cases heffect
  rfl

theorem toInt_succ {r : BitVec 64} (h : r.toInt < 2 ^ 63 - 1) : (r + 1).toInt = r.toInt + 1 := by
  have hlow : -2 ^ 63 ≤ r.toInt := BitVec.le_toInt r
  rw [BitVec.toInt_add,show (1 : BitVec 64).toInt = 1 from rfl]
  exact Int.bmod_eq_of_le (by omega) (by omega)

theorem patch_revision {req : MutationRequest} {env : Env} {state : State}
    (h : (s.patch sources req env).1 = .ok state) :
    (s.patch sources req env).2.revision = s.revision + 1 := by
  have heffect := s.patch_effect sources req env
  simp only [Store.call,h,Except.map] at heffect
  generalize (s.patch sources req env).2 = s' at heffect
  cases heffect with
  | patched _ _ hc => exact (Store.patchCandidate_ok sources hc).2.2.2

section Rendering

variable {ctx : Ctx} {credentials : GoMap (Record Src)}

def ResolveFailure : SnapshotError → Prop
  | .resolve _ => True
  | _ => False

variable {e : SnapshotError}

theorem resolveCredentialValue_failure {name : String} (hname : name ∈ credentials)
    (h : resolveCredentialValue sources ctx credentials name = .error e) : ResolveFailure e := by
  rw [resolveCredentialValue] at h
  split at h
  · next hnone =>
    rw [← AList.lookup_isSome,hnone] at hname
    cases hname
  split at h
  · cases h
    trivial
  · cases h

theorem renderEach_failure {α β : Type} {ref : α → String} {render : α → String → β × List String}
    {items : List α} (hrefs : ∀ a ∈ items, ref a ∈ credentials)
    (h : renderEach sources ctx credentials ref render items = .error e) : ResolveFailure e := by
  induction items with
  | nil => cases h
  | cons a items ih =>
    rw [forall_mem_cons] at hrefs
    rcases bind_eq_error.mp h with ha | ⟨_,_,h⟩
    · exact resolveCredentialValue_failure hrefs.1 ha
    · rcases bind_eq_error.mp h with hrest | ⟨_,_,h⟩
      · exact ih hrefs.2 hrest
      · cases h

variable {auth : Auth}

theorem mem_refs_credential (hauth : auth.Supported)
    (htype : auth.type ∈ ["bearer","basic","apiKey"]) :
    auth.credential ∈ credentialRefsForAuth auth := by
  have hne := hauth.credential htype
  have hcustom : auth.type ≠ "customHeaders" ∧ auth.type ≠ "passthrough" := by
    simp only [mem_cons,not_mem_nil,or_false] at htype
    rcases htype with htype | htype | htype <;> simp [htype]
  simp [credentialRefsForAuth,hcustom,hne]

theorem renderInjectionHeaders_failure (hauth : auth.Supported)
    (hrefs : ∀ name ∈ credentialRefsForAuth auth, name ∈ credentials)
    (h : renderInjectionHeaders sources ctx credentials auth = .error e) : ResolveFailure e := by
  have hresolve {f : String → Except SnapshotError (Rendered InjectionHeader)}
      (htype : auth.type ∈ ["bearer","basic","apiKey"])
      (hf : ∀ value, f value ≠ .error e)
      (hbind : (resolveCredentialValue sources ctx credentials auth.credential >>= f) = .error e) :
      ResolveFailure e := by
    rcases bind_eq_error.mp hbind with hname | ⟨value,_,hvalue⟩
    · exact resolveCredentialValue_failure (hrefs _ (mem_refs_credential hauth htype)) hname
    · exact absurd hvalue (hf value)
  rw [renderInjectionHeaders] at h
  split at h
  · next htype => exact hresolve (by simp [htype]) (by rintro value ⟨⟩) h
  split at h
  · next htype => exact hresolve (by simp [htype]) (by rintro value ⟨⟩) h
  split at h
  · next htype => exact hresolve (by simp [htype]) (by rintro value ⟨⟩) h
  split at h
  · next htype =>
    refine renderEach_failure (fun header hheader => hrefs _ ?_) h
    simp only [credentialRefsForAuth,htype,if_true]
    exact mem_append_left _ (mem_map_of_mem hheader)
  split_ifs at h
  have htype := hauth.type
  simp_all [supportedAuthTypes]

theorem renderBinding_failure {b : Binding} (hauth : b.auth.Supported)
    (hrefs : ∀ name ∈ credentialRefsForAuth b.auth, name ∈ credentials)
    (h : renderBinding sources ctx credentials b = .error e) : ResolveFailure e := by
  rcases bind_eq_error.mp h with hheaders | ⟨_,_,h⟩
  · exact renderInjectionHeaders_failure hauth hrefs hheaders
  · rcases bind_eq_error.mp h with hsubstitutions | ⟨_,_,h⟩
    · exact renderEach_failure (fun s hs => hrefs _ (mem_append_right _ (mem_map_of_mem hs)))
        hsubstitutions
    · cases h

end Rendering

theorem Accepted.snapshot_failure (hs : Accepted s) {ctx : Ctx} {e : SnapshotError}
    (h : s.activeSnapshot sources ctx = .error e) : e = .notFound ∨ ResolveFailure e := by
  rw [Store.activeSnapshot] at h
  split at h
  · cases h
    exact .inl rfl
  rcases bind_eq_error.mp h with hrender | ⟨_,_,h⟩
  · obtain ⟨b,hb,hfail⟩ := mapM_eq_error hrender
    obtain ⟨k,_,hk⟩ := mem_filterMap.mp hb
    exact .inr (renderBinding_failure (hs.bindings k b hk).supported (hs.refs hk) hfail)
  · cases h

def openEnv : Env := ⟨some ⟨[],Policy.actionAllow,none⟩,"",fun _ => none,.asStored,.asStored⟩

def tokenCredential : Credential := ⟨"token","\x7b\"value\": \"s3cret\"\x7d"⟩

def bearerBinding (name host method : String) : Binding :=
  ⟨name,⟨[],[],[host],[method],[]⟩,⟨"bearer","token","",[],[]⟩⟩

def createWith (bindings : List Binding) : Call := .create ⟨[tokenCredential],bindings⟩ openEnv

def apiStore : Store String :=
  (Store.new.call inlineSources (createWith [bearerBinding "api" "api.example.com" "GET"])).2

def touch (expected : BitVec 64) : MutationRequest := ⟨some expected,none,none⟩

theorem vault_integrity {s : Store Src} (h : Reached sources s) : Integral s ∧
      (∀ c e, (s.call sources c).1 = .error e → (s.call sources c).2 = s) ∧
      (∀ req env state, (s.patch sources req env).1 = .ok state →
        (s.patch sources req env).2.revision = s.revision + 1 ∧ (s.revision.toInt < 2 ^ 63 - 1 →
            (s.patch sources req env).2.revision.toInt = s.revision.toInt + 1)) ∧
      ∀ ctx name type, s.activeSnapshot sources ctx ≠ .error (.unknownCredential name) ∧
        s.activeSnapshot sources ctx ≠ .error (.unsupportedAuthType type) := by
  refine ⟨h.accepted.integral,fun _ _ => call_error_unchanged,?_,?_⟩
  · intro req env state hok
    rw [patch_revision hok]
    exact ⟨rfl,toInt_succ⟩
  intro ctx name type
  refine ⟨fun hfail => ?_,fun hfail => ?_⟩
  · rcases h.accepted.snapshot_failure hfail with heq | hresolve
    · cases heq
    · exact hresolve
  · rcases h.accepted.snapshot_failure hfail with heq | hresolve
    · cases heq
    · exact hresolve

theorem vault_integrity_api : apiStore.bindings.keys = ["api"] ∧ Integral apiStore ∧
      (apiStore.patch inlineSources (touch 1) openEnv).2.revision = 2 := by
  have h := vault_integrity (Runs.Reach.step (Runs.Reach.start rfl) trivial rfl :
    Reached inlineSources apiStore)
  obtain ⟨hkeys,hok,hrevision⟩ : apiStore.bindings.keys = ["api"] ∧
      (apiStore.patch inlineSources (touch 1) openEnv).1 =
        .ok (apiStore.patch inlineSources (touch 1) openEnv).2.sanitizedLocked ∧
      apiStore.revision = 1 := by
    decide +kernel
  refine ⟨hkeys,h.1,?_⟩
  rw [(h.2.2.1 _ _ _ hok).1,hrevision]
  rfl

end OpenSandbox.Vault
