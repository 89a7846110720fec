import OpenSandbox.Egress.Vault.Integrity

namespace OpenSandbox.Vault

open List

variable {Ctx Src : Type} {sources : Sources Ctx Src}

structure Contents (Src : Type) where
  credentials : String → Option (Record Src)
  bindings : String → Option Binding

def Store.contents (s : Store Src) : Contents Src :=
  ⟨fun name => s.credentials.lookup name,fun name => s.bindings.lookup name⟩

structure Exposure (Src : Type) where
  revision : BitVec 64
  contents : Contents Src

structure History (Src : Type) where
  store : Store Src
  shown : List (Exposure Src)
  applied : List (Exposure Src)

def Store.exposed (s : Store Src) : Except VaultError (Option State) → List (Exposure Src)
  | .ok (some state) => [⟨state.revision,s.contents⟩]
  | _ => []

def Store.conditional (s : Store Src) :
    Call → Except VaultError (Option State) → List (Exposure Src)
  | .patch req _, .ok _ => req.expectedRevision.toList.map fun r => ⟨r,s.contents⟩
  | _, _ => []

def History.new : History Src := ⟨Store.new,[],[]⟩

def History.call (sources : Sources Ctx Src) (h : History Src) (c : Call) : History Src :=
  let r := h.store.call sources c
  ⟨r.2,r.2.exposed r.1 ++ h.shown,h.store.conditional c r.1 ++ h.applied⟩

structure NoLostUpdate (h : History Src) : Prop where
  exposed : ∀ e ∈ h.shown, ∀ e' ∈ h.shown, e.revision = e'.revision → e.contents = e'.contents
  applied : ∀ a ∈ h.applied, ∀ e ∈ h.shown, a.revision = e.revision → a.contents = e.contents

def KeepsRevisions (h : History Src) : Call → Prop
  | .create _ _ => h.store.present = true ∨ h.shown = []
  | .patch _ _ => h.store.present = true → h.store.revision ≠ 0
  | _ => True

def age (revision : BitVec 64) : Nat := (revision - 1).toNat

theorem age_succ {revision : BitVec 64} (h : revision ≠ 0) :
    age (revision + 1) = age revision + 1 := by
  simp only [age]
  bv_omega

structure Ordered (h : History Src) : Prop where
  current : h.store.present = true → ⟨h.store.revision,h.store.contents⟩ ∈ h.shown
  latest : h.store.present = true → ∀ e ∈ h.shown, age e.revision ≤ age h.store.revision
  agree : ∀ e ∈ h.shown, ∀ e' ∈ h.shown, e.revision = e'.revision → e.contents = e'.contents
  applied : ∀ a ∈ h.applied, a ∈ h.shown

section

variable {h : History Src} (ho : Ordered h)

include ho

theorem Ordered.created (hshown : h.shown = []) (s : Store Src) :
    Ordered ⟨s,⟨s.revision,s.contents⟩ :: h.shown,h.applied⟩ where
  current _ := mem_cons_self
  latest _ := by simp [hshown]
  agree := by simp [hshown]
  applied a ha := mem_cons_of_mem _ (ho.applied a ha)

theorem Ordered.shown (hpresent : h.store.present = true) :
    Ordered ⟨h.store,⟨h.store.revision,h.store.contents⟩ :: h.shown,h.applied⟩ := by
  have hcurrent := ho.current hpresent
  have hmem {e : Exposure Src} (he : e ∈ ⟨h.store.revision,h.store.contents⟩ :: h.shown) :
      e ∈ h.shown := by
    rcases mem_cons.mp he with rfl | he
    · exact hcurrent
    · exact he
  exact ⟨fun _ => mem_cons_self,fun _ e he => ho.latest hpresent e (hmem he),
    fun e he e' he' => ho.agree e (hmem he) e' (hmem he'),
    fun a ha => mem_cons_of_mem _ (ho.applied a ha)⟩

theorem Ordered.patched (hpresent : h.store.present = true) (hrevision : h.store.revision ≠ 0)
    {s : Store Src} (hs : s.revision = h.store.revision + 1) {updates : List (Exposure Src)}
    (hupdates : ∀ a ∈ updates, a = ⟨h.store.revision,h.store.contents⟩) :
    Ordered ⟨s,⟨s.revision,s.contents⟩ :: h.shown,updates ++ h.applied⟩ := by
  have hnewer : ∀ e ∈ h.shown, age e.revision < age s.revision := by
    intro e he
    have hlatest := ho.latest hpresent e he
    rw [hs,age_succ hrevision]
    omega
  refine ⟨fun _ => mem_cons_self,fun _ => forall_mem_cons.mpr ⟨Nat.le_refl _,
    fun e he => (hnewer e he).le⟩,fun e he e' he' heq => ?_,fun a ha => ?_⟩
  · rcases mem_cons.mp he with rfl | he <;> rcases mem_cons.mp he' with rfl | he'
    · rfl
    · have hlt := hnewer e' he'
      rw [← heq] at hlt
      exact absurd hlt (lt_irrefl _)
    · have hlt := hnewer e he
      rw [heq] at hlt
      exact absurd hlt (lt_irrefl _)
    · exact ho.agree e he e' he' heq
  · refine mem_cons_of_mem _ ?_
    rcases mem_append.mp ha with ha | ha
    · rw [hupdates a ha]
      exact ho.current hpresent
    · exact ho.applied a ha

theorem Ordered.call {c : Call} (hc : KeepsRevisions h c) :
    Ordered (h.call sources c) := by
  have heffect := h.store.call_effect sources c
  simp only [History.call]
  generalize (h.store.call sources c).1 = r, (h.store.call sources c).2 = s at heffect
  cases heffect with
  | failed _ e => cases c <;> exact ho
  | shown hpresent => exact ho.shown hpresent
  | created habsent hcreated =>
    rcases hc with hpresent | hshown
    · rw [hpresent] at habsent
      cases habsent
    · exact ho.created hshown s
  | patched hpresent hexpected hpatched =>
    refine ho.patched hpresent (hc hpresent) (Store.patchCandidate_ok sources hpatched).2.2.2 ?_
    intro a ha
    simp only [Store.conditional,mem_map,Option.mem_toList] at ha
    obtain ⟨r,hr,rfl⟩ := ha
    rw [hexpected r hr]
  | deleted hpresent => exact ⟨nofun,nofun,ho.agree,ho.applied⟩

end

def Recorded (sources : Sources Ctx Src) (ok : History Src → Call → Prop) : History Src → Prop :=
  Runs.Reach (fun h c h' => h.call sources c = h') ok (· = History.new)

theorem Recorded.call {ok : History Src → Call → Prop} {h : History Src}
    (hrun : Recorded sources ok h) (c : Call) (hc : ok h c) :
    Recorded sources ok (h.call sources c) := .step hrun hc rfl

theorem no_lost_update {h : History Src} (hrun : Recorded sources KeepsRevisions h) :
    NoLostUpdate h := by
  have hordered : Ordered h := by
    refine Runs.Reach.invariant ?_ ?_ hrun
    · rintro h rfl
      exact ⟨nofun,nofun,nofun,nofun⟩
    · rintro h c h' ho hc rfl
      exact ho.call hc
  exact ⟨hordered.agree,fun a ha => hordered.agree a (hordered.applied a ha)⟩

def History.calls (sources : Sources Ctx Src) (cs : List Call) : History Src :=
  cs.foldl (History.call sources) History.new

def createApi : Call := createWith [bearerBinding "api" "api.example.com" "GET"]

def createMirror : Call := createWith [bearerBinding "mirror" "mirror.example.com" "GET"]

def patchedApi : History String :=
  History.calls inlineSources [createApi,.sanitized,.patch (touch 1) openEnv]

theorem no_lost_update_api : NoLostUpdate patchedApi ∧ patchedApi.applied.length = 1 := by
  have hnew : Recorded inlineSources KeepsRevisions History.new := .start rfl
  have hcreated := hnew.call createApi (.inr rfl)
  have hshown := hcreated.call .sanitized trivial
  have hpatched := hshown.call (.patch (touch 1) openEnv) fun _ => by decide +kernel
  exact ⟨no_lost_update hpatched,by decide +kernel⟩

def recreated : History String :=
  History.calls inlineSources [createApi,.delete,createMirror,.patch (touch 1) openEnv]

theorem deleted_revision_reused : ¬ NoLostUpdate recreated := by
  intro h
  obtain ⟨a,ha,e,he,hrevision,hnone,hsome⟩ : ∃ a ∈ recreated.applied,
      ∃ e ∈ recreated.shown, a.revision = e.revision ∧
        a.contents.bindings "api" = none ∧ (e.contents.bindings "api").isSome := by
    decide +kernel
  rw [← h.applied a ha e he hrevision,hnone] at hsome
  cases hsome

end OpenSandbox.Vault
