import OpenSandbox.Egress.PolicyServer.Commit
import OpenSandbox.Egress.PolicyServer.Reload

namespace OpenSandbox.PolicyServer

open Policy

inductive CommitPc where
  | idle
  | persisted (pol : NetworkPolicy)
  | merged (pol : NetworkPolicy) (always : AlwaysRules)
  | applied (pol : NetworkPolicy)
  deriving DecidableEq

inductive ReloadPc where
  | idle
  | refreshed (rules : AlwaysRules)
  | stored (rules : AlwaysRules)
  | published
  | policyRead (user : NetworkPolicy)
  | rulesRead (user : NetworkPolicy) (always : AlwaysRules)
  deriving DecidableEq

structure Server where
  sidecar : Sidecar
  overlay : Overlay
  commit : CommitPc
  reload : ReloadPc

inductive Label where
  | request (req : Request)
  | commitRules
  | commitApply (fails : Bool)
  | updatePolicy
  | refresh (f : Refresh)
  | setAlwaysRules
  | updateAlwaysRules
  | reloadPolicy
  | reloadRules
  | reloadApply (fails : Bool)

def Sidecar.applyStatic (cfg : Config) (s : Sidecar) (always : AlwaysRules)
    (pol : NetworkPolicy) : Sidecar :=
  { s with nftUser := pol, nft := staticPolicy cfg always pol }

def beginCommit (cfg : Config) (st : Server) (req : Request) : Server :=
  match handlePolicy cfg st.sidecar.user { req with always := currentAlwaysRules st.overlay } with
  | .reply _ => st
  | .commit pol =>
      if req.writeFails then st
      else
        { st with
          sidecar := { st.sidecar with file := some (savedText req.nilEgress pol) }
          commit := .persisted pol }

def beginReload (st : Server) (f : Refresh) : Server :=
  match refreshIfDue st.overlay.loader f with
  | (.ok true, l) =>
      { st with
        overlay := { st.overlay with loader := l }
        reload := .refreshed ⟨l.denyState.rules,l.allowState.rules⟩ }
  | (_, l) => { st with overlay := { st.overlay with loader := l } }

def commitStep (cfg : Config) (st : Server) : Label → Option Server
  | .request req =>
      match st.commit with
      | .idle => some (beginCommit cfg st req)
      | _ => none
  | .commitRules =>
      match st.commit with
      | .persisted pol => some { st with commit := .merged pol (currentAlwaysRules st.overlay) }
      | _ => none
  | .commitApply fails =>
      match st.commit with
      | .merged pol always =>
          if fails then some { st with commit := .idle }
          else
            some { st with
              sidecar := st.sidecar.applyStatic cfg always pol
              commit := .applied pol }
      | _ => none
  | .updatePolicy =>
      match st.commit with
      | .applied pol =>
          some { st with
            sidecar := { st.sidecar with user := ensurePolicyDefaults pol }
            commit := .idle }
      | _ => none
  | _ => none

def reloadStep (cfg : Config) (telemetry : List EgressRule) (st : Server) :
    Label → Option Server
  | .refresh f =>
      match st.reload with
      | .idle => some (beginReload st f)
      | _ => none
  | .setAlwaysRules =>
      match st.reload with
      | .refreshed ⟨deny,allow⟩ =>
          let allow := withTelemetryAllow telemetry allow
          some { st with
            overlay := { st.overlay with loader := st.overlay.loader.setCurrentRules deny allow }
            reload := .stored ⟨deny,allow⟩ }
      | _ => none
  | .updateAlwaysRules =>
      match st.reload with
      | .stored rules =>
          some { st with overlay := { st.overlay with proxy := rules }, reload := .published }
      | _ => none
  | .reloadPolicy =>
      match st.reload with
      | .published => some { st with reload := .policyRead st.sidecar.user }
      | _ => none
  | .reloadRules =>
      match st.reload with
      | .policyRead user =>
          some { st with reload := .rulesRead user (currentAlwaysRules st.overlay) }
      | _ => none
  | .reloadApply fails =>
      match st.reload with
      | .rulesRead user always =>
          if fails then some { st with reload := .idle }
          else
            some { st with
              sidecar := st.sidecar.applyStatic cfg always user
              reload := .idle }
      | _ => none
  | _ => none

def act (cfg : Config) (telemetry : List EgressRule) (st : Server) (l : Label) : Option Server :=
  (commitStep cfg st l).or (reloadStep cfg telemetry st l)

def Acts (cfg : Config) (telemetry : List EgressRule) (st : Server) (l : Label)
    (st' : Server) : Prop :=
  act cfg telemetry st l = some st'

def Launched (cfg : Config) (telemetry : List EgressRule) (st : Server) : Prop :=
  StartedOverlay telemetry st.overlay ∧
    (∃ env source, loadInitialPolicyDetailed st.sidecar.file env = .ok (st.sidecar.user, source)) ∧
    st.sidecar.nft = staticPolicy cfg (currentAlwaysRules st.overlay) st.sidecar.user ∧
    st.commit = .idle ∧ st.reload = .idle

def Finished (st : Server) : Prop := st.commit = .idle ∧ st.reload = .idle

def effectivePolicy (st : Server) : NetworkPolicy := mergeWith st.overlay.proxy st.sidecar.user

def Converged (cfg : Config) (st : Server) : Prop :=
  st.sidecar.nft = staticPolicy cfg (currentAlwaysRules st.overlay) st.sidecar.user ∧
    st.sidecar.nft = (effectivePolicy st).withExtraAllowIPs cfg.nameserverIPs

def Server.target (st : Server) : Option NetworkPolicy :=
  match st.commit with
  | .idle => some st.sidecar.user
  | .applied pol => some pol
  | _ => none

def AppliesNothingStale (st : Server) : Label → Prop
  | .commitApply fails =>
      fails = false ∧ ∀ pol always, st.commit = .merged pol always →
        always = currentAlwaysRules st.overlay ∨ st.reload ≠ .idle
  | .reloadApply fails =>
      fails = false ∧ ∀ user always, st.reload = .rulesRead user always →
        ∀ pol ∈ st.target, user = pol
  | .refresh f => ¬ Swallows st.overlay f
  | _ => True

def RulesTracked (o : Overlay) : ReloadPc → Prop
  | .idle | .published | .policyRead _ => o.proxy = currentAlwaysRules o
  | .refreshed rules | .stored rules => rules = currentAlwaysRules o
  | .rulesRead _ always => o.proxy = currentAlwaysRules o ∧ always = currentAlwaysRules o

def CommitPc.Canonical : CommitPc → Prop
  | .idle => True
  | .persisted pol | .merged pol _ | .applied pol => Policy.Canonical pol

structure Tracked (cfg : Config) (st : Server) : Prop where
  rules : RulesTracked st.overlay st.reload
  canonical : st.commit.Canonical
  kernel : st.reload = .idle → ∀ pol ∈ st.target,
    st.sidecar.nft = staticPolicy cfg (currentAlwaysRules st.overlay) pol

variable {cfg : Config} {telemetry : List EgressRule} {st st' : Server}

theorem published_iff {o : Overlay} : Published o ↔ o.proxy = currentAlwaysRules o := by
  unfold Published currentAlwaysRules
  cases h : o.proxy with
  | mk deny allow => simp

theorem Tracked.launched (h : Launched cfg telemetry st) : Tracked cfg st := by
  obtain ⟨hover,_,hnft,hcommit,hreload⟩ := h
  refine ⟨?_,?_,fun _ pol hpol => ?_⟩
  · rw [hreload]
    exact published_iff.mp hover.published
  · rw [hcommit]
    trivial
  · rw [Server.target,hcommit] at hpol
    cases hpol
    exact hnft

section

variable (h : Tracked cfg st)

include h

theorem Tracked.beginCommit (req : Request) : Tracked cfg (beginCommit cfg st req) := by
  unfold PolicyServer.beginCommit
  split
  · exact h
  next pol hplan =>
  split
  · exact h
  · exact ⟨h.rules,handlePolicy_canonical hplan,nofun⟩

theorem Tracked.commitStep {l : Label} (hok : AppliesNothingStale st l)
    (hs : commitStep cfg st l = some st') : Tracked cfg st' := by
  have hcanon := h.canonical
  cases l <;> simp only [PolicyServer.commitStep,reduceCtorEq] at hs <;> split at hs <;>
    try cases hs
  · next req _ _ => exact h.beginCommit req
  · next pol hpc =>
    rw [hpc] at hcanon
    exact ⟨h.rules,hcanon,nofun⟩
  · next fails pol always hpc =>
    obtain ⟨rfl,hfresh⟩ := hok
    cases hs
    rw [hpc] at hcanon
    refine ⟨h.rules,hcanon,fun hreload pol' hpol => ?_⟩
    cases hpol
    rcases hfresh pol always hpc with rfl | hrunning
    · rfl
    · exact absurd hreload hrunning
  · next pol hpc =>
    rw [hpc] at hcanon
    refine ⟨h.rules,trivial,fun hreload pol' hpol => ?_⟩
    cases hpol
    rw [ensurePolicyDefaults_canonical hcanon]
    exact h.kernel hreload pol (by rw [Server.target,hpc]; rfl)

theorem Tracked.beginReload (hidle : st.reload = .idle) {f : Refresh}
    (hf : ¬ Swallows st.overlay f) : Tracked cfg (beginReload st f) := by
  unfold PolicyServer.beginReload
  split
  · exact ⟨rfl,h.canonical,nofun⟩
  next r l hne hr =>
  have hsame : currentAlwaysRules { st.overlay with loader := l } =
      currentAlwaysRules st.overlay := by
    obtain ⟨hdeny,hallow⟩ := refreshIfDue_rules hf hr fun he => hne (by rw [← he])
    simp only [currentAlwaysRules,hdeny,hallow]
  have hrules := h.rules
  rw [hidle] at hrules
  refine ⟨?_,h.canonical,fun hreload pol hpol => ?_⟩
  · rw [hidle]
    exact hrules.trans hsame.symm
  · rw [hsame]
    exact h.kernel hreload pol hpol

theorem Tracked.reloadStep {l : Label} (hok : AppliesNothingStale st l)
    (hs : reloadStep cfg telemetry st l = some st') : Tracked cfg st' := by
  have hrules := h.rules
  cases l <;> simp only [PolicyServer.reloadStep,reduceCtorEq] at hs <;> split at hs <;>
    try cases hs
  · next f _ hidle => exact h.beginReload hidle hok
  · exact ⟨rfl,h.canonical,nofun⟩
  iterate 2
    · next hpc =>
      rw [hpc] at hrules
      exact ⟨hrules,h.canonical,nofun⟩
  · next hpc =>
    rw [hpc] at hrules
    exact ⟨⟨hrules,rfl⟩,h.canonical,nofun⟩
  · next fails user always hpc =>
    obtain ⟨rfl,hfresh⟩ := hok
    cases hs
    rw [hpc] at hrules
    refine ⟨hrules.1,h.canonical,fun _ pol hpol => ?_⟩
    rw [← hfresh user always hpc pol hpol,← hrules.2]
    rfl

theorem Tracked.acts {l : Label} (hok : AppliesNothingStale st l)
    (hs : Acts cfg telemetry st l st') : Tracked cfg st' := by
  rcases Option.or_eq_some_iff.mp hs with hs | ⟨_,hs⟩
  · exact h.commitStep hok hs
  · exact h.reloadStep hok hs

theorem Tracked.converged (hfin : Finished st) : Converged cfg st := by
  obtain ⟨hcommit,hreload⟩ := hfin
  have hrules := h.rules
  rw [hreload] at hrules
  have hnft := h.kernel hreload st.sidecar.user (by rw [Server.target,hcommit]; rfl)
  refine ⟨hnft,?_⟩
  rwa [effectivePolicy,hrules]

end

theorem interleavings_converge (cfg : Config) (telemetry : List EgressRule) {st : Server}
    (h : Runs.Reach (Acts cfg telemetry) AppliesNothingStale (Launched cfg telemetry) st)
    (hfin : Finished st) : Converged cfg st := by
  have htracked : Tracked cfg st :=
    h.invariant (fun _ => Tracked.launched) fun _ _ _ ht hok hs => ht.acts hok hs
  exact htracked.converged hfin

section Alone

variable {init : Server → Prop}

variable (h : Runs.Reach (Acts cfg telemetry) AppliesNothingStale init st)

include h

theorem reach_commit {req : Request} {pol : NetworkPolicy} {sidecar : Sidecar}
    (hidle : st.commit = .idle) (halways : req.always = currentAlwaysRules st.overlay)
    (hplan : handlePolicy cfg st.sidecar.user req = .commit pol) (hw : req.writeFails = false)
    (ha : req.applyFails = false) (hserve : serve cfg st.sidecar req = (.ok, sidecar)) :
    Runs.Reach (Acts cfg telemetry) AppliesNothingStale init { st with sidecar := sidecar } := by
  have hbegin : beginCommit cfg st req =
      { st with
        sidecar := { st.sidecar with file := some (savedText req.nilEgress pol) }
        commit := .persisted pol } := by
    rw [beginCommit,← halways,hplan]
    simp [hw]
  have h₁ := h.step (a := Label.request req) trivial
    (show Acts cfg telemetry st (.request req) (beginCommit cfg st req) by
      simp [Acts,act,commitStep,hidle])
  rw [hbegin] at h₁
  have h₂ := h₁.step (a := Label.commitRules) trivial rfl
  have h₃ := h₂.step (a := Label.commitApply false)
    ⟨rfl,fun _ _ hpc => by cases hpc; exact .inl rfl⟩ rfl
  have h₄ := h₃.step (a := Label.updatePolicy) trivial rfl
  rw [ensurePolicyDefaults_canonical (handlePolicy_canonical hplan)] at h₄
  rw [serve_commits hplan hw ha,halways] at hserve
  cases hserve
  cases st
  cases hidle
  exact h₄

theorem reach_reload {f : Refresh} {overlay : Overlay} (hidle : Finished st)
    (hf : reloadAlwaysRules telemetry st.overlay f = (.ok true, overlay)) :
    Runs.Reach (Acts cfg telemetry) AppliesNothingStale init
      { st with
        overlay := overlay
        sidecar := st.sidecar.applyStatic cfg (currentAlwaysRules overlay) st.sidecar.user } := by
  obtain ⟨hcommit,hreload⟩ := hidle
  unfold reloadAlwaysRules at hf
  split at hf
  · cases hf
  · cases hf
  next l hl =>
  cases hf
  have hbegin : beginReload st f =
      { st with
        overlay := { st.overlay with loader := l }
        reload := .refreshed ⟨l.denyState.rules,l.allowState.rules⟩ } := by
    rw [beginReload,hl]
  have hkeeps : ¬ Swallows st.overlay f := by
    intro hs
    obtain ⟨e,he,_⟩ := hs.refreshes
    rw [hl] at he
    cases he
  have h₁ := h.step (a := Label.refresh f) hkeeps
    (show Acts cfg telemetry st (.refresh f) (beginReload st f) by
      simp [Acts,act,commitStep,reloadStep,hreload])
  rw [hbegin] at h₁
  have h₂ := h₁.step (a := Label.setAlwaysRules) trivial rfl
  have h₃ := h₂.step (a := Label.updateAlwaysRules) trivial rfl
  have h₄ := h₃.step (a := Label.reloadPolicy) trivial rfl
  have h₅ := h₄.step (a := Label.reloadRules) trivial rfl
  have h₆ := h₅.step (a := Label.reloadApply false) ⟨rfl,fun _ _ hpc pol hpol => by
      cases hpc
      rw [Server.target] at hpol
      simp only [hcommit] at hpol
      cases hpol
      rfl⟩ rfl
  cases st
  cases hreload
  exact h₆

end Alone

def bareServer : Server := ⟨lockedDown,bareOverlay,.idle,.idle⟩

theorem launched_bareServer : Launched openConfig [] bareServer := by
  have hload : loadInitialPolicyDetailed lockedDown.file "" =
      .ok (defaultDenyPolicy, .policyFile) := by decide +kernel
  exact ⟨startedOverlay_bare,⟨"",.policyFile,hload⟩,rfl,rfl,rfl⟩

def allowFileMissing : FileView := ⟨.notExist,.notExist⟩

def blockedOverlay : Overlay :=
  ⟨⟨60000000000,some 0,⟨actionDeny,true,1,13,[blockedRule]⟩,⟨actionAllow,false,0,0,[]⟩⟩,
    ⟨[blockedRule],[]⟩⟩

theorem reloadAlwaysRules_denyAdded :
    reloadAlwaysRules [] bareOverlay (denyAdded 0 allowFileMissing) =
      (.ok true, blockedOverlay) := by
  decide +kernel

theorem interleavings_converge_allowAll :
    ∃ st, Runs.Reach (Acts openConfig []) AppliesNothingStale (Launched openConfig []) st ∧
      Finished st ∧ st.sidecar.user = allowAll ∧ st.overlay.proxy = ⟨[blockedRule],[]⟩ ∧
      Converged openConfig st := by
  obtain ⟨overlay,hreload,hproxy⟩ : ∃ overlay,
      reloadAlwaysRules [] bareServer.overlay (denyAdded 0 allowFileMissing) =
        (.ok true, overlay) ∧ overlay.proxy = ⟨[blockedRule],[]⟩ :=
    ⟨blockedOverlay,reloadAlwaysRules_denyAdded,rfl⟩
  have hplan : handlePolicy openConfig bareServer.sidecar.user (postAllowAll false) =
      .commit allowAll := by
    decide +kernel
  have h₀ : Runs.Reach (Acts openConfig []) AppliesNothingStale (Launched openConfig [])
      bareServer := .start launched_bareServer
  have h₁ := reach_commit h₀ rfl rfl hplan rfl rfl (serve_commits hplan rfl rfl)
  have h₂ := reach_reload h₁ ⟨rfl,rfl⟩ hreload
  exact ⟨_,h₂,⟨rfl,rfl⟩,rfl,hproxy,interleavings_converge openConfig [] h₂ ⟨rfl,rfl⟩⟩

def Label.Succeeds : Label → Prop
  | .commitApply fails | .reloadApply fails => fails = false
  | _ => True

def crossedReload : List Label :=
  [.request (postAllowAll false),.commitRules,.refresh (denyAdded 0 allowFileMissing),
    .setAlwaysRules,.updateAlwaysRules,.reloadPolicy,.commitApply false,.updatePolicy,
    .reloadRules,.reloadApply false]

theorem reload_restores_replaced_policy :
    ∃ st, Runs.Reach (Acts openConfig []) (fun _ l => l.Succeeds) (Launched openConfig []) st ∧
      Finished st ∧ st.sidecar.user = allowAll ∧
      st.sidecar.nft = staticPolicy openConfig (currentAlwaysRules st.overlay) defaultDenyPolicy ∧
      ¬ Converged openConfig st := by
  obtain ⟨st,hst,hfin,huser,hnft,hne⟩ :
      ∃ st ∈ Runs.follow (act openConfig []) bareServer crossedReload,
        (st.commit = .idle ∧ st.reload = .idle) ∧ st.sidecar.user = allowAll ∧
        st.sidecar.nft = staticPolicy openConfig (currentAlwaysRules st.overlay) defaultDenyPolicy ∧
        st.sidecar.nft ≠
          staticPolicy openConfig (currentAlwaysRules st.overlay) st.sidecar.user := by
    decide +kernel
  refine ⟨st,?_,hfin,huser,hnft,fun hc => hne hc.1⟩
  refine Runs.Reach.follow (.start launched_bareServer) ?_ hst
  intro l hl st
  fin_cases hl <;> first | rfl | trivial

end OpenSandbox.PolicyServer
