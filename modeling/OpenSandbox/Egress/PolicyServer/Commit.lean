import OpenSandbox.Library.Runs
import OpenSandbox.Egress.PolicyServer.Handlers

namespace OpenSandbox.PolicyServer

open Policy Option

def InSync (st : Sidecar) : Prop :=
  recordedPolicy st.file = some st.user ∧ st.nftUser = st.user

structure Unchanged (st st' : Sidecar) : Prop where
  file : recordedPolicy st'.file = recordedPolicy st.file
  user : st'.user = st.user
  nftUser : st'.nftUser = st.nftUser

def Serves (cfg : Config) (st : Sidecar) (req : Request) (st' : Sidecar) : Prop :=
  st' = (serve cfg st req).2

def AllOrNothing (cfg : Config) (st : Sidecar) (req : Request) (st' : Sidecar) : Prop :=
  InSync st' ∧ ((serve cfg st req).1 ≠ .ok → Unchanged st st')

def CommitsInFull (cfg : Config) (st : Sidecar) (req : Request) : Prop :=
  ∃ pol, handlePolicy cfg st.user req = .commit pol ∧ req.writeFails = false ∧
    req.applyFails = false

def TearsFile (cfg : Config) (st : Sidecar) (req : Request) : Prop :=
  ∃ pol, handlePolicy cfg st.user req = .commit pol ∧ req.writeFails = false ∧
    req.applyFails = true ∧ pol ≠ st.user

def Whole (cfg : Config) (st : Sidecar) (req : Request) : Prop :=
  CommitsInFull cfg st req ∨ (InSync st ∧ ¬ TearsFile cfg st req)

structure Settled (st : Sidecar) : Prop where
  canonical : Canonical st.user
  applied : st.nftUser = st.user

variable {cfg : Config} {st : Sidecar} {req : Request}

variable {pol : NetworkPolicy}

theorem loadInitialPolicyDetailed_canonical {file : Option String} {env : String}
    {source : InitialSource} (h : loadInitialPolicyDetailed file env = .ok (pol, source)) :
    Canonical pol := by
  unfold loadInitialPolicyDetailed at h
  split at h
  · next hrec =>
    cases h
    exact recordedPolicy_canonical hrec
  unfold loadPolicyFromEnv at h
  split at h
  · cases h
    exact canonical_defaultDenyPolicy
  cases hp : parsePolicy env with
  | error e =>
    rw [hp] at h
    cases h
  | ok q =>
    rw [hp] at h
    cases h
    exact canonical_of_parsePolicy hp

theorem Started.settled (h : Started cfg st) : Settled st := by
  obtain ⟨env,always,source,hload,hnft,_⟩ := h
  exact ⟨loadInitialPolicyDetailed_canonical hload,hnft⟩

theorem serve_reply {status : Status} (h : handlePolicy cfg st.user req = .reply status) :
    serve cfg st req = (status, st) := by
  rw [serve,h]

section

variable (h : handlePolicy cfg st.user req = .commit pol)

include h

theorem serve_writeFails (hw : req.writeFails = true)
    : serve cfg st req = (.internalServerError, st) := by
  rw [serve,h]
  simp only [commitPolicy]
  rw [if_pos hw]

theorem serve_applyFails (hw : req.writeFails = false) (ha : req.applyFails = true) :
    serve cfg st req = (.internalServerError, { st with file := some (savedText req.nilEgress pol) }) := by
  rw [serve,h]
  simp only [commitPolicy]
  rw [if_neg (by simp [hw]),if_pos ha]

theorem serve_commits (hw : req.writeFails = false) (ha : req.applyFails = false) :
    serve cfg st req =
      (.ok, ⟨some (savedText req.nilEgress pol),pol,pol,staticPolicy cfg req.always pol⟩) := by
  rw [serve,h]
  simp only [commitPolicy]
  rw [if_neg (by simp [hw]),if_neg (by simp [ha]),
    ensurePolicyDefaults_canonical (handlePolicy_canonical h)]

end

theorem Settled.serve (hst : Settled st) : Settled (serve cfg st req).2 := by
  cases hplan : handlePolicy cfg st.user req with
  | reply status =>
    rwa [serve_reply hplan]
  | commit pol =>
    cases hw : req.writeFails with
    | true =>
      rwa [serve_writeFails hplan hw]
    | false =>
      cases ha : req.applyFails with
      | true =>
        rw [serve_applyFails hplan hw ha]
        exact ⟨hst.canonical,hst.applied⟩
      | false =>
        rw [serve_commits hplan hw ha]
        exact ⟨handlePolicy_canonical hplan,rfl⟩

theorem whole_of_idle (h : ∀ pol, handlePolicy cfg st.user req = .commit pol →
    req.writeFails = true) : Whole cfg st req ↔ InSync st := by
  constructor
  · rintro (⟨pol,hplan,hw,_⟩ | ⟨hsync,_⟩)
    · rw [h pol hplan] at hw
      cases hw
    · exact hsync
  · intro hsync
    refine .inr ⟨hsync,?_⟩
    rintro ⟨pol,hplan,hw,_⟩
    rw [h pol hplan] at hw
    cases hw

theorem allOrNothing_idle : AllOrNothing cfg st req st ↔ InSync st := by
  constructor
  · exact fun hall => hall.1
  · exact fun hsync => ⟨hsync,fun _ => ⟨rfl,rfl,rfl⟩⟩

theorem allOrNothing_torn (hst : Settled st) (hplan : handlePolicy cfg st.user req = .commit pol)
    (hw : req.writeFails = false) (ha : req.applyFails = true) :
    AllOrNothing cfg st req { st with file := some (savedText req.nilEgress pol) } ↔ Whole cfg st req := by
  have hrec := recordedPolicy_savedText req.nilEgress (handlePolicy_canonical hplan)
  have hserve := serve_applyFails hplan hw ha
  constructor
  · rintro ⟨hsync,hkept⟩
    have hfile := (hkept (by rw [hserve]; simp)).file
    rw [hrec] at hfile
    have hpol : pol = st.user := some.inj (hrec.symm.trans hsync.1)
    refine .inr ⟨⟨hfile.symm.trans (congrArg some hpol),hst.applied⟩,?_⟩
    rintro ⟨pol',hplan',_,_,hne⟩
    rw [hplan] at hplan'
    cases hplan'
    exact hne hpol
  rintro (⟨_,_,_,ha'⟩ | ⟨hsync,hwhole⟩)
  · rw [ha] at ha'
    cases ha'
  · have hpol : pol = st.user := by
      by_contra hne
      exact hwhole ⟨pol,hplan,hw,ha,hne⟩
    refine ⟨⟨hrec.trans (congrArg some hpol),hst.applied⟩,fun _ => ⟨?_,rfl,rfl⟩⟩
    exact hrec.trans ((congrArg some hpol).trans hsync.1.symm)

theorem allOrNothing_iff (hst : Settled st) :
    AllOrNothing cfg st req (serve cfg st req).2 ↔ Whole cfg st req := by
  cases hplan : handlePolicy cfg st.user req with
  | reply status =>
    rw [serve_reply hplan,allOrNothing_idle,whole_of_idle fun pol h => by rw [hplan] at h; cases h]
  | commit pol =>
    cases hw : req.writeFails with
    | true =>
      rw [serve_writeFails hplan hw,allOrNothing_idle,whole_of_idle fun _ _ => hw]
    | false =>
      cases ha : req.applyFails with
      | true =>
        rw [serve_applyFails hplan hw ha]
        exact allOrNothing_torn hst hplan hw ha
      | false =>
        rw [serve_commits hplan hw ha]
        refine ⟨fun _ => .inl ⟨pol,hplan,hw,ha⟩,fun _ => ⟨⟨?_,rfl⟩,fun hno => ?_⟩⟩
        · exact recordedPolicy_savedText req.nilEgress (handlePolicy_canonical hplan)
        · rw [serve_commits hplan hw ha] at hno
          exact absurd rfl hno

theorem whole_iff_of_inSync (hsync : InSync st) : Whole cfg st req ↔ ¬ TearsFile cfg st req := by
  constructor
  · rintro (⟨_,_,_,ha⟩ | ⟨_,hno⟩)
    · rintro ⟨_,_,_,ha',_⟩
      rw [ha] at ha'
      cases ha'
    · exact hno
  · exact fun hno => .inr ⟨hsync,hno⟩

theorem eachStep_of_inSync (hst : Settled st) (hsync : InSync st) (reqs : List Request) :
    Runs.EachStep (Serves cfg) (AllOrNothing cfg) st reqs ↔
      Runs.Guarded (Serves cfg) (fun st req => ¬ TearsFile cfg st req) st reqs := by
  induction reqs generalizing st with
  | nil => exact Iff.rfl
  | cons req reqs ih =>
    refine forall_congr' fun st' => imp_congr_right ?_
    rintro rfl
    rw [allOrNothing_iff hst,whole_iff_of_inSync hsync]
    refine and_congr_right fun hno => ?_
    have hwhole := (allOrNothing_iff hst).mpr ((whole_iff_of_inSync hsync).mpr hno)
    exact ih hst.serve hwhole.1

theorem Started.inSync_iff (h : Started cfg st) :
    InSync st ↔ (recordedPolicy st.file).isSome = true := by
  obtain ⟨env,always,source,hload,hnft,_⟩ := h
  constructor
  · intro hsync
    rw [hsync.1]
    rfl
  intro hsome
  obtain ⟨pol,hpol⟩ := isSome_iff_exists.mp hsome
  rw [loadInitialPolicyDetailed,hpol] at hload
  cases hload
  exact ⟨hpol,hnft⟩

theorem requests_allOrNothing_iff (cfg : Config) {st : Sidecar} (h : Started cfg st)
    (reqs : List Request) :
    Runs.EachStep (Serves cfg) (AllOrNothing cfg) st reqs ↔
      Runs.Guarded (Serves cfg) (fun st req => ¬ TearsFile cfg st req) st reqs ∧
        ((recordedPolicy st.file).isSome = true ∨
          ∀ req ∈ reqs.head?, CommitsInFull cfg st req) := by
  by_cases hsync : InSync st
  · rw [eachStep_of_inSync h.settled hsync,iff_self_and]
    exact fun _ => .inl (h.inSync_iff.mp hsync)
  cases reqs with
  | nil => simp [Runs.EachStep,Runs.Guarded]
  | cons req reqs =>
    have hfull : Whole cfg st req ↔ CommitsInFull cfg st req := by
      simp [Whole,hsync]
    have hmissing : ¬ (recordedPolicy st.file).isSome = true := h.inSync_iff.not.mp hsync
    have hrest (hc : CommitsInFull cfg st req) :
        Runs.EachStep (Serves cfg) (AllOrNothing cfg) (serve cfg st req).2 reqs ↔ _ :=
      eachStep_of_inSync h.settled.serve ((allOrNothing_iff h.settled).mpr (hfull.mpr hc)).1 reqs
    have htears (hc : CommitsInFull cfg st req) : ¬ TearsFile cfg st req := by
      obtain ⟨_,_,_,ha⟩ := hc
      rintro ⟨_,_,_,ha',_⟩
      rw [ha] at ha'
      cases ha'
    simp only [Runs.EachStep,Runs.Guarded,Serves,forall_eq,allOrNothing_iff h.settled,hfull,
      List.head?_cons,mem_some_iff,forall_eq',hmissing,Bool.false_eq_true,false_or]
    constructor
    · rintro ⟨hc,hr⟩
      exact ⟨⟨htears hc,(hrest hc).mp hr⟩,hc⟩
    · rintro ⟨⟨_,hr⟩,hc⟩
      exact ⟨hc,(hrest hc).mpr hr⟩

def allowAllText : String := "\x7b\"defaultAction\":\"allow\"\x7d"

def allowAll : NetworkPolicy := ⟨[],actionAllow,some (compileDomainIndex [])⟩

def openConfig : Config := ⟨[],0⟩

def lockedDown : Sidecar :=
  ⟨some "null",defaultDenyPolicy,defaultDenyPolicy,
    staticPolicy openConfig ⟨[],[]⟩ defaultDenyPolicy⟩

def postAllowAll (applyFails : Bool) : Request :=
  ⟨.post,some allowAllText,⟨[],[]⟩,fun _ => true,false,applyFails,true⟩

theorem started_lockedDown : Started openConfig lockedDown := by
  have hload : loadInitialPolicyDetailed (some "null") "" =
      .ok (defaultDenyPolicy, .policyFile) := by decide +kernel
  exact ⟨"",⟨[],[]⟩,.policyFile,hload,rfl,rfl⟩

def narrowRequest : Request :=
  ⟨.patch,some "[\x7b\"action\":\"deny\",\"target\":\"blocked.test\"\x7d]",⟨[],[]⟩,fun _ => true,
    false,false,false⟩

theorem requests_allOrNothing_narrowed : Started openConfig lockedDown ∧
      Runs.EachStep (Serves openConfig) (AllOrNothing openConfig) lockedDown
        [postAllowAll false,narrowRequest,postAllowAll false] := by
  have hkept {st : Sidecar} {req : Request} (h : req.applyFails = false) :
      ¬ TearsFile openConfig st req := by
    rintro ⟨_,_,_,ha,_⟩
    rw [h] at ha
    cases ha
  refine ⟨started_lockedDown,(requests_allOrNothing_iff openConfig started_lockedDown _).mpr
    ⟨?_,.inl (by decide +kernel)⟩⟩
  exact fun _ _ => ⟨hkept rfl,fun _ _ => ⟨hkept rfl,fun _ _ => ⟨hkept rfl,trivial⟩⟩⟩

theorem failed_apply_leaves_file : Started openConfig lockedDown ∧
      (serve openConfig lockedDown (postAllowAll true)).1 = .internalServerError ∧
      recordedPolicy (serve openConfig lockedDown (postAllowAll true)).2.file = some allowAll ∧
      (serve openConfig lockedDown (postAllowAll true)).2.user = defaultDenyPolicy ∧
      (serve openConfig lockedDown (postAllowAll true)).2.nftUser = defaultDenyPolicy ∧
      recordedPolicy lockedDown.file = some defaultDenyPolicy := by
  refine ⟨started_lockedDown,?_⟩
  decide +kernel

end OpenSandbox.PolicyServer
