import OpenSandbox.Library.Runs

namespace OpenSandbox.Kubernetes.Pool.Scaling

open List Bool

inductive Stage
  | live
  | terminating
  | gone
  deriving DecidableEq

def Stage.rank : Stage → Nat
  | .live => 0
  | .terminating => 1
  | .gone => 2

structure PodObject where
  name : String
  real : Stage
  cached : Option Stage

inductive IntOrString
  | int (n : Int)
  | string (text : String)

abbrev ScaledValue := IntOrString → Int → Option Int

structure CapacitySpec where
  bufferMin : Int
  bufferMax : Int
  poolMin : Int
  poolMax : Int
  maxUnavailable : Option IntOrString

structure ScaleArgs where
  schedulableCnt : Int
  allocatedCnt : Int
  supplyCnt : Int
  notReadyCnt : Int

def getScaleMaxUnavailable (scaled : ScaledValue) (spec : CapacitySpec) (desiredTotal : Int) : Int :=
  max ((scaled (spec.maxUnavailable.getD (.string "25%")) desiredTotal).getD 1) 1

def desiredBufferCnt (spec : CapacitySpec) (args : ScaleArgs) : Int :=
  let bufferCnt := args.schedulableCnt - args.allocatedCnt
  if bufferCnt < spec.bufferMin ∨ bufferCnt > spec.bufferMax then
    (spec.bufferMin + spec.bufferMax).tdiv 2
  else bufferCnt

def desiredSchedulableCnt (spec : CapacitySpec) (args : ScaleArgs) : Int :=
  max (args.allocatedCnt + args.supplyCnt + desiredBufferCnt spec args) spec.poolMin

def createCnt (scaled : ScaledValue) (spec : CapacitySpec) (totalPodCnt : Int) (args : ScaleArgs) :
    Nat :=
  let desired := desiredSchedulableCnt spec args
  let maxNewPods := max (spec.poolMax - totalPodCnt) 0
  if desired > args.schedulableCnt ∧ maxNewPods > 0 then
    (max 0 (min (min (desired - args.schedulableCnt) maxNewPods)
      (getScaleMaxUnavailable scaled spec desired - args.notReadyCnt))).toNat
  else 0

inductive Phase
  | idle
  | looping (totalPodCnt : Nat)
  | creating (totalPodCnt left : Nat)

structure State where
  pods : List PodObject
  expected : List String
  phase : Phase

inductive Action
  | list
  | scale (args : ScaleArgs)
  | create (name : String)
  | createFailed
  | conflict
  | finish
  | terminate (name : String)
  | vanish (name : String)
  | observe (name : String) (stage : Stage)
  | forget (name : String)

def PodObject.shown (pod : PodObject) : Bool :=
  pod.cached = some .live || pod.cached = some .terminating

def listed (pods : List PodObject) : List String := (pods.filter PodObject.shown).map PodObject.name

def totalPods (pods : List PodObject) : Nat := pods.countP fun pod => pod.cached = some .live

def livePods (pods : List PodObject) : Nat := pods.countP fun pod => pod.real = .live

def PodObject.reach (stage : Stage) (pod : PodObject) : PodObject :=
  if pod.real.rank < stage.rank then { pod with real := stage } else pod

def PodObject.sees (stage : Stage) (pod : PodObject) : PodObject :=
  if stage.rank ≤ pod.real.rank ∧ (pod.cached.map Stage.rank).getD 0 ≤ stage.rank then
    { pod with cached := some stage }
  else pod

def PodObject.erased (pod : PodObject) : Bool :=
  pod.real = .gone && (pod.cached = none || pod.cached = some .gone)

def changed (name : String) (f : PodObject → PodObject) (pod : PodObject) : PodObject :=
  if pod.name = name then f pod else pod

def State.change (s : State) (name : String) (f : PodObject → PodObject) : State :=
  { s with pods := s.pods.map (changed name f) }

def step (scaled : ScaledValue) (spec : CapacitySpec) (s : State) : Action → Option State
  | .list =>
    match s.phase with
    | .idle =>
      some { s with
        expected := s.expected.filter (· ∉ listed s.pods)
        phase := .looping (totalPods s.pods) }
    | _ => none
  | .scale args =>
    match s.phase with
    | .looping total =>
      if s.expected = [] then
        some { s with phase := .creating total (createCnt scaled spec total args) }
      else some { s with phase := .idle }
    | _ => none
  | .create name =>
    match s.phase with
    | .creating total (left + 1) =>
      if name ∈ s.pods.map PodObject.name then none
      else
        some
          { pods := s.pods ++ [{ name, real := .live, cached := none }]
            expected := name :: s.expected
            phase := .creating total left }
    | _ => none
  | .createFailed =>
    match s.phase with
    | .creating total (left + 1) => some { s with phase := .creating total left }
    | _ => none
  | .conflict =>
    match s.phase with
    | .looping total | .creating total 0 => some { s with phase := .looping total }
    | _ => none
  | .finish =>
    match s.phase with
    | .looping _ | .creating _ 0 => some { s with phase := .idle }
    | _ => none
  | .terminate name => some (s.change name (PodObject.reach .terminating))
  | .vanish name => some (s.change name (PodObject.reach .gone))
  | .observe name stage => some (s.change name (PodObject.sees stage))
  | .forget name =>
    some { s with pods := s.pods.filter fun pod => !(pod.name = name && pod.erased) }

def unexpected (s : State) : Nat :=
  s.pods.countP fun pod => pod.real = .live && pod.name ∉ s.expected

structure Tracked (s : State) : Prop where
  names : (s.pods.map PodObject.name).Nodup
  ordered : ∀ pod ∈ s.pods, ∀ stage, pod.cached = some stage → stage.rank ≤ pod.real.rank
  known : ∀ pod ∈ s.pods, pod.real = .live → pod.cached = none → pod.name ∈ s.expected

structure Start (spec : CapacitySpec) (s : State) : Prop extends Tracked s where
  idle : s.phase = .idle
  bounded : (livePods s.pods : Int) ≤ spec.poolMax

def Phase.Safe (spec : CapacitySpec) (s : State) : Phase → Prop
  | .idle => True
  | .looping total => unexpected s ≤ total
  | .creating total left =>
    unexpected s ≤ total ∧ (livePods s.pods + left : Int) ≤ spec.poolMax

structure Bounded (spec : CapacitySpec) (s : State) : Prop extends Tracked s where
  bounded : (livePods s.pods : Int) ≤ spec.poolMax
  safe : s.phase.Safe spec s

variable {scaled : ScaledValue} {spec : CapacitySpec}

theorem createCnt_le {live total : Nat} (args : ScaleArgs) (hlive : (live : Int) ≤ spec.poolMax)
    (hle : live ≤ total) : (live + createCnt scaled spec total args : Int) ≤ spec.poolMax := by
  unfold createCnt
  dsimp only
  split
  · omega
  · omega

variable {s : State}

theorem Tracked.cached_live (h : Tracked s) {pod : PodObject} (hpod : pod ∈ s.pods)
    (hlive : pod.real = .live) : pod.cached = some .live ∨ pod.cached = none := by
  cases hcached : pod.cached with
  | none => exact .inr rfl
  | some stage =>
    have hle := h.ordered pod hpod stage hcached
    rw [hlive] at hle
    cases stage with
    | live => exact .inl rfl
    | terminating | gone => cases hle

theorem Tracked.list {s : State} (h : Tracked s) (phase : Phase) :
    Tracked { s with expected := s.expected.filter (· ∉ listed s.pods), phase } where
  names := h.names
  ordered := h.ordered
  known := by
    intro pod hpod hlive hnone
    refine mem_filter.mpr ⟨h.known pod hpod hlive hnone,decide_eq_true fun hlisted => ?_⟩
    obtain ⟨other,hother,hname⟩ := mem_map.mp hlisted
    obtain ⟨hmem,hshown⟩ := mem_filter.mp hother
    obtain rfl := inj_on_of_nodup_map h.names hmem hpod hname
    simp [PodObject.shown,hnone] at hshown

theorem Tracked.unexpected_le (h : Tracked s) : unexpected s ≤ totalPods s.pods := by
  refine countP_mono_left fun pod hpod hp => ?_
  rw [and_eq_true,decide_eq_true_eq,decide_eq_true_eq] at hp
  rcases h.cached_live hpod hp.1 with hcached | hnone
  · exact decide_eq_true hcached
  · exact absurd (h.known pod hpod hp.1 hnone) hp.2

theorem unexpected_eq (h : s.expected = []) : unexpected s = livePods s.pods := by
  refine countP_congr fun pod _ => ?_
  simp [h]

structure Gentle (f : PodObject → PodObject) : Prop where
  name : ∀ pod, (f pod).name = pod.name
  live : ∀ pod, (f pod).real = .live → pod.real = .live
  ordered : ∀ pod, (∀ stage, pod.cached = some stage → stage.rank ≤ pod.real.rank) →
    ∀ stage, (f pod).cached = some stage → stage.rank ≤ (f pod).real.rank
  cached : ∀ pod, (f pod).cached = none → pod.cached = none

variable {f : PodObject → PodObject}

theorem Gentle.guarded {p : PodObject → Prop} [DecidablePred p]
    (name : ∀ pod, p pod → (f pod).name = pod.name)
    (live : ∀ pod, p pod → (f pod).real = .live → pod.real = .live)
    (ordered : ∀ pod, p pod → (∀ stage, pod.cached = some stage → stage.rank ≤ pod.real.rank) →
      ∀ stage, (f pod).cached = some stage → stage.rank ≤ (f pod).real.rank)
    (cached : ∀ pod, p pod → (f pod).cached = none → pod.cached = none) :
    Gentle fun pod => if p pod then f pod else pod := by
  refine ⟨fun pod => ?_,fun pod => ?_,fun pod => ?_,fun pod => ?_⟩ <;> split <;> rename_i hp
  · exact name pod hp
  · rfl
  · exact live pod hp
  · exact id
  · exact ordered pod hp
  · exact id
  · exact cached pod hp
  · exact id

theorem Gentle.reach (stage : Stage) (h : 0 < stage.rank) : Gentle (PodObject.reach stage) := by
  refine .guarded (fun _ _ => rfl) ?_ ?_ fun _ _ hnone => hnone
  · intro pod _ hlive
    cases stage with
    | live => cases h
    | terminating | gone => cases hlive
  · intro pod hlt hpod seen hseen
    exact (hpod seen hseen).trans hlt.le

theorem Gentle.sees (stage : Stage) : Gentle (PodObject.sees stage) := by
  refine .guarded (fun _ _ => rfl) (fun _ _ hlive => hlive) ?_ nofun
  intro pod hok _ seen hseen
  cases hseen
  exact hok.1

theorem Gentle.changed (h : Gentle f) (name : String) : Gentle (changed name f) :=
  .guarded (fun pod _ => h.name pod) (fun pod _ => h.live pod) (fun pod _ => h.ordered pod)
    fun pod _ => h.cached pod

theorem Bounded.shrink {spec : CapacitySpec} {s : State} {pods : List PodObject}
    (h : Bounded spec s) (htracked : Tracked { s with pods })
    (hlive : livePods pods ≤ livePods s.pods)
    (hunexpected : unexpected { s with pods } ≤ unexpected s) : Bounded spec { s with pods } where
  toTracked := htracked
  bounded := by
    have hb := h.bounded
    change (livePods pods : Int) ≤ spec.poolMax
    omega
  safe := by
    have hsafe := h.safe
    change s.phase.Safe spec { s with pods }
    cases hphase : s.phase with
    | idle => trivial
    | looping total =>
      rw [hphase] at hsafe
      exact hunexpected.trans hsafe
    | creating total left =>
      rw [hphase] at hsafe
      refine ⟨hunexpected.trans hsafe.1,?_⟩
      have hroom := hsafe.2
      change (livePods pods + left : Int) ≤ spec.poolMax
      omega

theorem Bounded.gentle (h : Bounded spec s) (hf : Gentle f) :
    Bounded spec { s with pods := s.pods.map f } := by
  refine h.shrink ⟨?_,?_,?_⟩ ?_ ?_
  · have hnames : (s.pods.map f).map PodObject.name = s.pods.map PodObject.name := by
      rw [map_map]
      exact map_congr_left fun pod _ => hf.name pod
    change ((s.pods.map f).map PodObject.name).Nodup
    rw [hnames]
    exact h.names
  · exact forall_mem_map.mpr fun pod hpod => hf.ordered pod (h.ordered pod hpod)
  · refine forall_mem_map.mpr fun pod hpod hlive hnone => ?_
    change (f pod).name ∈ s.expected
    rw [hf.name]
    exact h.known pod hpod (hf.live pod hlive) (hf.cached pod hnone)
  · rw [livePods,countP_map]
    refine countP_mono_left fun pod _ hp => ?_
    exact decide_eq_true (hf.live pod (of_decide_eq_true hp))
  · rw [unexpected,countP_map]
    refine countP_mono_left fun pod _ hp => ?_
    simp only [Function.comp_apply,and_eq_true,decide_eq_true_eq,hf.name] at hp ⊢
    exact ⟨hf.live pod hp.1,hp.2⟩

theorem Bounded.sublist (h : Bounded spec s) {pods : List PodObject} (hsub : pods.Sublist s.pods) :
    Bounded spec { s with pods } := by
  refine h.shrink ⟨?_,?_,?_⟩ hsub.countP_le hsub.countP_le
  · exact h.names.sublist (hsub.map PodObject.name)
  · exact fun pod hpod => h.ordered pod (hsub.subset hpod)
  · exact fun pod hpod => h.known pod (hsub.subset hpod)

theorem Bounded.created {spec : CapacitySpec} {s : State} {total left : Nat} {name : String}
    (h : Bounded spec s) (hphase : s.phase = .creating total (left + 1))
    (hnew : name ∉ s.pods.map PodObject.name) :
    Bounded spec
      { pods := s.pods ++ [{ name, real := .live, cached := none }]
        expected := name :: s.expected
        phase := .creating total left } := by
  have hsafe := h.safe
  rw [hphase] at hsafe
  have hlive : livePods (s.pods ++ [{ name, real := .live, cached := none }]) =
      livePods s.pods + 1 := by
    rw [livePods,countP_append]
    rfl
  refine ⟨⟨?_,?_,?_⟩,?_,?_,?_⟩
  · rw [map_append,nodup_append]
    refine ⟨h.names,nodup_singleton _,?_⟩
    rintro a ha b hb rfl
    have heq : a = name := mem_singleton.mp hb
    exact hnew (heq ▸ ha)
  · exact forall_mem_append.mpr ⟨h.ordered,forall_mem_singleton.mpr nofun⟩
  · refine forall_mem_append.mpr ⟨fun pod hpod hreal hnone => ?_,
      forall_mem_singleton.mpr fun _ _ => mem_cons_self⟩
    exact mem_cons_of_mem name (h.known pod hpod hreal hnone)
  · have hroom := hsafe.2
    rw [hlive]
    omega
  · refine le_trans ?_ hsafe.1
    rw [unexpected,countP_append,unexpected]
    have hone : countP (fun pod : PodObject =>
        decide (pod.real = .live) && decide (pod.name ∉ name :: s.expected))
        [{ name, real := .live, cached := none }] = 0 := by
      simp
    rw [hone,Nat.add_zero]
    refine countP_mono_left fun pod _ hp => ?_
    rw [and_eq_true,decide_eq_true_eq,decide_eq_true_eq] at hp ⊢
    exact ⟨hp.1,fun hmem => hp.2 (mem_cons_of_mem name hmem)⟩
  · have hroom := hsafe.2
    rw [hlive]
    push_cast at hroom ⊢
    omega

theorem Bounded.rephase (h : Bounded spec s) {phase : Phase} (hsafe : phase.Safe spec s) :
    Bounded spec { s with phase } :=
  ⟨⟨h.names,h.ordered,h.known⟩,h.bounded,by cases phase <;> exact hsafe⟩

theorem Bounded.step {t : State} {a : Action} (h : Bounded spec s)
    (hstep : step scaled spec s a = some t) : Bounded spec t := by
  have hsafe {phase : Phase} (hphase : s.phase = phase) : phase.Safe spec s := hphase ▸ h.safe
  revert hstep
  fun_cases Scaling.step scaled spec s a <;> intro hstep <;> cases hstep
  · have htracked := h.toTracked.list (.looping (totalPods s.pods))
    exact ⟨htracked,h.bounded,htracked.unexpected_le⟩
  · rename_i hphase hnone
    refine h.rephase ⟨hsafe hphase,createCnt_le _ h.bounded ?_⟩
    rw [← unexpected_eq hnone]
    exact hsafe hphase
  · exact h.rephase trivial
  · rename_i hphase hnew
    exact h.created hphase hnew
  · rename_i total left hphase
    obtain ⟨hle,hroom⟩ := hsafe hphase
    refine h.rephase ⟨hle,?_⟩
    push_cast at hroom
    omega
  · rename_i hphase
    exact h.rephase (hsafe hphase)
  · rename_i hphase
    exact h.rephase (hsafe hphase).1
  · exact h.rephase trivial
  · exact h.rephase trivial
  · exact h.gentle ((Gentle.reach .terminating (by decide)).changed _)
  · exact h.gentle ((Gentle.reach .gone (by decide)).changed _)
  · exact h.gentle ((Gentle.sees _).changed _)
  · exact h.sublist filter_sublist

theorem pool_size_bounded {scaled : ScaledValue} {spec : CapacitySpec} {s : State}
    (h : Runs.Reach (fun s a t => step scaled spec s a = some t) (fun _ _ => True) (Start spec) s) :
    (livePods s.pods : Int) ≤ spec.poolMax := by
  have hinv : Bounded spec s := by
    refine @Runs.Reach.invariant _ _ _ _ _ (Bounded spec) ?_ ?_ s h
    · intro s hs
      refine ⟨hs.toTracked,hs.bounded,?_⟩
      rw [hs.idle]
      trivial
    · intro s a t hs _ hstep
      exact hs.step hstep
  exact hinv.bounded

def smallPool : CapacitySpec :=
  { bufferMin := 2
    bufferMax := 4
    poolMin := 0
    poolMax := 2
    maxUnavailable := some (.int 5) }

def plainScaled : ScaledValue
  | .int n, _ => some n
  | .string _, _ => none

def emptyPool : State :=
  { pods := []
    expected := []
    phase := .idle }

theorem pool_size_bounded_retry :
    ∃ s, Runs.Reach (fun s a t => step plainScaled smallPool s a = some t) (fun _ _ => True)
      (Start smallPool) s ∧ livePods s.pods = 2 ∧ (livePods s.pods : Int) ≤ smallPool.poolMax := by
  have hstart : Start smallPool emptyPool := ⟨⟨nodup_nil,nofun,nofun⟩,rfl,by decide⟩
  obtain ⟨s,hs,hlive⟩ : ∃ s ∈ Runs.follow (step plainScaled smallPool) emptyPool
      [.list,.scale ⟨0,0,1,0⟩,.create "a",.create "b",.conflict,.scale ⟨0,0,1,0⟩,
        .list,.scale ⟨0,0,1,0⟩], livePods s.pods = 2 := by
    decide
  have hreach := Runs.Reach.follow (Runs.Reach.start hstart) (fun _ _ _ => trivial) hs
  exact ⟨s,hreach,hlive,pool_size_bounded hreach⟩

end OpenSandbox.Kubernetes.Pool.Scaling
