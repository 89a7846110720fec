import OpenSandbox.Kubernetes.BatchSandbox.Requests

namespace OpenSandbox.Ingress

open Kubernetes.BatchSandbox List Option

structure CachedSandbox where
  «namespace» : String
  accessToken : String
  sandbox : Sandbox

inductive ProviderError
  | notFound (id : String)
  | ambiguous (id : String) (found : List String)
  | notReady (id : String) (detail : String)

structure EndpointInfo where
  endpoint : String
  secureAccessToken : String
  deriving DecidableEq

structure Served where
  state : State
  listed : List Pod

namespace Served

def list (v : Served) : Action → List Pod
  | .run input =>
    match v.state.pc with
    | .scale b => sortedPods b v.state.pods input.order
    | _ => []
  | _ => []

def step (v : Served) (a : Action) : Option Served :=
  (v.state.step a).map fun t => ⟨t,v.listed ++ v.list a⟩

def Run (ok : Served → Action → Prop) : Served → Prop :=
  Runs.Reach (fun v a v' => v.step a = some v') ok fun v =>
    Created v.state ∧ v.state.api.endpoints = none

end Served

def FirstAddressed (v : Served) (a : Action) : Prop := ∀ pod ∈ (v.list a).head?, pod.podIP ≠ ""

instance (v : Served) (a : Action) : Decidable (FirstAddressed v a) :=
  inferInstanceAs (Decidable (∀ pod ∈ (v.list a).head?, pod.podIP ≠ ""))

def Addressed (listed : List Pod) (ips : List String) : Prop :=
  ∀ ip ∈ ips.head?, ip ≠ "" ∧ ∃ pod ∈ listed, pod.podIP = ip

def viewed : Pc → Option (List String)
  | .runTasks _ _ view | .releasePods _ view _ _ | .cleanupTasks _ view _ | .patchEndpoints _ view
  | .persist _ view => some view.endpointIPs
  | _ => none

theorem Addressed.grow {listed : List Pod} {ips : List String} (h : Addressed listed ips)
    (more : List Pod) : Addressed (listed ++ more) ips := by
  intro ip hip
  obtain ⟨hne,pod,hpod,haddress⟩ := h ip hip
  exact ⟨hne,pod,mem_append_left more hpod,haddress⟩

theorem addressed_view (listed : List Pod) {pods : List Pod} (b : Sandbox)
    (h : ∀ pod ∈ pods.head?, pod.podIP ≠ "") :
    Addressed (listed ++ pods) (acknowledgeView b (buildRuntimeView b pods)).endpointIPs := by
  have hips : (acknowledgeView b (buildRuntimeView b pods)).endpointIPs =
      pods.map fun pod => if pod.isAssigned then pod.podIP else "" := by
    unfold acknowledgeView
    split <;> rfl
  rw [hips]
  cases pods with
  | nil => exact nofun
  | cons pod rest =>
    have hne : pod.podIP ≠ "" := h pod rfl
    intro ip hip
    have hassigned : pod.isAssigned = true := by simp [Pod.isAssigned,hne]
    obtain rfl : pod.podIP = ip := by simpa [hassigned] using hip
    exact ⟨hne,pod,mem_append_right listed mem_cons_self,rfl⟩

theorem viewed_beginReconcile (b : Sandbox) : viewed (beginReconcile b) = none := by
  have h := reconcile_begins b
  generalize beginReconcile b = pc at h ⊢
  cases h with
  | rest h => obtain rfl | rfl := h <;> rfl
  | _ => rfl

theorem viewed_ensureSnapshot (b : Sandbox) : viewed (ensureSnapshot b) = none := by
  unfold ensureSnapshot
  split <;> rfl

theorem viewed_afterPersist (view : RuntimeView) : viewed (State.afterPersist view) = none := by
  unfold State.afterPersist
  split <;> rfl

theorem viewed_afterScale (b : Sandbox) (pods : List Pod) : viewed (afterScale b pods) =
      some (acknowledgeView b (buildRuntimeView b pods)).endpointIPs := by
  unfold afterScale
  split <;> rfl

theorem hop_viewed {s : State} {pc pc' : Pc} (h : Hop s pc pc') :
    viewed pc' = viewed pc ∨ viewed pc' = none := by
  cases h with
  | start => exact .inr (viewed_beginReconcile s.api)
  | syncMissing => exact .inr (viewed_ensureSnapshot _)
  | unchanged => exact .inr (viewed_afterPersist _)
  | counted | skipped => exact .inl rfl
  | _ => exact .inr rfl

inductive Shown (s : State) : Action → State → Prop
  | kept {a : Action} {t : State} : t.api.endpoints = s.api.endpoints →
      viewed t.pc = viewed s.pc ∨ viewed t.pc = none → Shown s a t
  | built {input : Input} {t : State} {b : Sandbox} : s.pc = .scale b →
      t.api.endpoints = s.api.endpoints → t.pc = afterScale b (sortedPods b s.pods input.order) →
      Shown s (.run input) t
  | wrote {a : Action} {t : State} {ips : List String} : viewed s.pc = some ips →
      viewed t.pc = some ips → t.api.endpoints = some ips → Shown s a t

theorem turn_shown {s t : State} {input : Input} (h : Turn s input t) : Shown s (.run input) t := by
  cases h with
  | hop hop => exact .kept rfl (hop_viewed hop)
  | pauseAck _ hpc =>
    refine .kept rfl (.inr ?_)
    rcases hpc with rfl | ⟨_,rfl⟩
    · rfl
    · exact viewed_ensureSnapshot _
  | stopTasks _ _ _ hpc => rcases hpc with rfl | rfl <;> exact .kept rfl (.inr rfl)
  | resumePatch _ =>
    refine .kept ?_ (.inr rfl)
    unfold State.patchResume
    split <;> rfl
  | scaled hpc _ => exact .built hpc rfl rfl
  | runTasks hpc _ _ hnext =>
    rcases hnext with rfl | rfl <;> exact .kept rfl (.inl (by rw [hpc]; rfl))
  | releasePods hpc | cleanupTasks hpc | dropFinalizer hpc =>
    exact .kept rfl (.inl (by rw [hpc]; rfl))
  | patchEndpoints hpc => exact .wrote (by rw [hpc]; rfl) rfl rfl
  | persist _ _ | persistLatest _ _ => exact .kept rfl (.inr (viewed_afterPersist _))
  | _ => exact .kept rfl (.inr rfl)

theorem move_shown {s t : State} {a : Action} (h : Move s a t) : Shown s a t := by
  cases h with
  | turn hturn => exact turn_shown hturn
  | fail =>
    refine .kept rfl ?_
    change viewed (onFailure s.pc) = viewed s.pc ∨ viewed (onFailure s.pc) = none
    cases s.pc <;> first | exact .inl rfl | exact .inr rfl
  | restart => exact .kept rfl (.inr rfl)
  | _ => exact .kept rfl (.inl rfl)

structure Sound (v : Served) : Prop where
  written : ∀ ips, v.state.api.endpoints = some ips → Addressed v.listed ips
  held : ∀ ips, viewed v.state.pc = some ips → Addressed v.listed ips

theorem Sound.step {v v' : Served} {a : Action} (h : Sound v) (hok : FirstAddressed v a)
    (hstep : v.step a = some v') : Sound v' := by
  obtain ⟨t,ht,rfl⟩ := map_eq_some_iff.mp hstep
  obtain ⟨u,hu,rfl⟩ := map_eq_some_iff.mp ht
  have hwritten (ips : List String) (hips : v.state.api.endpoints = some ips) :=
    (h.written ips hips).grow (v.list a)
  cases move_shown (act_move hu) with
  | kept hsame hview =>
    refine ⟨fun ips hips => hwritten ips (hsame ▸ hips),fun ips hips => ?_⟩
    rcases hview with hview | hview
    · exact (h.held ips (hview ▸ hips)).grow _
    · cases hview.symm.trans hips
  | @built input u b hpc hsame hnext =>
    refine ⟨fun ips hips => hwritten ips (hsame ▸ hips),fun ips hips => ?_⟩
    have hlist : v.list (.run input) = sortedPods b v.state.pods input.order := by
      rw [Served.list,hpc]
    have hips' : viewed u.pc = some ips := hips
    rw [hnext,viewed_afterScale,some_inj] at hips'
    rw [← hips',hlist]
    exact addressed_view v.listed b (hlist ▸ hok)
  | wrote hold hview hput =>
    have haddressed := (h.held _ hold).grow (v.list a)
    exact ⟨fun ips hips => some.inj (hput.symm.trans hips) ▸ haddressed,
      fun ips hips => some.inj (hview.symm.trans hips) ▸ haddressed⟩

theorem Served.Run.sound {v : Served} (h : Served.Run FirstAddressed v) : Sound v := by
  refine Runs.Reach.invariant (fun v hv => ⟨fun ips hips => ?_,fun ips hips => ?_⟩)
    (fun _ _ _ hv hok hstep => hv.step hok hstep) h
  · cases hv.2.symm.trans hips
  · rw [hv.1.pc] at hips
    cases hips

def Served.cached (v : Served) : CachedSandbox := ⟨"default","",v.state.api⟩

end OpenSandbox.Ingress
