import OpenSandbox.Kubernetes.Pool.Store

namespace OpenSandbox.Kubernetes.Pool

open List

theorem planned_cons (available : List String) (req : SandboxRequest) (rest : List SandboxRequest)
    (name : String) :
    planned (packedSchedule available (req :: rest)) name =
      if name = req.name then available.take req.podSupplement
      else planned (packedSchedule (available.drop req.podSupplement) rest) name := by
  by_cases h : name = req.name
  · subst h
    simp [planned,packedSchedule]
  · simp [planned,packedSchedule,lookup_cons,beq_false_of_ne h,h]

variable {available : List String}

variable {requests : List SandboxRequest}

theorem planned_available {name pod : String}
    (h : pod ∈ planned (packedSchedule available requests) name) : pod ∈ available := by
  induction requests generalizing available with
  | nil => simp [planned,packedSchedule] at h
  | cons req rest ih =>
    rw [planned_cons] at h
    split at h
    · exact mem_of_mem_take h
    · exact mem_of_mem_drop (ih h)

theorem planned_nodup (hnd : available.Nodup) (requests : List SandboxRequest) (name : String) :
    (planned (packedSchedule available requests) name).Nodup := by
  induction requests generalizing available with
  | nil => simp [planned,packedSchedule]
  | cons req rest ih =>
    rw [planned_cons]
    split
    · exact hnd.sublist (take_sublist _ _)
    · exact ih (hnd.sublist (drop_sublist _ _))

theorem planned_disjoint (hnd : available.Nodup) {name other pod : String} (hne : name ≠ other)
    (h : pod ∈ planned (packedSchedule available requests) name) :
    pod ∉ planned (packedSchedule available requests) other := by
  induction requests generalizing available with
  | nil => simp [planned,packedSchedule] at h
  | cons req rest ih =>
    have hsplit := disjoint_take_drop hnd (Nat.le_refl req.podSupplement)
    rw [planned_cons] at h ⊢
    by_cases hn : name = req.name
    · rw [if_pos hn] at h
      rw [if_neg (fun ho => hne (hn.trans ho.symm))]
      intro hother
      exact hsplit h (planned_available hother)
    · rw [if_neg hn] at h
      by_cases ho : other = req.name
      · rw [if_pos ho]
        intro hother
        exact hsplit hother (planned_available h)
      · rw [if_neg ho]
        exact ih (hnd.sublist (drop_sublist _ _)) h

theorem getSandboxRequest_name (sb : Sandbox) : (getSandboxRequest sb).name = sb.name := by
  unfold getSandboxRequest
  split <;> rfl

theorem getSandboxRequest_supplement (sb : Sandbox) : (getSandboxRequest sb).podSupplement =
      if sb.deleting then 0 else sb.replicas - sb.alloc.length := by
  unfold getSandboxRequest
  split <;> rfl

theorem planned_length {available : List String} {views : List Sandbox}
    (hnames : (views.map Sandbox.name).Nodup) {view : Sandbox} (hv : view ∈ views) :
    (planned (packedSchedule available (views.map getSandboxRequest)) view.name).length ≤
      (getSandboxRequest view).podSupplement := by
  induction views generalizing available with
  | nil => cases hv
  | cons v rest ih =>
    rw [map_cons,planned_cons,getSandboxRequest_name]
    rw [map_cons,nodup_cons] at hnames
    rcases mem_cons.mp hv with rfl | hv
    · rw [if_pos rfl]
      exact length_take_le _ _
    have hne : view.name ≠ v.name := by
      intro heq
      exact hnames.1 (heq ▸ mem_map_of_mem hv)
    rw [if_neg hne]
    exact ih hnames.2 hv

def Sandbox.wanting (view : Sandbox) : Prop :=
  view.deleting = false ∧ view.alloc.length < view.replicas

instance (view : Sandbox) : Decidable view.wanting := inferInstanceAs (Decidable (_ ∧ _))

variable {views : List Sandbox} {view : Sandbox}

theorem wanting_of_planned (hnames : (views.map Sandbox.name).Nodup) (hv : view ∈ views)
    (h : planned (packedSchedule available (views.map getSandboxRequest)) view.name ≠ []) :
    view.wanting := by
  have hlen := @planned_length available views hnames view hv
  have hpos := length_pos_iff.mpr h
  rw [getSandboxRequest_supplement] at hlen
  split_ifs at hlen with hd
  · omega
  · exact ⟨by simpa using hd,by omega⟩

variable {w : World}

variable {I : World → List Sandbox → Prop}

theorem World.doAllocate_induction {plan : Plan} {outcome : String → SyncOutcome}
    (skip : ∀ w view rest, planned plan view.name = [] → I w (view :: rest) → I w rest)
    (sync : ∀ w view rest, planned plan view.name ≠ [] → I w (view :: rest) →
      I (w.syncSandboxAllocation (outcome view.name) view (planned plan view.name)) rest)
    (h : I w views) : I (World.doAllocate plan outcome w views) [] := by
  induction views generalizing w with
  | nil => exact h
  | cons view rest ih =>
    unfold World.doAllocate
    split
    · rename_i hnone
      exact ih (skip w view rest hnone h)
    · rename_i hsome
      exact ih (sync w view rest hsome h)

theorem World.doRelease_induction {input : Input}
    (skip : ∀ w view rest, input.recycledFor view = [] → I w (view :: rest) → I w rest)
    (sync : ∀ w view rest, input.recycledFor view ≠ [] → I w (view :: rest) →
      I (w.syncSandboxReleased (input.releaseOutcome view.name) view (input.recycledFor view)) rest)
    (h : I w views) : I (World.doRelease input w views) [] := by
  induction views generalizing w with
  | nil => exact h
  | cons view rest ih =>
    unfold World.doRelease
    split
    · rename_i hnone
      exact ih (skip w view rest hnone h)
    · rename_i hsome
      exact ih (sync w view rest hsome h)

section Sync

variable (w : World) (outcome : SyncOutcome) (view : Sandbox) (pods : List String) {name : String}

theorem syncSandboxAllocation_sandboxes :
    (w.syncSandboxAllocation outcome view pods).sandboxes = w.sandboxes ∨
      (w.syncSandboxAllocation outcome view pods).sandboxes =
        patch w.sandboxes view.name (setAllocation view (view.alloc ++ pods)) := by
  unfold World.syncSandboxAllocation
  cases w.outcomeOf view.name outcome with
  | ok | lost => exact .inr rfl
  | failed => exact .inl rfl

theorem syncSandboxAllocation_other (hne : name ≠ view.name) :
    (w.syncSandboxAllocation outcome view pods).sandboxes.lookup name =
      w.sandboxes.lookup name := by
  rcases syncSandboxAllocation_sandboxes w outcome view pods with h | h
  · rw [h]
  · rw [h,lookup_patch,if_neg hne]

theorem syncSandboxReleased_sandboxes :
    (w.syncSandboxReleased outcome view pods).sandboxes = w.sandboxes ∨
      (w.syncSandboxReleased outcome view pods).sandboxes =
        patch w.sandboxes view.name (setReleased view (view.released ++ pods)) := by
  unfold World.syncSandboxReleased
  cases w.outcomeOf view.name outcome with
  | ok | lost => exact .inr rfl
  | failed => exact .inl rfl

theorem syncSandboxReleased_other (hne : name ≠ view.name) :
    (w.syncSandboxReleased outcome view pods).sandboxes.lookup name = w.sandboxes.lookup name := by
  rcases syncSandboxReleased_sandboxes w outcome view pods with h | h
  · rw [h]
  · rw [h,lookup_patch,if_neg hne]

end Sync

def Sandbox.allocatedTo (view : Sandbox) (pods : List String) : Sandbox :=
  { setAllocation view (view.alloc ++ pods) view with version := view.version + 1 }

def Sandbox.releasedTo (view : Sandbox) (pods : List String) (sb : Sandbox) : Sandbox :=
  { setReleased view (view.released ++ pods) sb with version := sb.version + 1 }

inductive AllocationSync (w : World) (view : Sandbox) (pods : List String) :
    SyncOutcome → World → Prop
  | ok {w' : World} :
      w'.store = updateAllocation w.store view.name (view.alloc ++ pods) →
      (∀ name, w'.sandboxes.lookup name =
        if name = view.name then some (view.allocatedTo pods) else w.sandboxes.lookup name) →
      w'.log = w.log ++ pods.map (Event.allocated · view.uid) → AllocationSync w view pods .ok w'
  | failed {w' : World} :
      w'.store = updateAllocation (updateAllocation w.store view.name (view.alloc ++ pods))
        view.name view.alloc →
      w'.sandboxes = w.sandboxes → w'.log = w.log → AllocationSync w view pods .failed w'
  | lost {w' : World} : AllocationSync w view pods .lost w'

theorem syncSandboxAllocation_sync (hview : w.sandboxes.lookup view.name = some view)
    (outcome : SyncOutcome) (pods : List String) :
    AllocationSync w view pods outcome (w.syncSandboxAllocation outcome view pods) := by
  have hout : w.outcomeOf view.name outcome = outcome := by simp [World.outcomeOf,hview]
  cases outcome with
  | ok =>
    simp only [World.syncSandboxAllocation,hout]
    refine .ok rfl (fun name => ?_) rfl
    rw [lookup_patch,hview]
    rfl
  | failed =>
    simp only [World.syncSandboxAllocation,hout]
    exact .failed rfl rfl rfl
  | lost => exact .lost

inductive ReleaseSync (w : World) (view cur : Sandbox) (pods : List String) :
    SyncOutcome → World → Prop
  | ok {w' : World} :
      w'.store = releaseAllocation w.store (view.released ++ pods) →
      (∀ name, w'.sandboxes.lookup name =
        if name = view.name then some (view.releasedTo pods cur) else w.sandboxes.lookup name) →
      w'.log = w.log → ReleaseSync w view cur pods .ok w'
  | failed : ReleaseSync w view cur pods .failed w
  | lost {w' : World} :
      w'.store = w.store →
      (∀ name, w'.sandboxes.lookup name =
        if name = view.name then some (view.releasedTo pods cur) else w.sandboxes.lookup name) →
      w'.log = w.log → ReleaseSync w view cur pods .lost w'

theorem syncSandboxReleased_sync {cur : Sandbox} (hcur : w.sandboxes.lookup view.name = some cur)
    (outcome : SyncOutcome) (pods : List String) :
    ReleaseSync w view cur pods outcome (w.syncSandboxReleased outcome view pods) := by
  have hout : w.outcomeOf view.name outcome = outcome := by simp [World.outcomeOf,hcur]
  have hpatch : ∀ name,
      (patch w.sandboxes view.name (setReleased view (view.released ++ pods))).lookup name =
        if name = view.name then some (view.releasedTo pods cur)
        else w.sandboxes.lookup name := by
    intro name
    rw [lookup_patch,hcur]
    rfl
  cases outcome with
  | ok =>
    simp only [World.syncSandboxReleased,hout]
    exact .ok rfl hpatch rfl
  | failed =>
    simp only [World.syncSandboxReleased,hout]
    exact .failed
  | lost =>
    simp only [World.syncSandboxReleased,hout]
    exact .lost rfl hpatch rfl

end OpenSandbox.Kubernetes.Pool
