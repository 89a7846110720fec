import OpenSandbox.Kubernetes.Pool.Model

namespace OpenSandbox.Kubernetes.Pool

open List

variable (store : Store) (name : String)

theorem lookup_releaseAllocation (pods : List String) (pod : String) :
    (releaseAllocation store pods).lookup pod = if pod ∈ pods then none else store.lookup pod := by
  induction pods generalizing store with
  | nil => rfl
  | cons q pods ih =>
    have h := ih (store.erase q)
    rw [GoMap.lookup_erased] at h
    simp only [releaseAllocation,foldl_cons] at h ⊢
    rw [h]
    by_cases hq : pod = q <;> by_cases hp : pod ∈ pods <;> simp [hq,hp]

theorem lookup_assign (store : Store) (pods : List String) (pod : String) :
    (assign name store pods).lookup pod = if pod ∈ pods then some name else store.lookup pod := by
  induction pods generalizing store with
  | nil => rfl
  | cons q pods ih =>
    have h := ih (store.insert q name)
    rw [GoMap.lookup_inserted] at h
    simp only [assign,foldl_cons] at h ⊢
    rw [h]
    by_cases hq : pod = q <;> by_cases hp : pod ∈ pods <;> simp [hq,hp]

theorem lookup_dropReleased (store : Store) (pods : List String) (pod : String) :
    (dropReleased name store pods).lookup pod =
      if pod ∈ pods ∧ store.lookup pod = some name then none else store.lookup pod := by
  induction pods generalizing store with
  | nil => simp [dropReleased]
  | cons q pods ih =>
    simp only [dropReleased,foldl_cons] at ih ⊢
    rw [ih]
    by_cases hq : pod = q
    · subst hq
      by_cases hs : store.lookup pod = some name <;> simp [hs]
    · by_cases hs : store.lookup q = some name <;> simp [hs,hq]

theorem lookup_eraseMatching (keys : List String) (m : Store) (pod : String) :
    (keys.foldl (fun m pod => if store.lookup pod = some name then m.erase pod else m) m).lookup
        pod =
      if pod ∈ keys ∧ store.lookup pod = some name then none else m.lookup pod := by
  induction keys generalizing m with
  | nil => simp
  | cons q keys ih =>
    rw [foldl_cons,ih]
    by_cases hq : pod = q
    · subst hq
      by_cases hs : store.lookup pod = some name <;> simp [hs]
    · by_cases hs : store.lookup q = some name <;> simp [hs,hq]

theorem lookup_releaseSandboxAllocation (name pod : String) :
    (releaseSandboxAllocation store name).lookup pod =
      if store.lookup pod = some name then none else store.lookup pod := by
  rw [releaseSandboxAllocation,lookup_eraseMatching]
  by_cases h : store.lookup pod = some name
  · have hk : pod ∈ store.keys := GoMap.mem_keys_of_lookup h
    simp [h,hk]
  · simp [h]

theorem lookup_updateAllocation (pods : List String) (pod : String) :
    (updateAllocation store name pods).lookup pod = if pod ∈ pods then some name
      else if store.lookup pod = some name then none
      else store.lookup pod := by
  rw [updateAllocation,lookup_assign,lookup_releaseSandboxAllocation]

theorem lookup_rollback (old pods : List String) (pod : String) :
    (updateAllocation (updateAllocation store name (old ++ pods)) name old).lookup pod =
      if pod ∈ old then some name
      else if pod ∈ pods ∨ store.lookup pod = some name then none
      else store.lookup pod := by
  rw [lookup_updateAllocation,lookup_updateAllocation]
  by_cases ho : pod ∈ old
  · simp [ho]
  · by_cases hp : pod ∈ pods
    · simp [ho,hp]
    · by_cases hs : store.lookup pod = some name <;> simp [ho,hp,hs]

theorem lookup_recoverSandbox (sb : Sandbox) (pod : String) : (recoverSandbox store sb).lookup pod =
      if pod ∈ sb.alloc then (if pod ∈ sb.released then none else some sb.name)
      else if pod ∈ sb.released ∧ store.lookup pod = some sb.name then none
      else store.lookup pod := by
  rw [recoverSandbox,lookup_dropReleased,lookup_assign]
  by_cases ha : pod ∈ sb.alloc <;> by_cases hr : pod ∈ sb.released <;> simp [ha,hr]

theorem recover_known (sandboxes : List Sandbox) {pod name : String}
    (h : (recover sandboxes).lookup pod = some name) :
    ∃ sb ∈ sandboxes, sb.name = name ∧ sb.active pod := by
  have key : ∀ (rest : List Sandbox) (m : Store),
      (rest.foldl recoverSandbox m).lookup pod = some name →
      m.lookup pod = some name ∨ ∃ sb ∈ rest, sb.name = name ∧ sb.active pod := by
    intro rest
    induction rest with
    | nil =>
      intro m hm
      exact .inl hm
    | cons sb rest ih =>
      intro m hm
      rcases ih _ hm with hm | ⟨sb',hsb',hn,ha⟩
      · rw [lookup_recoverSandbox] at hm
        split at hm
        · split at hm
          · cases hm
          · rename_i halloc hreleased
            refine .inr ⟨sb,mem_cons_self,?_,halloc,hreleased⟩
            exact Option.some.inj hm
        · split_ifs at hm
          exact .inl hm
      · exact .inr ⟨sb',mem_cons_of_mem sb hsb',hn,ha⟩
  rcases key sandboxes ∅ h with hm | hm
  · rw [AList.lookup_empty] at hm
    cases hm
  · exact hm

theorem recover_active {sandboxes : List Sandbox} {sb : Sandbox} {pod : String}
    (hmem : sb ∈ sandboxes) (ha : sb.active pod)
    (hunshared : ∀ other ∈ sandboxes, other.name ≠ sb.name → pod ∉ other.alloc)
    (hnames : (sandboxes.map Sandbox.name).Nodup) :
    (recover sandboxes).lookup pod = some sb.name := by
  have keep : ∀ (rest : List Sandbox) (m : Store), m.lookup pod = some sb.name →
      (∀ other ∈ rest, other.name ≠ sb.name → pod ∉ other.alloc) →
      (∀ other ∈ rest, other.name ≠ sb.name) →
      (rest.foldl recoverSandbox m).lookup pod = some sb.name := by
    intro rest
    induction rest with
    | nil =>
      intro m hm _ _
      exact hm
    | cons other rest ih =>
      intro m hm hu hne
      refine ih _ ?_ (fun o ho => hu o (mem_cons_of_mem other ho))
        (fun o ho => hne o (mem_cons_of_mem other ho))
      have hother := hne other mem_cons_self
      rw [lookup_recoverSandbox,if_neg (hu other mem_cons_self hother),hm,if_neg]
      rintro ⟨_,heq⟩
      exact hother (Option.some.inj heq).symm
  obtain ⟨before,after,rfl⟩ := append_of_mem hmem
  rw [map_append,map_cons,nodup_append] at hnames
  have hafter : ∀ other ∈ after, other.name ≠ sb.name := by
    intro other ho heq
    have hnot := (nodup_cons.mp hnames.2.1).1
    exact hnot (heq ▸ mem_map_of_mem ho)
  rw [recover,foldl_append,foldl_cons]
  refine keep after _ ?_ (fun o ho => hunshared o (by simp [ho])) hafter
  rw [lookup_recoverSandbox,if_pos ha.1,if_neg ha.2]

theorem lookup_patch (sandboxes : GoMap Sandbox) (name name' : String)
    (change : Sandbox → Sandbox) :
    (patch sandboxes name change).lookup name' = if name' = name then
        (sandboxes.lookup name).map fun sb => { change sb with version := sb.version + 1 }
      else sandboxes.lookup name' := by
  unfold patch
  cases h : sandboxes.lookup name with
  | none =>
    by_cases hn : name' = name
    · subst hn
      simp [h]
    · simp [hn]
  | some sb => rw [GoMap.lookup_inserted]; simp

theorem mem_orphans {store : Store} {names : List String} {name pod : String}
    (h : (name, pod) ∈ orphans store names) : store.lookup pod = some name ∧ name ∉ names := by
  obtain ⟨entry,hentry,heq⟩ := mem_filterMap.mp h
  split_ifs at heq with hnames
  obtain ⟨k,v⟩ := entry
  cases heq
  exact ⟨AList.mem_lookup_iff.mpr hentry,hnames⟩

end OpenSandbox.Kubernetes.Pool
