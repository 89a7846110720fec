import OpenSandbox.Kubernetes.Pool.Ownership

namespace OpenSandbox.Kubernetes.Pool

open List Option

def Event.use (pod : String) (used : Option Nat) : Event → Option Nat
  | .allocated p uid => if p = pod then some uid else used
  | .recycled p => if p = pod then none else used

def lastUse (log : List Event) (pod : String) : Option Nat := log.foldl (Event.use pod) none

theorem lastUse_snoc (log : List Event) (e : Event) (pod : String) :
    lastUse (log ++ [e]) pod = e.use pod (lastUse log pod) := by
  rw [lastUse,foldl_append]
  rfl

variable {log : List Event} {pods : List String}

theorem lastUse_allocated {uid : Nat} {pod : String}
    (h : lastUse (log ++ pods.map (Event.allocated · uid)) pod ≠ none) :
    pod ∈ pods ∨ lastUse log pod ≠ none := by
  induction pods generalizing log with
  | nil =>
    rw [map_nil,append_nil] at h
    exact .inr h
  | cons p pods ih =>
    rw [map_cons,append_cons] at h
    rcases ih h with hmem | hused
    · exact .inl (mem_cons_of_mem p hmem)
    rw [lastUse_snoc,Event.use] at hused
    split_ifs at hused with heq
    · exact .inl (heq ▸ mem_cons_self)
    · exact .inr hused

theorem lastUse_recycled (log : List Event) (pods : List String) (pod : String) :
    lastUse (log ++ pods.map Event.recycled) pod =
      if pod ∈ pods then none else lastUse log pod := by
  induction pods generalizing log with
  | nil => simp
  | cons p pods ih =>
    rw [map_cons,append_cons,ih,lastUse_snoc,Event.use]
    by_cases hmem : pod ∈ pods
    · simp [hmem]
    by_cases heq : p = pod
    · subst heq
      simp
    · simp [hmem,heq,Ne.symm heq]

theorem lastUse_unrecycled (log between : List Event) (pod : String) (uid : Nat)
    (h : Event.recycled pod ∉ between) :
    lastUse (log ++ Event.allocated pod uid :: between) pod ≠ none := by
  induction between using reverseRecOn with
  | nil =>
    rw [lastUse_snoc,Event.use,if_pos rfl]
    exact some_ne_none uid
  | append_singleton between e ih =>
    have hrest : Event.recycled pod ∉ between := fun hmem => h (mem_append_left _ hmem)
    rw [← cons_append,← append_assoc,lastUse_snoc]
    cases e with
    | allocated p u =>
      rw [Event.use]
      split
      · exact some_ne_none u
      · exact ih hrest
    | recycled p =>
      rw [Event.use,if_neg]
      · exact ih hrest
      · rintro rfl
        exact h (mem_append_right _ mem_cons_self)

def Clean (log : List Event) : Prop :=
  ∀ before pod uid after, log = before ++ Event.allocated pod uid :: after →
    lastUse before pod = none

theorem Clean.snoc (h : Clean log) {e : Event}
    (he : ∀ pod uid, e = .allocated pod uid → lastUse log pod = none) : Clean (log ++ [e]) := by
  intro before pod uid after heq
  rcases eq_nil_or_concat' after with rfl | ⟨rest,last,rfl⟩
  · obtain ⟨rfl,hlast⟩ := append_inj' heq rfl
    exact he pod uid (head_eq_of_cons_eq hlast)
  · rw [← cons_append,← append_assoc] at heq
    obtain ⟨hlog,_⟩ := append_inj' heq rfl
    exact h before pod uid rest hlog

theorem Clean.allocated (h : Clean log) (uid : Nat) (hnodup : pods.Nodup)
    (hfree : ∀ pod ∈ pods, lastUse log pod = none) :
    Clean (log ++ pods.map (Event.allocated · uid)) := by
  induction pods generalizing log with
  | nil =>
    rwa [map_nil,append_nil]
  | cons p pods ih =>
    obtain ⟨hnot,hrest⟩ := nodup_cons.mp hnodup
    rw [map_cons,append_cons]
    refine ih (h.snoc ?_) hrest ?_
    · intro pod u heq
      cases heq
      exact hfree p mem_cons_self
    intro pod hpod
    rw [lastUse_snoc,Event.use,if_neg]
    · exact hfree pod (mem_cons_of_mem p hpod)
    · rintro rfl
      exact hnot hpod

theorem Clean.recycled (h : Clean log) (pods : List String) :
    Clean (log ++ pods.map Event.recycled) := by
  induction pods generalizing log with
  | nil =>
    rwa [map_nil,append_nil]
  | cons p pods ih =>
    rw [map_cons,append_cons]
    exact ih (h.snoc nofun)

def Known (store : Store) (sandboxes : GoMap Sandbox) : Prop :=
  ∀ pod name sb, store.lookup pod = some name → sandboxes.lookup name = some sb →
    sb.attached = true → pod ∈ sb.alloc

def Tracked (log : List Event) (store : Store) : Prop :=
  ∀ pod, lastUse log pod ≠ none → store.lookup pod ≠ none

structure Traced (w : World) : Prop where
  clean : Clean w.log
  tracked : Tracked w.log w.store
  known : Known w.store w.sandboxes

theorem Exact.known {store : Store} {sandboxes : GoMap Sandbox} (h : Exact store sandboxes) :
    Known store sandboxes := by
  intro pod name sb hpod hsb _
  obtain ⟨sb',hsb',_,ha⟩ := h pod name hpod
  rw [hsb] at hsb'
  cases hsb'
  exact ha.1

variable {views rest : List Sandbox} {plan : Plan} {store : Store} {w w' : World} {view : Sandbox}

theorem Traced.allocate (h : Allocating views plan store w (view :: rest))
    (hnodup : (planned plan view.name).Nodup) {outcome : SyncOutcome} (hkeep : outcome ≠ .lost)
    (hsync : AllocationSync w view (planned plan view.name) outcome w') (ht : Traced w) :
    Traced w' := by
  obtain ⟨hlook,hatt⟩ := h.current view mem_cons_self
  have hunused : ∀ pod ∈ planned plan view.name, lastUse w.log pod = none := by
    intro pod hpod
    by_contra hused
    exact ht.tracked pod hused (h.free view mem_cons_self pod hpod)
  have hmine : ∀ {pod : String}, w.store.lookup pod = some view.name → pod ∈ view.alloc :=
    fun hpod => ht.known _ view.name view hpod hlook hatt
  cases hsync with
  | ok hstore hsandboxes hlog =>
    refine ⟨?_,?_,?_⟩
    · rw [hlog]
      exact ht.clean.allocated view.uid hnodup hunused
    · intro pod hused
      rw [hlog] at hused
      rw [hstore,lookup_updateAllocation]
      split
      · exact some_ne_none _
      rename_i hnot
      rw [mem_append,not_or] at hnot
      rw [if_neg fun hpod => hnot.1 (hmine hpod)]
      exact ht.tracked pod ((lastUse_allocated hused).resolve_left hnot.2)
    intro pod name sb hpod hsb hsbatt
    rw [hstore,lookup_updateAllocation] at hpod
    rw [hsandboxes] at hsb
    split_ifs at hsb with hname
    · cases hsb
      split at hpod
      · assumption
      rename_i hnot
      split_ifs at hpod with hother
      rw [hname] at hpod
      exact absurd hpod hother
    · split at hpod
      · cases hpod
        exact absurd rfl hname
      · split_ifs at hpod
        exact ht.known pod name sb hpod hsb hsbatt
  | failed hstore hsandboxes hlog =>
    refine ⟨hlog ▸ ht.clean,?_,?_⟩
    · intro pod hused
      rw [hlog] at hused
      rw [hstore,lookup_rollback]
      split
      · exact some_ne_none _
      rename_i hnot
      rw [if_neg]
      · exact ht.tracked pod hused
      · rintro (hpod | hpod)
        · exact hused (hunused pod hpod)
        · exact hnot (hmine hpod)
    intro pod name sb hpod hsb hsbatt
    rw [hstore,lookup_rollback] at hpod
    rw [hsandboxes] at hsb
    split at hpod
    · rename_i halloc
      cases hpod
      rw [hlook] at hsb
      cases hsb
      exact halloc
    · split_ifs at hpod
      exact ht.known pod name sb hpod hsb hsbatt
  | lost => exact absurd rfl hkeep

theorem Known.release {cur : Sandbox} (hcur : w.sandboxes.lookup view.name = some cur)
    (hstore : ∀ pod name, w'.store.lookup pod = some name → w.store.lookup pod = some name)
    (hsandboxes : ∀ name, w'.sandboxes.lookup name =
      if name = view.name then some (view.releasedTo pods cur) else w.sandboxes.lookup name)
    (h : Known w.store w.sandboxes) : Known w'.store w'.sandboxes := by
  intro pod name sb hpod hsb hatt
  rw [hsandboxes] at hsb
  split_ifs at hsb with hname
  · cases hsb
    exact h pod name cur (hstore pod name hpod) (hname ▸ hcur) hatt
  · exact h pod name sb (hstore pod name hpod) hsb hatt

variable {input : Input}

theorem Traced.release (h : Releasing views store w (view :: rest))
    (hp : input.recycledFor view ≠ []) {cur : Sandbox}
    (hcur : w.sandboxes.lookup view.name = some cur) {outcome : SyncOutcome}
    (hsync : ReleaseSync w view cur (input.recycledFor view) outcome w')
    (hdone : ∀ pod ∈ input.recycledFor view, lastUse w.log pod = none) (ht : Traced w) :
    Traced w' ∧ w'.log = w.log := by
  cases hsync with
  | ok hstore hsandboxes hlog =>
    refine ⟨⟨hlog ▸ ht.clean,?_,?_⟩,hlog⟩
    · intro pod hused
      rw [hlog] at hused
      have hbefore := ht.tracked pod hused
      rw [hstore,lookup_releaseAllocation,if_neg]
      · exact hbefore
      intro hmem
      obtain ⟨name,hname⟩ := ne_none_iff_exists'.mp hbefore
      rcases mem_append.mp hmem with hr | hr
      · have hrel : (getSandboxRequest view).toRelease ≠ [] := by
          intro hnil
          exact hp (by simp [Input.recycledFor,Input.succeeded,hnil])
        exact hbefore (h.clear view (h.known view mem_cons_self) hrel pod hr)
      · exact hused (hdone pod hr)
    · refine ht.known.release hcur ?_ hsandboxes
      intro pod name hpod
      rw [hstore,lookup_releaseAllocation] at hpod
      split_ifs at hpod
      exact hpod
  | failed => exact ⟨ht,rfl⟩
  | lost hstore hsandboxes hlog =>
    refine ⟨⟨hlog ▸ ht.clean,?_,?_⟩,hlog⟩
    · rw [hlog,hstore]
      exact ht.tracked
    refine ht.known.release hcur ?_ hsandboxes
    intro pod name hpod
    rwa [hstore] at hpod

variable {s : State}

theorem Traced.reconcilePool (htidy : Tidy s input) (hfresh : input.Fresh s.sandboxes)
    (hcover : Cover (s.allocation input.recovery) s.sandboxes) (hshaped : Shaped s.sandboxes)
    (ht : Traced (s.unallocated input)) :
    Traced ⟨(s.reconcilePool input).store,(s.reconcilePool input).sandboxes,
      (s.reconcilePool input).log⟩ := by
  obtain ⟨hsched,htraced⟩ := scheduled_run (P := Traced) htidy hfresh hcover hshaped ht (by
    intro w view rest w' h hp hsync hw
    have hkeep := htidy.answered view (h.known view mem_cons_self)
    exact hw.allocate h (planned_nodup (available_nodup hfresh.pods) _ _) hkeep hsync)
  unfold State.reconcilePool
  split
  · exact htraced
  have hrecycled : ∀ pod ∈ s.recycledPods input,
      lastUse (s.recycledWorld input).log pod = none := by
    intro pod hpod
    rw [State.recycledWorld,lastUse_recycled,if_pos hpod]
  have hstart : Traced (s.recycledWorld input) := by
    refine ⟨htraced.clean.recycled _,?_,htraced.known⟩
    intro pod hused
    rw [State.recycledWorld,lastUse_recycled] at hused
    split at hused
    · exact absurd rfl hused
    · exact htraced.tracked pod hused
  obtain ⟨hrel,hend,hlog⟩ := released_run
    (P := fun w => Traced w ∧ w.log = (s.recycledWorld input).log) hfresh hsched ⟨hstart,rfl⟩ (by
      rintro w view rest cur w' h hp hcur - hsync ⟨hw,hlog⟩
      have hdone : ∀ pod ∈ input.recycledFor view, lastUse w.log pod = none := by
        intro pod hpod
        rw [hlog]
        refine hrecycled pod (mem_append_left _ (mem_flatMap.mpr ⟨view,?_,hpod⟩))
        exact h.known view mem_cons_self
      obtain ⟨hw',hlog'⟩ := hw.release h hp hcur hsync hdone
      exact ⟨hw',hlog'.trans hlog⟩)
  refine ⟨hend.clean,?_,?_⟩
  · intro pod hused
    change (releaseAllocation _ _).lookup pod ≠ none
    rw [lookup_releaseAllocation,if_neg]
    · exact hend.tracked pod hused
    intro hpod
    refine hused ?_
    change lastUse (s.releasedWorld input).log pod = none
    rw [hlog]
    exact hrecycled pod (mem_append_right _ hpod)
  · intro pod name sb hpod hsb hatt
    change (releaseAllocation _ _).lookup pod = some name at hpod
    rw [lookup_releaseAllocation] at hpod
    split_ifs at hpod
    exact hend.known pod name sb hpod hsb hatt

def Unused (s : State) (name : String) : Prop :=
  s.recovered = true ∨ ∀ sb, s.sandboxes.lookup name = some sb → sb.attached = true →
    ∀ pod ∈ sb.alloc, ¬ sb.active pod

def Careful (s : State) : Action → Prop
  | .create name _ => ∀ pod ∈ s.store.keys, s.store.lookup pod ≠ some name
  | .vanish name | .detach name => Unused s name
  | .restart => ∀ pod ∈ s.store.keys, ∃ name ∈ s.sandboxes.keys, ActiveFor s.sandboxes name pod
  | .schedule recovery => s.recovered = true ∨ Unshared recovery
  | .reconcile input => Tidy s input ∧ (s.recovered = true ∨ Unshared input.recovery)
  | _ => True

structure Recorded (s : State) : Prop extends Covered s where
  clean : Clean s.log
  tracked : s.recovered = true → Tracked s.log s.store
  known : s.recovered = true → Known s.store s.sandboxes
  backed : s.recovered = false → ∀ pod, lastUse s.log pod ≠ none →
    ∃ name, ActiveFor s.sandboxes name pod

theorem Recorded.initial : Recorded State.initial where
  toCovered := Covered.initial
  clean := by
    intro before pod uid after heq
    cases before <;> cases heq
  tracked := nofun
  known := nofun
  backed := fun _ _ h => absurd rfl h

theorem Recorded.traced (h : Recorded s) {recovery : List Sandbox}
    (hlist : Listing s.sandboxes recovery) (hun : s.recovered = true ∨ Unshared recovery) :
    Tracked s.log (s.allocation recovery) ∧ Known (s.allocation recovery) s.sandboxes := by
  have hcover := h.allocation hlist hun
  unfold State.allocation at hcover ⊢
  split_ifs at hcover with hrec
  · rw [if_pos hrec]
    exact ⟨h.tracked hrec,h.known hrec⟩
  rw [if_neg hrec]
  refine ⟨?_,(recover_exact hlist).known⟩
  intro pod hused
  obtain ⟨name,sb,hsb,hatt,ha⟩ := h.backed (Bool.eq_false_of_not_eq_true hrec) pod hused
  rw [hcover name sb pod hsb hatt ha]
  exact some_ne_none name

variable {t : State} {a : Action} {name : String}

theorem edit_backed (ha : a.edits = true) (hok : Careful s a) (hrec : s.recovered = false)
    (hshaped : Shaped s.sandboxes) (hstep : step s a = some t) {pod : String}
    (h : ActiveFor s.sandboxes name pod) : ActiveFor t.sandboxes name pod := by
  have hnone : ∀ {target : String}, Unused s target → name ≠ target := by
    rintro target (hyes | hno) rfl
    · rw [hrec] at hyes
      cases hyes
    · obtain ⟨sb,hsb,hatt,hactive⟩ := h
      exact hno sb hsb hatt pod hactive.1 hactive
  cases a with
  | vanish target =>
    cases hstep
    obtain ⟨sb,hsb,hatt,hactive⟩ := h
    refine ⟨sb,?_,hatt,hactive⟩
    rwa [State.remove,GoMap.lookup_erased,if_neg (hnone hok)]
  | detach target =>
    cases hstep
    obtain ⟨sb,hsb,hatt,hactive⟩ := h
    refine ⟨sb,?_,hatt,hactive⟩
    rwa [State.edit,lookup_patch,if_neg (hnone hok)]
  | restart | schedule recovery | reconcile input => cases ha
  | _ => exact keeps_active ha trivial hshaped hstep h

theorem edit_absent (h : s.sandboxes.lookup name = none) (target : String)
    (change : Sandbox → Sandbox) : (s.edit target change).sandboxes.lookup name = none := by
  rw [State.edit,lookup_patch]
  split_ifs with hname
  · rw [← hname,h]
    rfl
  · exact h

theorem remove_absent (h : s.sandboxes.lookup name = none) (target : String) :
    (s.remove target).sandboxes.lookup name = none := by
  rw [State.remove,GoMap.lookup_erased]
  split
  · rfl
  · exact h

theorem appears_created (ha : a.edits = true) (hstep : step s a = some t) {sb : Sandbox}
    (hbefore : s.sandboxes.lookup name = none) (hafter : t.sandboxes.lookup name = some sb) :
    ∃ replicas, a = .create name replicas := by
  have hedit : ∀ {target : String} {change : Sandbox → Sandbox},
      ¬ (s.edit target change).sandboxes.lookup name = some sb := by
    intro target change h
    rw [edit_absent hbefore] at h
    cases h
  have hremove : ∀ {target : String}, ¬ (s.remove target).sandboxes.lookup name = some sb := by
    intro target h
    rw [remove_absent hbefore] at h
    cases h
  revert hstep
  fun_cases Pool.step s a <;> intro hstep <;> cases hstep
  · rename_i target replicas hnew
    rw [GoMap.lookup_inserted] at hafter
    split_ifs at hafter with hname
    · exact ⟨replicas,by rw [hname]⟩
    · rw [hbefore] at hafter
      cases hafter
  · exact absurd hafter hedit
  · exact absurd hafter hedit
  · exact absurd hafter hedit
  · exact absurd hafter hremove
  · exact absurd hafter hremove
  · exact absurd hafter hedit
  all_goals cases ha

theorem edit_known (ha : a.edits = true) (hok : Careful s a) (hstep : step s a = some t)
    (h : Known s.store s.sandboxes) : Known t.store t.sandboxes := by
  have hcalm := step_calm ha hstep
  intro pod name sb' hpod hsb' hatt
  rw [hcalm.store] at hpod
  rcases hcalm.kept name sb' hsb' with ⟨hnew,_⟩ | ⟨sb,hsb,htame⟩
  · obtain ⟨replicas,rfl⟩ := appears_created ha hstep hnew hsb'
    exact absurd hpod (hok pod (GoMap.mem_keys_of_lookup hpod))
  · rw [htame.alloc]
    exact h pod name sb hpod hsb (htame.attached hatt)

theorem Recorded.reconcile (h : Recorded s) (htidy : Tidy s input)
    (hun : s.recovered = true ∨ Unshared input.recovery) (hfresh : input.Fresh s.sandboxes) :
    Recorded (s.reconcilePool input) := by
  obtain ⟨htracked,hknown⟩ := h.traced hfresh.recovery hun
  have htraced : Traced (s.unallocated input) := ⟨h.clean,htracked,hknown⟩
  have hend := htraced.reconcilePool htidy hfresh (h.allocation hfresh.recovery hun) h.shaped
  refine ⟨h.toCovered.reconcile htidy hun hfresh,hend.clean,fun _ => hend.tracked,
    fun _ => hend.known,fun hno => ?_⟩
  rw [reconcilePool_recovered] at hno
  cases hno

theorem Recorded.step (h : Recorded s) (hok : Careful s a) (hstep : step s a = some t) :
    Recorded t := by
  by_cases ha : a.edits = true
  · have hcalm := step_calm ha hstep
    refine ⟨⟨hcalm.shaped h.shaped,fun hrec => hcalm.cover (h.cover (hcalm.recovered ▸ hrec))⟩,
      ?_,fun hrec => ?_,fun hrec => ?_,fun hrec pod hused => ?_⟩
    · rw [hcalm.log]
      exact h.clean
    · rw [hcalm.log,hcalm.store]
      exact h.tracked (hcalm.recovered ▸ hrec)
    · exact edit_known ha hok hstep (h.known (hcalm.recovered ▸ hrec))
    rw [hcalm.log] at hused
    rw [hcalm.recovered] at hrec
    obtain ⟨name,hactive⟩ := h.backed hrec pod hused
    exact ⟨name,edit_backed ha hok hrec h.shaped hstep hactive⟩
  cases a with
  | restart =>
    cases hstep
    refine ⟨⟨h.shaped,nofun⟩,h.clean,nofun,nofun,fun _ pod hused => ?_⟩
    cases hrec : s.recovered with
    | true =>
      obtain ⟨name,hname⟩ := ne_none_iff_exists'.mp (h.tracked hrec pod hused)
      obtain ⟨owner,-,howner⟩ := hok pod (GoMap.mem_keys_of_lookup hname)
      exact ⟨owner,howner⟩
    | false => exact h.backed hrec pod hused
  | schedule recovery =>
    simp only [Pool.step] at hstep
    split_ifs at hstep with hlist
    cases hstep
    obtain ⟨htracked,hknown⟩ := h.traced hlist hok
    exact ⟨⟨h.shaped,fun _ => h.allocation hlist hok⟩,h.clean,fun _ => htracked,
      fun _ => hknown,by simp⟩
  | reconcile input =>
    simp only [Pool.step] at hstep
    split_ifs at hstep with hfresh
    cases hstep
    exact h.reconcile hok.1 hok.2 hfresh
  | _ => exact absurd rfl ha

theorem Reachable.recorded (h : Reachable Careful s) : Recorded s := by
  refine @Runs.Reach.invariant _ _ _ _ _ Recorded ?_ ?_ s h
  · rintro s rfl
    exact Recorded.initial
  · intro s a t hs hok hstep
    exact hs.step hok hstep

theorem pod_recycled_between {l : Lagged} (h : FreshRun Careful l) (pod : String)
    (uid uid' : Nat) (before between after : List Event)
    (hlog : l.state.log = before ++ Event.allocated pod uid :: between ++
      Event.allocated pod uid' :: after) :
    Event.recycled pod ∈ between := by
  by_contra hnot
  have hclean := h.reachable.recorded.clean _ pod uid' after hlog
  exact lastUse_unrecycled before between pod uid hnot hclean

instance (s : State) (a : Action) : Decidable (Careful s a) := by
  unfold Careful Unused
  induction a using Action.casesOn <;> infer_instance

theorem pod_recycled_between_owners : ∃ l, FreshRun Careful l ∧
      l.state.log = [.allocated "p" 0] ++ .recycled "p" :: [.allocated "p" 1] ∧
      Event.recycled "p" ∈ [Event.recycled "p"] := by
  obtain ⟨l,hl,hlog⟩ : ∃ l ∈ Lagged.rerun Careful
      [.act (.create "a" 1),.reconcile [readyPod "p"],.act .restart,
        .reconcile [readyPod "p"],.act (.detach "a"),.reconcile [readyPod "p"],
        .act (.create "b" 1),.reconcile [readyPod "p"]],
      l.state.log = [.allocated "p" 0,.recycled "p",.allocated "p" 1] := by
    decide
  have hrun := rerun_fresh hl
  exact ⟨l,hrun,hlog,pod_recycled_between hrun "p" 0 1 [] [.recycled "p"] [] hlog⟩

theorem pod_reused_after_restart :
    ∃ l, FreshRun (fun _ _ => True) l ∧
      l.state.log = [.allocated "p" 0,.allocated "p" 1] := by
  obtain ⟨l,hl,hlog⟩ : ∃ l ∈ Lagged.rerun (fun _ _ => True)
      [.act (.create "a" 1),.reconcile [readyPod "p"],.act (.detach "a"),.act .restart,
        .act (.create "b" 1),.reconcile [readyPod "p"]],
      l.state.log = [.allocated "p" 0,.allocated "p" 1] := by
    decide
  exact ⟨l,rerun_fresh hl,hlog⟩

end OpenSandbox.Kubernetes.Pool
