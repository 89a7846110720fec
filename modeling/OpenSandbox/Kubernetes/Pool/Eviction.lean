import OpenSandbox.Kubernetes.Pool.Reconcile

namespace OpenSandbox.Kubernetes.Pool

structure Tame (sb sb' : Sandbox) : Prop where
  uid : sb'.uid = sb.uid
  alloc : sb'.alloc = sb.alloc
  released : sb'.released = sb.released
  attached : sb'.attached = true → sb.attached = true
  finalizer : sb'.attached = true → sb'.finalizer = sb.finalizer
  release : ∀ pod ∈ sb'.release, pod ∈ sb.release ∨ pod ∈ sb.alloc

theorem Tame.active_iff {sb sb' : Sandbox} (h : Tame sb sb') (pod : String) :
    sb'.active pod ↔ sb.active pod := by
  rw [Sandbox.active,Sandbox.active,h.alloc,h.released]

theorem Tame.refl (sb : Sandbox) : Tame sb sb :=
  ⟨rfl,rfl,rfl,id,fun _ => rfl,fun _ h => .inl h⟩

structure Calm (s t : State) : Prop where
  store : t.store = s.store
  recovered : t.recovered = s.recovered
  log : t.log = s.log
  kept : ∀ name sb', t.sandboxes.lookup name = some sb' →
    (s.sandboxes.lookup name = none ∧ ∃ uid replicas, sb' = Sandbox.created name uid replicas) ∨
      ∃ sb, s.sandboxes.lookup name = some sb ∧ Tame sb sb'

theorem Calm.edit (s : State) (name : String) (change : Sandbox → Sandbox)
    (h : ∀ sb, s.sandboxes.lookup name = some sb →
      Tame sb { change sb with version := sb.version + 1 }) :
    Calm s (s.edit name change) := by
  refine ⟨rfl,rfl,rfl,fun name' sb' hsb' => .inr ?_⟩
  rw [State.edit,lookup_patch] at hsb'
  split_ifs at hsb' with hname
  · obtain ⟨sb,hsb,rfl⟩ := Option.map_eq_some_iff.mp hsb'
    exact ⟨sb,hname ▸ hsb,h sb hsb⟩
  · exact ⟨sb',hsb',Tame.refl sb'⟩

theorem Calm.remove (s : State) (name : String) : Calm s (s.remove name) := by
  refine ⟨rfl,rfl,rfl,fun name' sb' hsb' => .inr ⟨sb',?_,Tame.refl sb'⟩⟩
  rw [State.remove,GoMap.lookup_erased] at hsb'
  split_ifs at hsb'
  exact hsb'

def Action.edits : Action → Bool
  | .restart | .schedule _ | .reconcile _ => false
  | _ => true

variable {s t : State}

theorem step_calm {a : Action} (ha : a.edits = true) (h : step s a = some t) : Calm s t := by
  revert h
  fun_cases Pool.step s a <;> intro h <;> cases h
  · rename_i name replicas hnew
    refine ⟨rfl,rfl,rfl,fun name' sb' hsb' => ?_⟩
    rw [GoMap.lookup_inserted] at hsb'
    split_ifs at hsb' with hname
    · cases hsb'
      subst hname
      exact .inl ⟨Option.not_isSome_iff_eq_none.mp hnew,s.nextUid,replicas,rfl⟩
    · exact .inr ⟨sb',hsb',Tame.refl sb'⟩
  · exact Calm.edit s _ _ fun sb _ => ⟨rfl,rfl,rfl,id,fun _ => rfl,fun _ hp => .inl hp⟩
  · rename_i name pods sb hsb hok
    refine Calm.edit s name _ fun sb' hsb' => ⟨rfl,rfl,rfl,id,fun _ => rfl,?_⟩
    rw [hsb] at hsb'
    cases hsb'
    exact fun pod hpod => .inr (hok.2 pod hpod)
  · exact Calm.edit s _ _ fun sb _ => ⟨rfl,rfl,rfl,id,fun _ => rfl,fun _ hp => .inl hp⟩
  · exact Calm.remove s _
  · exact Calm.remove s _
  · exact Calm.edit s _ _ fun sb _ => ⟨rfl,rfl,rfl,nofun,nofun,nofun⟩
  all_goals cases ha

theorem Calm.shaped (h : Calm s t) (hs : Shaped s.sandboxes) : Shaped t.sandboxes := by
  refine ⟨fun name sb' hsb' hatt hf pod ha => ?_,fun name sb' hsb' pod hpod => ?_⟩
  · rcases h.kept name sb' hsb' with ⟨_,uid,replicas,rfl⟩ | ⟨sb,hsb,htame⟩
    · cases ha.1
    · refine hs.held name sb hsb (htame.attached hatt) ?_ pod ((htame.active_iff pod).mp ha)
      rwa [← htame.finalizer hatt]
  · rcases h.kept name sb' hsb' with ⟨_,uid,replicas,rfl⟩ | ⟨sb,hsb,htame⟩
    · cases hpod
    · rw [htame.alloc]
      rcases htame.release pod hpod with hr | hr
      · exact hs.owned name sb hsb pod hr
      · exact hr

theorem Calm.cover (h : Calm s t) (hc : Cover s.store s.sandboxes) : Cover t.store t.sandboxes := by
  intro name sb' pod hsb' hatt ha
  rw [h.store]
  rcases h.kept name sb' hsb' with ⟨_,uid,replicas,rfl⟩ | ⟨sb,hsb,htame⟩
  · cases ha.1
  · exact hc name sb pod hsb (htame.attached hatt) ((htame.active_iff pod).mp ha)

def Unshared (recovery : List Sandbox) : Prop :=
  ∀ view ∈ recovery, ∀ other ∈ recovery, other.name ≠ view.name →
    ∀ pod ∈ view.alloc, pod ∉ view.released → pod ∉ other.alloc

instance (recovery : List Sandbox) : Decidable (Unshared recovery) := by
  unfold Unshared
  infer_instance

theorem Unshared.cover {sandboxes : GoMap Sandbox} {recovery : List Sandbox}
    (h : Unshared recovery) (hlist : Listing sandboxes recovery) :
    Cover (recover recovery) sandboxes := by
  intro name sb pod hsb hatt ha
  obtain ⟨hmem,rfl⟩ := hlist.mem hsb hatt
  refine recover_active hmem ha ?_ hlist.names
  intro other ho hne
  exact h sb hmem other ho hne pod ha.1 ha.2

structure Covered (s : State) : Prop where
  shaped : Shaped s.sandboxes
  cover : s.recovered = true → Cover s.store s.sandboxes

theorem Covered.initial : Covered State.initial := by
  refine ⟨⟨?_,?_⟩,?_⟩
  · exact nofun
  · exact nofun
  · exact nofun

theorem Covered.allocation (h : Covered s) {recovery : List Sandbox}
    (hlist : Listing s.sandboxes recovery) (hun : s.recovered = true ∨ Unshared recovery) :
    Cover (s.allocation recovery) s.sandboxes := by
  unfold State.allocation
  split_ifs with hrec
  · exact h.cover hrec
  · exact (hun.resolve_left hrec).cover hlist

def Sheltered (s : State) : Action → Prop
  | .schedule recovery => s.recovered = true ∨ Unshared recovery
  | .reconcile input => Tidy s input ∧ (s.recovered = true ∨
      (Unshared input.recovery ∧ ∀ pod ∈ input.pods, pod.evict = false))
  | _ => True

instance (s : State) (a : Action) : Decidable (Sheltered s a) := by
  unfold Sheltered
  induction a using Action.casesOn <;> infer_instance

theorem Covered.reconcile (h : Covered s) {input : Input} (htidy : Tidy s input)
    (hun : s.recovered = true ∨ Unshared input.recovery) (hfresh : input.Fresh s.sandboxes) :
    Covered (s.reconcilePool input) := by
  have hcover := h.allocation hfresh.recovery hun
  obtain ⟨hc,hs⟩ := htidy.reconcilePool hfresh hcover h.shaped
  exact ⟨hs,fun _ => hc⟩

theorem Covered.step {a : Action} (h : Covered s) (hok : Sheltered s a)
    (hstep : step s a = some t) : Covered t := by
  by_cases ha : a.edits = true
  · have hcalm := step_calm ha hstep
    refine ⟨hcalm.shaped h.shaped,fun hrec => hcalm.cover (h.cover ?_)⟩
    rwa [← hcalm.recovered]
  cases a with
  | restart =>
    cases hstep
    exact ⟨h.shaped,nofun⟩
  | schedule recovery =>
    simp only [Pool.step] at hstep
    split_ifs at hstep with hlist
    cases hstep
    exact ⟨h.shaped,fun _ => h.allocation hlist hok⟩
  | reconcile input =>
    simp only [Pool.step] at hstep
    split_ifs at hstep with hfresh
    cases hstep
    exact h.reconcile hok.1 (hok.2.imp id And.left) hfresh
  | _ => exact absurd rfl ha

def Reachable (ok : State → Action → Prop) : State → Prop :=
  Runs.Reach (fun s a t => step s a = some t) ok (· = State.initial)

theorem Reachable.covered (h : Reachable Sheltered s) : Covered s := by
  refine @Runs.Reach.invariant _ _ _ _ _ Covered ?_ ?_ s h
  · rintro s rfl
    exact Covered.initial
  · intro s a t hs hok hstep
    exact hs.step hok hstep

def LaggedRun (ok : Lagged → Action → Prop) : Lagged → Prop :=
  Runs.Reach (fun l a l' => l.step a = some l') ok (· = Lagged.initial)

def FreshReads (s : State) : Action → Prop
  | .reconcile input => input.Fresh s.sandboxes
  | .schedule recovery => Listing s.sandboxes recovery
  | _ => True

instance (s : State) (a : Action) : Decidable (FreshReads s a) := by
  unfold FreshReads
  induction a using Action.casesOn <;> infer_instance

variable {l : Lagged}

theorem FreshReads.step {a : Action} {l' : Lagged} (hfresh : FreshReads l.state a)
    (hstep : l.step a = some l') : Pool.step l.state a = some l'.state := by
  cases a with
  | schedule recovery | reconcile input =>
    simp only [Lagged.step] at hstep
    split_ifs at hstep
    cases hstep
    exact if_pos hfresh
  | _ =>
    simp only [Lagged.step,Option.map_eq_some_iff] at hstep
    obtain ⟨t,ht,rfl⟩ := hstep
    exact ht

def FreshRun (ok : State → Action → Prop) : Lagged → Prop :=
  LaggedRun fun l a => FreshReads l.state a ∧ ok l.state a

theorem FreshRun.reachable {ok : State → Action → Prop} (h : FreshRun ok l) :
    Reachable ok l.state := by
  refine @Runs.Reach.invariant _ _ _ _ _ (fun l => Reachable ok l.state) ?_ ?_ l h
  · rintro l rfl
    exact .start rfl
  · rintro l a l' hl ⟨hfresh,hok⟩ hstep
    exact .step hl hok (hfresh.step hstep)

def State.listing (s : State) : List Sandbox :=
  (s.sandboxes.entries.map Sigma.snd).filter Sandbox.attached

def State.input (s : State) (pods : List Pod) : Input :=
  { pods
    recovery := s.listing
    views := s.listing
    allocOrder := s.listing
    allocOutcome := fun _ => .ok
    recycle := fun _ _ => ⟨false,true,false⟩
    releaseOrder := s.listing
    releaseOutcome := fun _ => .ok }

inductive Move
  | act (a : Action)
  | reconcile (pods : List Pod)

def Move.action (s : State) : Move → Action
  | .act a => a
  | .reconcile pods => .reconcile (s.input pods)

section

variable (ok : State → Action → Prop) [∀ s a, Decidable (ok s a)] (moves : List Move)

def rerun : Option State :=
  Runs.follow
    (fun s move => if ok s (Move.action s move) then step s (Move.action s move) else none)
    State.initial moves

def Lagged.rerun : Option Lagged :=
  Runs.follow
    (fun l move =>
      if FreshReads l.state (Move.action l.state move) ∧ ok l.state (Move.action l.state move) then
        l.step (Move.action l.state move)
      else none)
    Lagged.initial moves

end

variable {ok : State → Action → Prop} [∀ s a, Decidable (ok s a)] {moves : List Move}

theorem rerun_reachable (h : rerun ok moves = some s) : Reachable ok s :=
  Runs.Reach.follow_chosen Move.action (.start rfl) h

theorem rerun_fresh (h : Lagged.rerun ok moves = some l) : FreshRun ok l :=
  Runs.Reach.follow_chosen (fun l : Lagged => Move.action l.state) (.start rfl) h

theorem eviction_spares_allocated {l : Lagged} {input : Input} (h : FreshRun Sheltered l)
    (hok : Sheltered l.state (.reconcile input)) :
    ∀ pod ∈ evictions l.state.store input.pods, ∀ name sb,
      l.state.sandboxes.lookup name = some sb → sb.attached = true → ¬ sb.active pod.name := by
  intro pod hpod name sb hsb hatt ha
  obtain ⟨hmem,hneeds⟩ := List.mem_filter.mp hpod
  rw [needsEviction,Bool.and_eq_true,Option.isNone_iff_eq_none] at hneeds
  rcases hok.2 with hrec | ⟨_,hlabels⟩
  · have hstore := h.reachable.covered.cover hrec name sb pod.name hsb hatt ha
    rw [hneeds.2] at hstore
    cases hstore
  · rw [hlabels pod hmem] at hneeds
    cases hneeds.1

def readyPod (name : String) : Pod := ⟨name,true,false⟩

def labelledPod (name : String) : Pod := ⟨name,true,true⟩

theorem eviction_spares_allocated_labelled :
    ∃ l, FreshRun Sheltered l ∧ Sheltered l.state (.reconcile (l.state.input [labelledPod "p"])) ∧
      (∃ sb, l.state.sandboxes.lookup "a" = some sb ∧ sb.active "p") ∧
      ∀ pod ∈ evictions l.state.store [labelledPod "p"], ∀ name sb,
        l.state.sandboxes.lookup name = some sb → sb.attached = true → ¬ sb.active pod.name := by
  obtain ⟨l,hl,hok,hactive⟩ : ∃ l ∈ Lagged.rerun Sheltered
      [.act (.create "a" 1),.reconcile [readyPod "p"]],
      Sheltered l.state (.reconcile (l.state.input [labelledPod "p"])) ∧
        ∃ sb ∈ l.state.sandboxes.lookup "a", sb.active "p" := by
    decide
  have hrun := rerun_fresh hl
  exact ⟨l,hrun,hok,hactive,eviction_spares_allocated hrun hok⟩

theorem evicts_allocated_after_restart :
    ∃ l l' input pod sb, FreshRun (fun _ _ => True) l ∧
      FreshReads l.state (.reconcile input) ∧ l.step (.reconcile input) = some l' ∧
      pod ∈ evictions l.state.store input.pods ∧ l.state.sandboxes.lookup "a" = some sb ∧
      sb.attached = true ∧ sb.active pod.name := by
  obtain ⟨l,hl,hfresh,l',hl',hevicted,sb,hsb,hflags⟩ :
      ∃ l ∈ Lagged.rerun (fun _ _ => True)
        [.act (.create "a" 1),.reconcile [readyPod "p"],.act .restart],
        FreshReads l.state (.reconcile (l.state.input [labelledPod "p"])) ∧
        ∃ l' ∈ l.step (.reconcile (l.state.input [labelledPod "p"])),
        labelledPod "p" ∈ evictions l.state.store [labelledPod "p"] ∧
          ∃ sb ∈ l.state.sandboxes.lookup "a", sb.attached = true ∧ sb.active "p" := by
    decide
  exact ⟨l,l',_,labelledPod "p",sb,rerun_fresh hl,hfresh,hl',hevicted,hsb,hflags⟩

end OpenSandbox.Kubernetes.Pool
