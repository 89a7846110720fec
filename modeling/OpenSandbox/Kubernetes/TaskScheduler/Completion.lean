import OpenSandbox.Kubernetes.TaskScheduler.Release

namespace OpenSandbox.Kubernetes.TaskScheduler

open List Bool AList

def TaskState.completed : TaskState → Bool
  | .succeed | .failed => true
  | _ => false

def Finished (log : List Event) (ip : String) : Prop :=
  ∃ task, Event.get ip (.returned (some task)) ∈ log ∧ (parseTaskState task).completed = true

structure Earned (policy : ResourcePolicy) (log : List Event) (n : TaskNode) : Prop where
  unmarked : n.deletionTimestamp = false
  unplaced : n.ip = "" → n.status = none ∧ n.tState = none ∧ n.sState = .initial
  seen : ∀ state, n.tState = some state →
    ∃ task, Event.get n.ip (.returned (some task)) ∈ log ∧ parseTaskState task = state
  released : n.sState ≠ .initial → policy = .release ∧ Finished log n.ip

variable {log : List Event} {ip : String}

theorem Finished.mono {log' : List Event} (h : Finished log ip) (hsub : ∀ e ∈ log, e ∈ log') :
    Finished log' ip := by
  obtain ⟨task,hmem,hdone⟩ := h
  exact ⟨task,hsub _ hmem,hdone⟩

variable {policy : ResourcePolicy} {n : TaskNode}

theorem Earned.mono {log' : List Event} (h : Earned policy log n) (hsub : ∀ e ∈ log, e ∈ log') :
    Earned policy log' n := by
  refine ⟨h.unmarked,h.unplaced,fun state hstate => ?_,fun hs => ?_⟩
  · obtain ⟨task,hmem,hparse⟩ := h.seen state hstate
    exact ⟨task,hsub _ hmem,hparse⟩
  · exact ⟨(h.released hs).1,(h.released hs).2.mono hsub⟩

theorem Earned.finished (h : Earned policy log n) (hdone : n.isTaskCompleted = true) :
    Finished log n.ip := by
  rw [TaskNode.isTaskCompleted,or_eq_true,beq_iff_eq,beq_iff_eq] at hdone
  rcases hdone with hstate | hstate
  · obtain ⟨task,hmem,hparse⟩ := h.seen _ hstate
    exact ⟨task,hmem,by rw [hparse]; rfl⟩
  · obtain ⟨task,hmem,hparse⟩ := h.seen _ hstate
    exact ⟨task,hmem,by rw [hparse]; rfl⟩

variable {calls : List GetCall}

theorem lookup_foldl_some {tasks : GoMap Task} {task : Task}
    (h : (calls.foldl record tasks).lookup ip = some task) :
    tasks.lookup ip = some task ∨ (⟨ip,.returned (some task)⟩ : GetCall) ∈ calls := by
  induction calls generalizing tasks with
  | nil => exact .inl h
  | cons call calls ih =>
    rcases ih h with hold | hmem
    · rw [record] at hold
      split at hold
      · exact .inl hold
      · exact .inl hold
      rename_i found hanswer
      by_cases hip : ip = call.ip
      · subst hip
        rw [lookup_insert] at hold
        cases hold
        refine .inr (mem_cons.mpr (.inl ?_))
        rw [← hanswer]
      · rw [lookup_insert_ne hip] at hold
        exact .inl hold
    · exact .inr (mem_cons_of_mem call hmem)

theorem lookup_collect_some {task : Task} (h : (collect calls).lookup ip = some task) :
    (⟨ip,.returned (some task)⟩ : GetCall) ∈ calls := by
  refine (lookup_foldl_some h).resolve_left fun hempty => ?_
  rw [lookup_empty] at hempty
  cases hempty

theorem Earned.refresh (h : Earned policy log n)
    (hempty : n.ip = "" → (collect calls).lookup n.ip = none) :
    Earned policy (log ++ calls.map GetCall.event) (n.refresh (collect calls)) := by
  have hsub : ∀ e ∈ log, e ∈ log ++ calls.map GetCall.event := fun e he =>
    mem_append_left _ he
  cases htask : (collect calls).lookup n.ip with
  | none =>
    rw [refresh_absent htask]
    have hn := h.mono hsub
    exact ⟨hn.unmarked,fun hip => ⟨rfl,(hn.unplaced hip).2⟩,hn.seen,hn.released⟩
  | some task =>
    have hmem : Event.get n.ip (.returned (some task)) ∈ log ++ calls.map GetCall.event :=
      mem_append_right _ (mem_map_of_mem (f := GetCall.event) (lookup_collect_some htask))
    rw [TaskNode.refresh,htask]
    refine ⟨h.unmarked,fun hip => ?_,fun state hstate => ?_,(h.mono hsub).released⟩
    · cases htask.symm.trans (hempty hip)
    · cases hstate
      exact ⟨task,hmem,rfl⟩

theorem Earned.assign {n' : TaskNode} {free : List Pod} (h : Earned policy log n)
    (hfree : ∀ pod ∈ free, pod.podIP ≠ "") (hassigned : Assigned free n n') :
    Earned policy log n' := by
  rcases hassigned with rfl | ⟨hip,pod,hpod,rfl⟩
  · exact h
  obtain ⟨_,htState,hsState⟩ := h.unplaced hip
  refine ⟨h.unmarked,fun hempty => absurd hempty (hfree pod hpod),fun state hstate => ?_,
    (absurd hsState)⟩
  cases htState.symm.trans hstate

theorem Earned.single {j : Nat} (h : Earned policy log n) :
    Earned policy log (scheduleSingleTaskNode policy j n).1 := by
  by_cases hip : n.ip = ""
  · have hstate : n.sState ≠ .releasing := by
      rw [(h.unplaced hip).2.2]
      decide
    rwa [scheduleSingle_pending hip hstate,h.unmarked]
  have hearned (hmoved : (scheduleSingleTaskNode policy j n).1.sState ≠ .initial) :
      policy = .release ∧ Finished log n.ip := by
    by_cases hstate : n.sState = .initial
    · have hneed := scheduleSingle_initial hip hstate hmoved
      rw [needRelease,h.unmarked,Bool.false_or,Bool.and_eq_true,beq_iff_eq] at hneed
      exact ⟨hneed.1,h.finished hneed.2⟩
    · exact h.released hstate
  obtain ⟨state,hsame⟩ := scheduleSingle_same policy j n
  rw [hsame] at hearned ⊢
  exact ⟨h.unmarked,fun hempty => absurd hempty hip,h.seen,hearned⟩

def AllEarned (s : Scheduler) : Prop := ∀ n ∈ s.taskNodes, Earned s.policy s.log n

theorem schedule_policy (s : Scheduler) (calls : List GetCall) :
    (s.schedule calls).policy = s.policy := by
  rw [Scheduler.schedule,Scheduler.scheduleTaskNodes,Scheduler.collectTaskStatus]
  split <;> rfl

variable {s : Scheduler}

theorem AllEarned.schedule (h : AllEarned s)
    (hperm : (calls.map GetCall.ip).Perm (endpoints s.taskNodes)) :
    AllEarned (s.schedule calls) := by
  have hunplaced : ∀ n ∈ s.taskNodes, n.ip = "" → n.status = none := fun n hn hip =>
    ((h n hn).unplaced hip).1
  obtain ⟨events,hlog,hlength,_,hnodes⟩ := schedule_lookup hperm hunplaced
  intro n' hn'
  obtain ⟨j,hj⟩ := mem_iff_getElem?.mp hn'
  have hlt : j < s.taskNodes.length := hlength ▸ (List.getElem?_eq_some_iff.mp hj).1
  obtain ⟨n₂,⟨hn,hassigned⟩,hnext,_⟩ := hnodes j _ (getElem?_eq_getElem hlt)
  rw [hnext] at hj
  cases hj
  rw [schedule_policy,hlog]
  refine Earned.single (Earned.mono ?_ fun e he => mem_append_left _ he)
  refine Earned.assign (Earned.refresh (h _ (mem_of_getElem? hn)) fun hip => ?_)
    (fun pod hpod => refreshFreePods_placed hpod) hassigned
  rw [hip]
  exact lookup_empty_endpoint hperm

theorem earned_init (name : String) : Earned policy log (initTaskNode name) :=
  ⟨rfl,fun _ => ⟨rfl,rfl,rfl⟩,nofun,absurd rfl⟩

theorem AllEarned.addTask (h : AllEarned s) (name : String) : AllEarned (s.addTask name) := by
  rw [Scheduler.addTask]
  split
  · exact h
  exact forall_mem_append.mpr ⟨h,forall_mem_singleton.mpr (earned_init name)⟩

theorem AllEarned.addTasks (h : AllEarned s) (names : List String) :
    AllEarned (s.addTasks names) := by
  rw [Scheduler.addTasks]
  induction names generalizing s with
  | nil => exact h
  | cons name names ih => exact ih (h.addTask name)

def Unclaimed (calls : List GetCall) : Prop :=
  ∀ call ∈ calls, ∀ task, call.answer = .returned (some task) → task.deletionTimestamp = false

instance (calls : List GetCall) : Decidable (Unclaimed calls) := by
  refine @decidableBAll _ _ (fun call => ?_) calls
  cases call.answer with
  | returned task => exact decidable_of_iff (∀ t, task = some t → t.deletionTimestamp = false) (by simp)
  | failed => exact .isTrue nofun

structure Recovering (calls : List GetCall) (s : Scheduler) : Prop where
  earned : AllEarned s
  initial : ∀ n ∈ s.taskNodes, n.sState = .initial
  logged : ∀ call ∈ calls, call.event ∈ s.log

theorem Recovering.recoverPod (h : Recovering calls s) (hclean : Unclaimed calls) {pod : Pod}
    (hpod : pod.podIP ≠ "") : Recovering calls (s.recoverPod (collect calls) pod) := by
  rw [Scheduler.recoverPod]
  split
  · exact h
  rename_i task htask
  split
  · exact h
  rename_i i _
  have hcall := lookup_collect_some htask
  have hkept : task.deletionTimestamp = false := hclean _ hcall task rfl
  have hsub : ∀ e ∈ s.log, e ∈ s.log ++ [.adopt i pod.podIP] := fun e he =>
    mem_append_left _ he
  have hnode (n : TaskNode) (hn : n ∈ s.taskNodes.modify i fun n =>
      { n with
        status := some task
        tState := some (parseTaskState task)
        ip := pod.podIP
        podName := pod.name
        sState := if task.deletionTimestamp then .releasing else n.sState }) :
      Earned s.policy (s.log ++ [.adopt i pod.podIP]) n ∧ n.sState = .initial := by
    obtain ⟨j,hj⟩ := mem_iff_getElem?.mp hn
    rw [getElem?_modify] at hj
    obtain ⟨m,hm,rfl⟩ := Option.map_eq_some_iff.mp hj
    have hmem := mem_of_getElem? hm
    by_cases hij : i = j
    · rw [if_pos hij,hkept]
      have hinitial := h.initial m hmem
      refine ⟨⟨(h.earned m hmem).unmarked,fun hip => absurd hip hpod,fun state hstate => ?_,
        (absurd hinitial)⟩,hinitial⟩
      cases hstate
      exact ⟨task,hsub _ (h.logged _ hcall),rfl⟩
    · rw [if_neg hij]
      exact ⟨(h.earned m hmem).mono hsub,h.initial m hmem⟩
  exact ⟨fun n hn => (hnode n hn).1,fun n hn => (hnode n hn).2,
    fun call hc => hsub _ (h.logged call hc)⟩

theorem Recovering.recoverPods (h : Recovering calls s) (hclean : Unclaimed calls)
    {pods : List Pod} (hpods : ∀ pod ∈ pods, pod.podIP ≠ "") :
    Recovering calls (pods.foldl (Scheduler.recoverPod (collect calls)) s) := by
  induction pods generalizing s with
  | nil => exact h
  | cons pod pods ih =>
    obtain ⟨hpod,hrest⟩ := forall_mem_cons.mp hpods
    exact ih (h.recoverPod hclean hpod) hrest

theorem newTaskScheduler_earned {names : List String} {pods : List Pod} (hclean : Unclaimed calls)
    (h : newTaskScheduler names pods policy calls = some s) : AllEarned s := by
  rw [newTaskScheduler] at h
  split_ifs at h
  cases h
  refine (Recovering.recoverPods ⟨?_,?_,fun call hc => ?_⟩ hclean fun pod hpod => ?_).earned
  · exact forall_mem_map.mpr fun name _ => earned_init name
  · exact forall_mem_map.mpr fun _ _ => rfl
  · exact mem_append_right _ (mem_map_of_mem hc)
  · exact of_decide_eq_true (mem_filter.mp hpod).2

end OpenSandbox.Kubernetes.TaskScheduler
