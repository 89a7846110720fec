import OpenSandbox.Kubernetes.TaskScheduler.Model

namespace OpenSandbox.Kubernetes.TaskScheduler

open List Scheduler TaskNode

def Event.starts (j : Nat) : Event → Bool
  | .set node _ | .adopt node _ => node == j
  | .get _ _ | .clear _ _ => false

def Started (log : List Event) (j : Nat) : Prop := ∃ e ∈ log, e.starts j = true

def sinceSet (log : List Event) (j : Nat) : List Event :=
  log.reverse.takeWhile fun e => !e.starts j

def Confirmed (log : List Event) (j : Nat) (ip : String) : Prop :=
  Event.get ip (.returned none) ∈ sinceSet log j

instance (log : List Event) (j : Nat) (ip : String) : Decidable (Confirmed log j ip) :=
  inferInstanceAs (Decidable (_ ∈ _))

variable {log events : List Event} {j : Nat}

theorem sinceSet_append (h : ∀ e ∈ events, e.starts j = false) :
    sinceSet (log ++ events) j = events.reverse ++ sinceSet log j := by
  rw [sinceSet,reverse_append,takeWhile_append_of_pos]
  · rfl
  · intro e he
    rw [h e (mem_reverse.mp he)]
    rfl

variable {ip : String}

theorem Confirmed.append (h : Confirmed log j ip) (hquiet : ∀ e ∈ events, e.starts j = false) :
    Confirmed (log ++ events) j ip := by
  rw [Confirmed,sinceSet_append hquiet]
  exact mem_append_right _ h

theorem confirmed_of_mem (h : Event.get ip (.returned none) ∈ events)
    (hquiet : ∀ e ∈ events, e.starts j = false) : Confirmed (log ++ events) j ip := by
  rw [Confirmed,sinceSet_append hquiet]
  exact mem_append_left _ (mem_reverse.mpr h)

theorem started_append : Started (log ++ events) j ↔ Started log j ∨ Started events j := by
  simp only [Started,mem_append,or_and_right,exists_or]

theorem started_of_quiet (hquiet : ∀ e ∈ events, e.starts j = false)
    (h : Started (log ++ events) j) : Started log j := by
  rcases started_append.mp h with hold | ⟨e,he,hstarts⟩
  · exact hold
  · rw [hquiet e he] at hstarts
    cases hstarts

theorem calls_quiet (calls : List GetCall) (j : Nat) :
    ∀ e ∈ calls.map GetCall.event, e.starts j = false := forall_mem_map.mpr fun _ _ => rfl

def GetAnswer.found : GetAnswer → Bool
  | .failed => false
  | .returned task => task.isSome

theorem lookup_record (tasks : GoMap Task) (call : GetCall) (ip : String) :
    (record tasks call).lookup ip = none ↔
      tasks.lookup ip = none ∧ (call.ip = ip → call.answer.found = false) := by
  obtain ⟨at',answer⟩ := call
  cases answer with
  | failed => simp [record,GetAnswer.found]
  | returned found =>
    cases found with
    | none => simp [record,GetAnswer.found]
    | some task =>
      by_cases hip : ip = at'
      · subst hip
        simp [record,GetAnswer.found]
      · have hne : ¬ at' = ip := fun h => hip h.symm
        simp [record,GetAnswer.found,AList.lookup_insert_ne hip,hne]

theorem lookup_foldl_record (calls : List GetCall) (tasks : GoMap Task) (ip : String) :
    (calls.foldl record tasks).lookup ip = none ↔ tasks.lookup ip = none ∧
        ∀ call ∈ calls, call.ip = ip → call.answer.found = false := by
  induction calls generalizing tasks with
  | nil => simp
  | cons call calls ih =>
    rw [foldl_cons,ih,lookup_record,and_assoc,forall_mem_cons]

variable {calls : List GetCall}

theorem lookup_collect : (collect calls).lookup ip = none ↔
      ∀ call ∈ calls, call.ip = ip → call.answer.found = false := by
  rw [collect,lookup_foldl_record,AList.lookup_empty]
  exact and_iff_right rfl

def TaskNode.forget (n : TaskNode) : TaskNode := { n with status := none }

variable {n : TaskNode}

theorem refresh_absent {tasks : GoMap Task} (h : tasks.lookup n.ip = none) :
    n.refresh tasks = n.forget := by
  rw [refresh,h]
  rfl

theorem refresh_ip (tasks : GoMap Task) (n : TaskNode) : (n.refresh tasks).ip = n.ip := by
  rw [refresh]
  split <;> rfl

theorem refresh_sState (tasks : GoMap Task) (n : TaskNode) :
    (n.refresh tasks).sState = n.sState := by
  rw [refresh]
  split <;> rfl

theorem lookup_of_refresh {tasks : GoMap Task} (h : (n.refresh tasks).status = none) :
    tasks.lookup n.ip = none := by
  rw [refresh] at h
  split at h
  · cases h
  · assumption

def Assigned (free : List Pod) (n n' : TaskNode) : Prop :=
  n' = n ∨ n.ip = "" ∧ ∃ pod ∈ free, n' = { n with ip := pod.podIP, podName := pod.name }

variable {nodes : List TaskNode}

variable {n' : TaskNode}

theorem assignTaskNodes_lookup {free : List Pod}
    (h : (assignTaskNodes nodes free).1[j]? = some n') :
    ∃ n, nodes[j]? = some n ∧ Assigned free n n' := by
  induction nodes, free using assignTaskNodes.induct generalizing j with
  | case1 free => simp [assignTaskNodes] at h
  | case2 nodes hne =>
    cases nodes with
    | nil => exact absurd rfl (hne ·)
    | cons n nodes => exact ⟨n',h,.inl rfl⟩
  | case3 n nodes pod free hip ih =>
    rw [assignTaskNodes,if_pos hip] at h
    cases j with
    | zero => exact ⟨n,rfl,.inl (Option.some.inj h).symm⟩
    | succ j => exact ih h
  | case4 n nodes pod free hip ih =>
    rw [assignTaskNodes,if_neg hip] at h
    cases j with
    | zero =>
      refine ⟨n,rfl,.inr ⟨not_not.mp hip,pod,mem_cons_self,?_⟩⟩
      exact (Option.some.inj h).symm
    | succ j =>
      obtain ⟨m,hm,hassigned⟩ := ih h
      refine ⟨m,hm,hassigned.imp_right fun ⟨hempty,p,hp,heq⟩ => ?_⟩
      exact ⟨hempty,p,mem_cons_of_mem pod hp,heq⟩

theorem length_assignTaskNodes (nodes : List TaskNode) (free : List Pod) :
    (assignTaskNodes nodes free).1.length = nodes.length := by
  induction nodes, free using assignTaskNodes.induct with
  | case1 free => rfl
  | case2 nodes hne => cases nodes <;> rfl
  | case3 n nodes pod free hip ih | case4 n nodes pod free hip ih => simp [assignTaskNodes,hip,ih]

theorem scheduleSingle_pending {policy : ResourcePolicy} {j : Nat} {n : TaskNode}
    (hip : n.ip = "") (hstate : n.sState ≠ .releasing) :
    scheduleSingleTaskNode policy j n =
      (if n.deletionTimestamp then { n with sState := .released } else n, []) := by
  cases hdel : n.deletionTimestamp <;>
    simp [scheduleSingleTaskNode,placeTask,releaseTask,hip,hdel,hstate]

variable {policy : ResourcePolicy}

theorem scheduleSingle_same (policy : ResourcePolicy) (j : Nat) (n : TaskNode) :
    ∃ state, (scheduleSingleTaskNode policy j n).1 = { n with sState := state } := by
  simp only [scheduleSingleTaskNode,placeTask,releaseTask]
  split_ifs <;> exact ⟨_,rfl⟩

section

variable (hip : n.ip ≠ "")

include hip

theorem scheduleSingle_gone (hstatus : n.status = none) (h : n.sState = .released) :
    (scheduleSingleTaskNode policy j n).1.sState = .released := by
  simp only [scheduleSingleTaskNode,placeTask,releaseTask,isTaskDeleted,if_neg hip]
  split_ifs <;> simp_all

theorem scheduleSingle_initial (hstate : n.sState = .initial)
    (h : (scheduleSingleTaskNode policy j n).1.sState ≠ .initial) :
    needRelease policy n = true := by
  simp only [scheduleSingleTaskNode,placeTask,releaseTask,isTaskDeleted,if_neg hip] at h
  split_ifs at h <;> simp_all

theorem scheduleSingle_released (h : (scheduleSingleTaskNode policy j n).1.sState = .released) :
    n.sState = .released ∨
      n.status = none ∧ (needRelease policy n = true ∨ n.sState = .releasing) := by
  simp only [scheduleSingleTaskNode,placeTask,releaseTask,isTaskDeleted,if_neg hip] at h
  split_ifs at h <;> simp_all

theorem scheduleSingle_quiet (hdue : needRelease policy n = true ∨ n.isTaskCompleted = true)
    (h : (scheduleSingleTaskNode policy j n).1.sState = .released) :
    (scheduleSingleTaskNode policy j n).2 = [] := by
  simp only [scheduleSingleTaskNode,placeTask,releaseTask,isTaskDeleted,if_neg hip] at h ⊢
  split_ifs at h ⊢ <;> simp_all

end

theorem releaseTask_quiet (i : Nat) (n : TaskNode) (j : Nat) :
    ∀ e ∈ (releaseTask i n).2, e.starts j = false := by
  intro e he
  rw [releaseTask] at he
  split at he
  · split at he
    · cases he
    · rw [mem_singleton.mp he]
      rfl
  · cases he

theorem scheduleSingle_other {i : Nat} (n : TaskNode) (hne : i ≠ j) :
    ∀ e ∈ (scheduleSingleTaskNode policy i n).2, e.starts j = false := by
  intro e he
  rcases mem_append.mp he with hplaced | hreleased
  · rw [placeTask] at hplaced
    split at hplaced
    · split at hplaced <;> cases hplaced
    split at hplaced
    · cases hplaced
    split at hplaced
    · cases hplaced
    · rw [mem_singleton.mp hplaced]
      exact beq_false_of_ne hne
  · exact releaseTask_quiet i _ j e hreleased

theorem scheduled_events {e : Event}
    (he : e ∈ (nodes.mapIdx (scheduleSingleTaskNode policy)).flatMap Prod.snd)
    (hstarts : e.starts j = true) :
    ∃ n, nodes[j]? = some n ∧ e ∈ (scheduleSingleTaskNode policy j n).2 := by
  obtain ⟨out,hout,hmem⟩ := mem_flatMap.mp he
  obtain ⟨i,hi,rfl⟩ := mem_mapIdx.mp hout
  by_cases hij : i = j
  · subst hij
    exact ⟨nodes[i],getElem?_eq_getElem hi,hmem⟩
  · rw [scheduleSingle_other _ hij e hmem] at hstarts
    cases hstarts

structure NodeOk (log : List Event) (j : Nat) (n : TaskNode) : Prop where
  unplaced : n.ip = "" → n.status = none ∧ ¬ Started log j
  waiting : n.ip = "" → n.sState = .initial ∨ n.sState = .released ∧ n.deletionTimestamp = true
  settled : n.sState = .released → n.deletionTimestamp = true ∨ n.isTaskCompleted = true
  confirmed : n.sState = .released → Started log j → Confirmed log j n.ip

structure Sound (s : Scheduler) : Prop where
  node : ∀ (j : Nat) (n : TaskNode), s.taskNodes[j]? = some n → NodeOk s.log j n
  bound : ∀ j, Started s.log j → j < s.taskNodes.length

def pendingRelease (policy : ResourcePolicy) (n : TaskNode) : Bool :=
  n.sState != .released && (needRelease policy n || n.sState == .releasing)

@[mk_iff] structure Answered (policy : ResourcePolicy) (calls : List GetCall) (n : TaskNode) :
    Prop where
  heard : pendingRelease policy n = true → ∀ call ∈ calls, call.ip = n.ip → call.answer ≠ .failed
  due : n.sState = .releasing → needRelease policy n = true ∨ n.isTaskCompleted = true
  silent : n.sState = .released → ∀ call ∈ calls, call.ip = n.ip → call.answer.found = false

instance (policy : ResourcePolicy) (calls : List GetCall) (n : TaskNode) :
    Decidable (Answered policy calls n) :=
  decidable_of_iff' _ (answered_iff policy calls n)

def Scheduler.Dependable (s : Scheduler) : Action → Prop
  | .schedule calls => ∀ n ∈ s.taskNodes, n.ip ≠ "" → Answered s.policy calls n
  | .updatePods _ | .addTasks _ | .stopTask => True

def Within (policy : ResourcePolicy) (j : Nat) (n : TaskNode) (events : List Event) : Prop :=
  ∀ e ∈ events, e.starts j = true → e ∈ (scheduleSingleTaskNode policy j n).2

theorem Within.quiet (h : Within policy j n events)
    (hnone : (scheduleSingleTaskNode policy j n).2 = []) : ∀ e ∈ events, e.starts j = false := by
  intro e he
  cases hstarts : e.starts j with
  | false => rfl
  | true =>
    have hmem := h e he hstarts
    rw [hnone] at hmem
    cases hmem

theorem due_of_needRelease (h : needRelease policy n = true) :
    n.deletionTimestamp = true ∨ n.isTaskCompleted = true := by
  rw [needRelease,Bool.or_eq_true,Bool.and_eq_true] at h
  exact h.imp_right And.right

theorem NodeOk.of_round (hip : n.ip ≠ "") (hwithin : Within policy j n events)
    (hdue : (scheduleSingleTaskNode policy j n).1.sState = .released →
      needRelease policy n = true ∨ n.isTaskCompleted = true)
    (hconfirmed : (scheduleSingleTaskNode policy j n).1.sState = .released →
      (∀ e ∈ events, e.starts j = false) → Started log j → Confirmed log j n.ip) :
    NodeOk log j (scheduleSingleTaskNode policy j n).1 := by
  have hquiet (h : (scheduleSingleTaskNode policy j n).1.sState = .released) :=
    hwithin.quiet (scheduleSingle_quiet hip (hdue h) h)
  obtain ⟨state,hsame⟩ := scheduleSingle_same policy j n
  rw [hsame] at hdue hconfirmed hquiet ⊢
  exact ⟨fun h => absurd h hip,fun h => absurd h hip,
    fun h => (hdue h).elim due_of_needRelease .inr,fun h => hconfirmed h (hquiet h)⟩

theorem NodeOk.unplaced_round {free : List Pod} (hok : NodeOk log j n) (hip : n.ip = "")
    (hfree : ∀ pod ∈ free, pod.podIP ≠ "") (hassigned : Assigned free n n')
    (hwithin : Within policy j n' events) :
    NodeOk (log ++ events) j (scheduleSingleTaskNode policy j n').1 ∧
      (n.sState = .released → (scheduleSingleTaskNode policy j n').1.sState = .released) := by
  obtain ⟨hstatus,hfresh⟩ := hok.unplaced hip
  have hwait := hok.waiting hip
  rcases hassigned with rfl | ⟨_,pod,hpod,rfl⟩
  · have hstate : n'.sState ≠ .releasing := by
      rcases hwait with h | ⟨h,_⟩ <;> simp [h]
    have hsingle := @scheduleSingle_pending policy j n' hip hstate
    have hquiet := hwithin.quiet (congrArg Prod.snd hsingle)
    have hnone : ¬ Started (log ++ events) j := fun h => hfresh (started_of_quiet hquiet h)
    rw [hsingle]
    by_cases hdel : n'.deletionTimestamp = true
    · rw [if_pos hdel]
      exact ⟨⟨fun _ => ⟨hstatus,hnone⟩,fun _ => .inr ⟨rfl,hdel⟩,fun _ => .inl hdel,
        fun _ h => absurd h hnone⟩,fun _ => rfl⟩
    · rw [if_neg hdel]
      exact ⟨⟨fun _ => ⟨hstatus,hnone⟩,fun _ => hwait,hok.settled,fun _ h => absurd h hnone⟩,id⟩
  have hplaced : pod.podIP ≠ "" := hfree pod hpod
  refine ⟨NodeOk.of_round hplaced hwithin (fun h => .inl ?_) fun _ hquiet hstarted => ?_,
    fun h => scheduleSingle_gone hplaced hstatus h⟩
  swap
  · exact absurd (started_of_quiet hquiet hstarted) hfresh
  rcases scheduleSingle_released hplaced h with hreleased | ⟨_,hneed | hreleasing⟩
  · rcases hwait with hinitial | ⟨_,hdel⟩
    · cases hinitial.symm.trans hreleased
    · exact Bool.or_eq_true_iff.mpr (.inl hdel)
  · exact hneed
  · rcases hwait with hstate | ⟨hstate,_⟩ <;> cases hstate.symm.trans hreleasing

theorem confirmed_by_call (hanswered : Answered policy calls n)
    (hcalled : ∃ call ∈ calls, call.ip = n.ip) (habsent : (collect calls).lookup n.ip = none)
    (hpending : pendingRelease policy n = true) (hquiet : ∀ e ∈ events, e.starts j = false) :
    Confirmed (log ++ calls.map GetCall.event ++ events) j n.ip := by
  obtain ⟨call,hcall,hip⟩ := hcalled
  have hanswer : call.answer = .returned none := by
    cases hanswer : call.answer with
    | failed => exact absurd hanswer (hanswered.heard hpending call hcall hip)
    | returned found =>
      cases found with
      | none => rfl
      | some task =>
        have hfound := lookup_collect.mp habsent call hcall hip
        rw [hanswer] at hfound
        cases hfound
  refine Confirmed.append (confirmed_of_mem ?_ (calls_quiet calls j)) hquiet
  refine mem_map.mpr ⟨call,hcall,?_⟩
  rw [GetCall.event,hip,hanswer]

theorem NodeOk.released_round (hok : NodeOk log j n) (hip : n.ip ≠ "")
    (hreleased : n.sState = .released) (habsent : (collect calls).lookup n.ip = none)
    (hwithin : Within policy j (n.refresh (collect calls)) events) :
    NodeOk (log ++ calls.map GetCall.event ++ events) j
        (scheduleSingleTaskNode policy j (n.refresh (collect calls))).1 ∧
      (scheduleSingleTaskNode policy j (n.refresh (collect calls))).1.sState = .released := by
  rw [refresh_absent habsent] at hwithin ⊢
  refine ⟨NodeOk.of_round hip hwithin (fun _ => ?_) fun _ hquiet hstarted => ?_,
    scheduleSingle_gone hip rfl hreleased⟩
  · exact (hok.settled hreleased).imp_left fun hdel => Bool.or_eq_true_iff.mpr (.inl hdel)
  · have hbefore := started_of_quiet (calls_quiet calls j) (started_of_quiet hquiet hstarted)
    exact ((hok.confirmed hreleased hbefore).append (calls_quiet calls j)).append hquiet

theorem NodeOk.placed_round (hip : n.ip ≠ "") (hstate : n.sState ≠ .released)
    (hanswered : Answered policy calls n) (hcalled : ∃ call ∈ calls, call.ip = n.ip)
    (hwithin : Within policy j (n.refresh (collect calls)) events) :
    NodeOk (log ++ calls.map GetCall.event ++ events) j
      (scheduleSingleTaskNode policy j (n.refresh (collect calls))).1 := by
  have hip' : (n.refresh (collect calls)).ip ≠ "" := by rwa [refresh_ip]
  have hgone (h : (scheduleSingleTaskNode policy j (n.refresh (collect calls))).1.sState =
      .released) : (collect calls).lookup n.ip = none ∧
        (needRelease policy n = true ∨ n.sState = .releasing) := by
    rcases scheduleSingle_released hip' h with hreleased | ⟨hstatus,hcase⟩
    · exact absurd (refresh_sState _ n ▸ hreleased) hstate
    · have habsent := lookup_of_refresh hstatus
      rw [refresh_absent habsent] at hcase
      exact ⟨habsent,hcase⟩
  refine NodeOk.of_round hip' hwithin (fun h => ?_) fun h hquiet _ => ?_
  · obtain ⟨habsent,hcase⟩ := hgone h
    rw [refresh_absent habsent]
    exact hcase.elim .inl hanswered.due
  · obtain ⟨habsent,hcase⟩ := hgone h
    have hpending : pendingRelease policy n = true := by simpa [pendingRelease,hstate] using hcase
    rw [refresh_ip]
    exact confirmed_by_call hanswered hcalled habsent hpending hquiet

theorem mem_endpoints (hn : n ∈ nodes) (hip : n.ip ≠ "") : n.ip ∈ endpoints nodes :=
  mem_filter.mpr ⟨mem_map_of_mem hn,decide_eq_true hip⟩

section

variable (hperm : (calls.map GetCall.ip).Perm (endpoints nodes))

include hperm

theorem lookup_empty_endpoint : (collect calls).lookup "" = none := by
  refine lookup_collect.mpr fun call hcall hip => ?_
  have hmem := hperm.mem_iff.mp (mem_map_of_mem hcall)
  rw [endpoints,mem_filter,hip] at hmem
  simp at hmem

end

theorem forget_of_absent (h : n.status = none) : n.forget = n := by
  rw [forget,← h]

variable {s : Scheduler}

theorem collectTaskStatus_eq (hperm : (calls.map GetCall.ip).Perm (endpoints s.taskNodes))
    (hunplaced : ∀ n ∈ s.taskNodes, n.ip = "" → n.status = none) :
    s.collectTaskStatus calls =
      { s with
        taskNodes := s.taskNodes.map (TaskNode.refresh (collect calls))
        log := s.log ++ calls.map GetCall.event } := by
  rw [collectTaskStatus]
  split_ifs with hempty
  · rw [hempty,perm_nil,map_eq_nil_iff] at hperm
    subst hperm
    have hsame : ∀ n ∈ s.taskNodes, n.refresh (collect []) = n := by
      intro n hn
      have hip : n.ip = "" := by
        by_contra hne
        have hmem := mem_endpoints hn hne
        rw [hempty] at hmem
        cases hmem
      rw [refresh_absent (lookup_collect.mpr (forall_mem_nil _))]
      exact forget_of_absent (hunplaced n hn hip)
    rw [map_congr_left hsame,map_id',map_nil,append_nil]
  · rfl

theorem refreshFreePods_placed {pod : Pod} (h : pod ∈ s.refreshFreePods.freePods) :
    pod.podIP ≠ "" := by
  obtain ⟨_,hpod⟩ := mem_filter.mp h
  rw [Bool.and_eq_true] at hpod
  exact of_decide_eq_true hpod.2

def ScheduledNode (s : Scheduler) (calls : List GetCall) (j : Nat) (n n₂ : TaskNode) : Prop :=
  s.taskNodes[j]? = some n ∧
    Assigned s.refreshFreePods.freePods (n.refresh (collect calls)) n₂

theorem schedule_lookup (hperm : (calls.map GetCall.ip).Perm (endpoints s.taskNodes))
    (hunplaced : ∀ n ∈ s.taskNodes, n.ip = "" → n.status = none) :
    ∃ events, (s.schedule calls).log = s.log ++ calls.map GetCall.event ++ events ∧
      (s.schedule calls).taskNodes.length = s.taskNodes.length ∧
      (∀ j, Started events j → j < s.taskNodes.length) ∧
      ∀ (j : Nat) (n : TaskNode), s.taskNodes[j]? = some n → ∃ n₂, ScheduledNode s calls j n n₂ ∧
        (s.schedule calls).taskNodes[j]? = some (scheduleSingleTaskNode s.policy j n₂).1 ∧
        Within s.policy j n₂ events := by
  rw [schedule,collectTaskStatus_eq (s := s.refreshFreePods) hperm hunplaced,scheduleTaskNodes]
  have hlength : (assignTaskNodes (s.taskNodes.map (refresh (collect calls)))
      s.refreshFreePods.freePods).1.length = s.taskNodes.length := by
    rw [length_assignTaskNodes,length_map]
  refine ⟨_,rfl,?_,?_,?_⟩
  · rwa [length_map,length_mapIdx]
  · rintro j ⟨e,he,hstarts⟩
    obtain ⟨n,hn,_⟩ := scheduled_events he hstarts
    exact (List.getElem?_eq_some_iff.mp hn).1.trans_eq hlength
  intro j n hn
  have hj : j < s.taskNodes.length := (List.getElem?_eq_some_iff.mp hn).1
  obtain ⟨n₂,hn₂⟩ : ∃ n₂, (assignTaskNodes (s.taskNodes.map (refresh (collect calls)))
      s.refreshFreePods.freePods).1[j]? = some n₂ :=
    ⟨_,getElem?_eq_getElem (by omega)⟩
  obtain ⟨m,hm,hassigned⟩ := assignTaskNodes_lookup hn₂
  rw [getElem?_map,hn] at hm
  cases hm
  refine ⟨n₂,⟨hn,hassigned⟩,?_,?_⟩
  · rw [getElem?_map,getElem?_mapIdx]
    exact congrArg (fun o => (o.map (scheduleSingleTaskNode s.policy j)).map Prod.fst) hn₂
  intro e he hstarts
  obtain ⟨m,hm,hmem⟩ := scheduled_events he hstarts
  cases hm.symm.trans hn₂
  exact hmem

section

variable (hs : Sound s)

include hs

theorem node_round (hdep : s.Dependable (.schedule calls))
    (hperm : (calls.map GetCall.ip).Perm (endpoints s.taskNodes)) {n₂ : TaskNode}
    (hsched : ScheduledNode s calls j n n₂) (hwithin : Within s.policy j n₂ events) :
    NodeOk (s.log ++ calls.map GetCall.event ++ events) j (scheduleSingleTaskNode s.policy j n₂).1 ∧
      (n.sState = .released → (scheduleSingleTaskNode s.policy j n₂).1.sState = .released) := by
  obtain ⟨hn,hassigned⟩ := hsched
  have hok := hs.node j n hn
  have hmem := mem_of_getElem? hn
  by_cases hip : n.ip = ""
  · have habsent : (collect calls).lookup n.ip = none := by
      rw [hip]
      exact lookup_empty_endpoint hperm
    have hsame : n.refresh (collect calls) = n := by
      rw [refresh_absent habsent]
      exact forget_of_absent (hok.unplaced hip).1
    rw [hsame] at hassigned
    have hok' : NodeOk (s.log ++ calls.map GetCall.event) j n := by
      have hnone : ¬ Started (s.log ++ calls.map GetCall.event) j := fun h =>
        (hok.unplaced hip).2 (started_of_quiet (calls_quiet calls j) h)
      exact ⟨fun h => ⟨(hok.unplaced h).1,hnone⟩,hok.waiting,hok.settled,fun _ h => absurd h hnone⟩
    exact hok'.unplaced_round hip (fun pod hpod => refreshFreePods_placed hpod) hassigned hwithin
  have hsame : n₂ = n.refresh (collect calls) := by
    rcases hassigned with h | ⟨h,_⟩
    · exact h
    · exact absurd (refresh_ip (collect calls) n ▸ h) hip
  subst hsame
  have hanswered := hdep n hmem hip
  by_cases hreleased : n.sState = .released
  · have habsent := lookup_collect.mpr (hanswered.silent hreleased)
    obtain ⟨hnext,hstate⟩ := hok.released_round hip hreleased habsent hwithin
    exact ⟨hnext,fun _ => hstate⟩
  · refine ⟨?_,fun h => absurd h hreleased⟩
    exact NodeOk.placed_round hip hreleased hanswered
      (mem_map.mp (hperm.mem_iff.mpr (mem_endpoints hmem hip))) hwithin

theorem Sound.unplaced : ∀ n ∈ s.taskNodes, n.ip = "" → n.status = none := by
  intro n hn hip
  obtain ⟨j,hj⟩ := mem_iff_getElem?.mp hn
  exact ((hs.node j n hj).unplaced hip).1

theorem Sound.schedule (hdep : s.Dependable (.schedule calls))
    (hperm : (calls.map GetCall.ip).Perm (endpoints s.taskNodes)) : Sound (s.schedule calls) ∧
      ∀ (j : Nat) (n : TaskNode), s.taskNodes[j]? = some n → n.sState = .released →
        ∃ n', (s.schedule calls).taskNodes[j]? = some n' ∧ n'.sState = .released := by
  obtain ⟨events,hlog,hlength,hbound,hnodes⟩ := schedule_lookup hperm hs.unplaced
  refine ⟨⟨fun j n' hn' => ?_,fun j hstarted => ?_⟩,fun j n hn hreleased => ?_⟩
  · have hj : j < s.taskNodes.length := hlength ▸ (List.getElem?_eq_some_iff.mp hn').1
    obtain ⟨n₂,hsched,hnext,hwithin⟩ := hnodes j _ (getElem?_eq_getElem hj)
    rw [hnext] at hn'
    cases hn'
    rw [hlog]
    exact (node_round hs hdep hperm hsched hwithin).1
  · rw [hlength]
    rw [hlog,started_append] at hstarted
    rcases hstarted with h | h
    · exact hs.bound j (started_of_quiet (calls_quiet calls j) h)
    · exact hbound j h
  · obtain ⟨n₂,hsched,hnext,hwithin⟩ := hnodes j n hn
    exact ⟨_,hnext,(node_round hs hdep hperm hsched hwithin).2 hreleased⟩

theorem Sound.addTask (name : String) : Sound (s.addTask name) := by
  rw [Scheduler.addTask]
  split
  · exact hs
  constructor
  · intro j n hn
    rw [getElem?_append] at hn
    split_ifs at hn with hj
    · exact hs.node j n hn
    have hmem := mem_singleton.mp (mem_of_getElem? hn)
    subst hmem
    have hnone : ¬ Started s.log j := fun h => hj (hs.bound j h)
    exact ⟨fun _ => ⟨rfl,hnone⟩,fun _ => .inl rfl,nofun,nofun⟩
  · intro j h
    have hj := hs.bound j h
    simp only [length_append,length_singleton]
    omega

theorem Sound.addTasks (names : List String) : Sound (s.addTasks names) := by
  rw [Scheduler.addTasks]
  induction names generalizing s with
  | nil => exact hs
  | cons name names ih => exact ih (hs.addTask name)

theorem Sound.stopTask : Sound s.stopTask := by
  constructor
  · intro j n hn
    rw [Scheduler.stopTask,getElem?_map,Option.map_eq_some_iff] at hn
    obtain ⟨m,hm,rfl⟩ := hn
    have hok := hs.node j m hm
    exact ⟨hok.unplaced,fun hip => (hok.waiting hip).imp_right fun h => ⟨h.1,rfl⟩,
      fun _ => .inl rfl,hok.confirmed⟩
  · intro j h
    rw [Scheduler.stopTask,length_map]
    exact hs.bound j h

end

theorem addTask_lookup {name : String} (h : s.taskNodes[j]? = some n) :
    (s.addTask name).taskNodes[j]? = some n := by
  rw [addTask]
  split
  · exact h
  · exact List.getElem?_append_left (List.getElem?_eq_some_iff.mp h).1 ▸ h

theorem addTasks_lookup {names : List String} (h : s.taskNodes[j]? = some n) :
    (s.addTasks names).taskNodes[j]? = some n := by
  rw [addTasks]
  induction names generalizing s with
  | nil => exact h
  | cons name names ih => exact ih (addTask_lookup h)

theorem Sound.step {t : Scheduler} {a : Action} (hs : Sound s) (hdep : s.Dependable a)
    (h : s.step a = some t) :
    Sound t ∧ ∀ (j : Nat) (n : TaskNode), s.taskNodes[j]? = some n → n.sState = .released →
      ∃ n', t.taskNodes[j]? = some n' ∧ n'.sState = .released := by
  cases a with
  | schedule calls =>
    rw [Scheduler.step] at h
    split_ifs at h with hperm
    cases h
    exact hs.schedule hdep (isPerm_iff.mp hperm)
  | updatePods pods =>
    cases h
    exact ⟨⟨hs.node,hs.bound⟩,fun _ n hn hreleased => ⟨n,hn,hreleased⟩⟩
  | addTasks names =>
    cases h
    exact ⟨hs.addTasks names,fun _ n hn hreleased => ⟨n,addTasks_lookup hn,hreleased⟩⟩
  | stopTask =>
    cases h
    refine ⟨hs.stopTask,fun _ n hn hreleased =>
      ⟨{ n with deletionTimestamp := true },?_,hreleased⟩⟩
    rw [Scheduler.stopTask,getElem?_map,hn]
    rfl

structure Fresh (s : Scheduler) : Prop where
  node : ∀ (j : Nat) (n : TaskNode), s.taskNodes[j]? = some n → n.sState ≠ .released ∧
    (n.ip = "" → n.status = none ∧ n.sState = .initial ∧ ¬ Started s.log j)
  bound : ∀ j, Started s.log j → j < s.taskNodes.length

theorem Fresh.sound (h : Fresh s) : Sound s := by
  refine ⟨fun j n hn => ?_,h.bound⟩
  obtain ⟨hstate,hunplaced⟩ := h.node j n hn
  exact ⟨fun hip => ⟨(hunplaced hip).1,(hunplaced hip).2.2⟩,fun hip => .inl (hunplaced hip).2.1,
    fun h => absurd h hstate,fun h => absurd h hstate⟩

theorem Fresh.recoverPod (h : Fresh s) (tasks : GoMap Task) {pod : Pod} (hpod : pod.podIP ≠ "") :
    Fresh (s.recoverPod tasks pod) := by
  rw [Scheduler.recoverPod]
  split
  · exact h
  rename_i task _
  split
  · exact h
  rename_i i hi
  have hlt := mem_of_find?_eq_some hi
  rw [mem_reverse,mem_range] at hlt
  have hstarts (j : Nat) (hj : Started (s.log ++ [.adopt i pod.podIP]) j) :
      Started s.log j ∨ j = i := by
    rcases started_append.mp hj with hold | ⟨e,he,hstarts⟩
    · exact .inl hold
    · rw [mem_singleton.mp he] at hstarts
      exact .inr (beq_iff_eq.mp hstarts).symm
  constructor
  · intro j n hn
    dsimp only at hn ⊢
    rw [getElem?_modify] at hn
    obtain ⟨m,hm,rfl⟩ := Option.map_eq_some_iff.mp hn
    obtain ⟨hstate,hunplaced⟩ := h.node j m hm
    by_cases hij : i = j
    · rw [if_pos hij]
      refine ⟨?_,fun hip => absurd hip hpod⟩
      dsimp only
      split
      · exact nofun
      · exact hstate
    · rw [if_neg hij]
      refine ⟨hstate,fun hip => ?_⟩
      obtain ⟨hstatus,hinitial,hnone⟩ := hunplaced hip
      refine ⟨hstatus,hinitial,fun hj => ?_⟩
      rcases hstarts j hj with hold | hsame
      · exact hnone hold
      · exact hij hsame.symm
  · intro j hj
    rw [length_modify]
    rcases hstarts j hj with hold | rfl
    · exact h.bound j hold
    · exact hlt

theorem Fresh.recoverPods (h : Fresh s) (tasks : GoMap Task) {pods : List Pod}
    (hpods : ∀ pod ∈ pods, pod.podIP ≠ "") : Fresh (pods.foldl (Scheduler.recoverPod tasks) s) := by
  induction pods generalizing s with
  | nil => exact h
  | cons pod pods ih =>
    obtain ⟨hpod,hrest⟩ := forall_mem_cons.mp hpods
    exact ih (h.recoverPod tasks hpod) hrest

theorem newTaskScheduler_fresh {names : List String} {pods : List Pod}
    (h : newTaskScheduler names pods policy calls = some s) : Fresh s := by
  rw [newTaskScheduler] at h
  split_ifs at h
  cases h
  have hnone (j : Nat) : ¬ Started ([] ++ calls.map GetCall.event) j := fun hj =>
    have hempty := started_of_quiet (calls_quiet calls j) hj
    absurd hempty (by simp [Started])
  refine Fresh.recoverPods ⟨fun j n hn => ?_,fun j hj => absurd hj (hnone j)⟩ _ fun pod hpod => ?_
  · obtain ⟨name,_,rfl⟩ := mem_map.mp (mem_of_getElem? hn)
    exact ⟨nofun,fun _ => ⟨rfl,rfl,hnone j⟩⟩
  · exact of_decide_eq_true (mem_filter.mp hpod).2

def Created (s : Scheduler) : Prop :=
  ∃ names pods policy calls, newTaskScheduler names pods policy calls = some s

def Reachable : Scheduler → Prop :=
  Runs.Reach (fun s a t => s.step a = some t) Scheduler.Dependable Created

theorem Reachable.sound (h : Reachable s) : Sound s := by
  refine Runs.Reach.invariant ?_ ?_ h
  · rintro s ⟨names,pods,policy,calls,hnew⟩
    exact (newTaskScheduler_fresh hnew).sound
  · intro s a t hs hdep hstep
    exact (hs.step hdep hstep).1

theorem released_when_task_gone {s : Scheduler} (h : Reachable s) :
    (∀ (j : Nat) (n : TaskNode), s.taskNodes[j]? = some n → n.isResourceReleased = true →
      Started s.log j → Confirmed s.log j n.ip) ∧
    ∀ (a : Action) (t : Scheduler), s.Dependable a → s.step a = some t →
      ∀ (j : Nat) (n : TaskNode), s.taskNodes[j]? = some n → n.isResourceReleased = true →
        ∃ n', t.taskNodes[j]? = some n' ∧ n'.isResourceReleased = true := by
  refine ⟨fun j n hn hreleased hstarted => ?_,fun a t hdep hstep j n hn hreleased => ?_⟩
  · exact (h.sound.node j n hn).confirmed (beq_iff_eq.mp hreleased) hstarted
  · obtain ⟨n',hn',hstate⟩ := (h.sound.step hdep hstep).2 j n hn (beq_iff_eq.mp hreleased)
    exact ⟨n',hn',beq_iff_eq.mpr hstate⟩

instance (s : Scheduler) (a : Action) : Decidable (s.Dependable a) := by
  unfold Dependable
  induction a using Action.casesOn <;> infer_instance

def samplePods : List Pod := [⟨"pool-a","10.0.0.1"⟩]

def runningTask : Task := ⟨"sbx-0",false,some ⟨true,none⟩,none⟩

def sampleCall (answer : GetAnswer) : List GetCall := [⟨"10.0.0.1",answer⟩]

def stopRun : List Action :=
  [.schedule [],.stopTask,.schedule (sampleCall (.returned (some runningTask))),
    .schedule (sampleCall (.returned none))]

theorem released_when_task_gone_stopped :
    ∃ s n, Reachable s ∧ s.taskNodes[0]? = some n ∧ n.isResourceReleased = true ∧
      Started s.log 0 ∧ Confirmed s.log 0 n.ip := by
  obtain ⟨s₀,hnew,s,hs,n,hn,hreleased,hlog⟩ :
      ∃ s₀ ∈ newTaskScheduler ["sbx-0"] samplePods .retain (sampleCall (.returned none)),
        ∃ s ∈ Runs.follow (fun s a => if s.Dependable a then s.step a else none) s₀ stopRun,
        ∃ n ∈ s.taskNodes[0]?, n.isResourceReleased = true ∧ s.log.any (Event.starts 0) = true := by
    decide
  have hreach : Reachable s :=
    Runs.Reach.follow_checked (Runs.Reach.start ⟨_,_,_,_,hnew⟩) hs
  have hstarted : Started s.log 0 := any_eq_true.mp hlog
  exact ⟨s,n,hreach,hn,hreleased,hstarted,
    (released_when_task_gone hreach).1 0 n hn hreleased hstarted⟩

def lostRun : List Action := [.schedule [],.stopTask,.schedule (sampleCall .failed)]

def firstReleased (s : Scheduler) : Option Bool := s.taskNodes[0]?.map TaskNode.isResourceReleased

theorem released_by_failed_get :
    ∃ s₀ s t, newTaskScheduler ["sbx-0"] samplePods .retain (sampleCall (.returned none)) =
        some s₀ ∧
      Runs.follow Scheduler.step s₀ lostRun = some s ∧
      s.step (.schedule (sampleCall (.returned (some runningTask)))) = some t ∧
      firstReleased s = some true ∧ Started s.log 0 ∧ ¬ Confirmed s.log 0 "10.0.0.1" ∧
      firstReleased t = some false := by
  obtain ⟨s₀,hnew,s,hs,t,ht,hreleased,hstarted,hconfirmed,hlater⟩ :
      ∃ s₀ ∈ newTaskScheduler ["sbx-0"] samplePods .retain (sampleCall (.returned none)),
        ∃ s ∈ Runs.follow step s₀ lostRun,
        ∃ t ∈ s.step (.schedule (sampleCall (.returned (some runningTask)))),
          firstReleased s = some true ∧ s.log.any (Event.starts 0) = true ∧
            ¬ Confirmed s.log 0 "10.0.0.1" ∧ firstReleased t = some false := by
    decide
  exact ⟨s₀,s,t,hnew,hs,ht,hreleased,any_eq_true.mp hstarted,hconfirmed,hlater⟩

end OpenSandbox.Kubernetes.TaskScheduler
