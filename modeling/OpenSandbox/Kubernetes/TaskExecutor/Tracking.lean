import OpenSandbox.Kubernetes.TaskExecutor.Model

namespace OpenSandbox.Kubernetes.TaskExecutor

open List Option AList State

structure Grows (s t : State) : Prop where
  tasks : ∀ name ∈ s.tasks, name ∈ t.tasks
  stored : ∀ name ∈ s.stored, name ∈ t.stored
  alive : ∀ name ∈ t.alive, name ∈ s.alive ∨ name ∈ t.tasks
  backed : ∀ name ∈ t.tasks, name ∈ s.tasks ∨ name ∈ t.stored

theorem Grows.same {s t : State} (htasks : t.tasks = s.tasks) (hstored : t.stored = s.stored)
    (halive : ∀ name ∈ t.alive, name ∈ s.alive) : Grows s t where
  tasks := fun _ h => htasks ▸ h
  stored := fun _ h => hstored ▸ h
  alive := fun name h => .inl (halive name h)
  backed := fun _ h => .inl (htasks ▸ h)

theorem Grows.refl (s : State) : Grows s s := .same rfl rfl fun _ h => h

theorem Grows.trans {s t u : State} (h : Grows s t) (h' : Grows t u) : Grows s u where
  tasks := fun name hn => h'.tasks name (h.tasks name hn)
  stored := fun name hn => h'.stored name (h.stored name hn)
  alive := by
    intro name hn
    rcases h'.alive name hn with ht | hu
    · exact (h.alive name ht).imp id (h'.tasks name)
    · exact .inr hu
  backed := by
    intro name hn
    rcases h'.backed name hn with ht | hu
    · exact (h.backed name ht).imp id (h'.stored name)
    · exact .inr hu

variable {s : State} {name : String}

theorem mem_write (task : Task) (ok : Bool) {other : String} (h : other ∈ s.stored) :
    other ∈ (s.write name task ok).stored := by
  unfold write
  cases ok with
  | true => exact (mem_insert _).mpr (.inr h)
  | false => exact h

theorem Grows.track {s t : State} {name : String} {task : Task}
    (hin : name ∈ s.tasks ∨ name ∈ t.stored) (htasks : t.tasks = s.tasks.insert name task)
    (hstored : ∀ other ∈ s.stored, other ∈ t.stored)
    (halive : ∀ other ∈ t.alive, other ∈ name :: s.alive) : Grows s t where
  tasks := fun _ hn => htasks ▸ (mem_insert _).mpr (.inr hn)
  stored := hstored
  alive := by
    intro other hn
    rcases mem_cons.mp (halive other hn) with rfl | hn
    · exact .inr (htasks ▸ (mem_insert _).mpr (.inl rfl))
    · exact .inl hn
  backed := by
    intro other hn
    rcases (mem_insert _).mp (htasks ▸ hn) with rfl | hn
    · exact hin
    · exact .inl hn

theorem Grows.update {s : State} {name : String} (task : Task) (ok : Bool) (h : name ∈ s.tasks) :
    Grows s { s.write name task ok with tasks := s.tasks.insert name task } :=
  .track (.inl h) rfl (fun _ hn => mem_write task ok hn) fun _ hn => mem_cons_of_mem _ hn

theorem mem_of_lookup {V : Type} {m : GoMap V} {v : V} (h : m.lookup name = some v) : name ∈ m :=
  lookup_isSome.mp (by rw [h]; rfl)

section

variable (s : State) (name : String)

theorem Grows.note (status : Option Status) :
    Grows s (s.note name status) := by
  cases status with
  | none => exact .refl s
  | some status => exact .same rfl rfl fun _ h => h

theorem Grows.goto (pc : StopPc) : Grows s (s.goto name pc) :=
  .same rfl rfl fun _ h => h

theorem Grows.ends : Grows s (s.ends name) :=
  .same rfl rfl fun _ h => (mem_filter.mp h).1

theorem Grows.launched (postStop : Bool) (launch : Launch) (hstored : name ∈ s.stored) :
    Grows s (s.launched name postStop launch) := by
  unfold State.launched
  cases launch.startError with
  | some error =>
    cases launch.runsAnyway with
    | true =>
      exact .track (.inr (mem_write _ _ hstored)) rfl (fun _ h => mem_write _ _ h) fun _ h => h
    | false =>
      exact .track (.inr (mem_write _ _ hstored)) rfl (fun _ h => mem_write _ _ h)
        fun _ h => mem_cons_of_mem _ h
  | none =>
    cases launch.inspect with
    | none => exact .track (.inr hstored) rfl (fun _ h => h) fun _ h => h
    | some status =>
      exact .track (.inr (mem_write _ _ hstored)) rfl (fun _ h => mem_write _ _ h) fun _ h => h

theorem Grows.createTask (postStop : Bool) (launch : Launch) :
    Grows s (s.createTask name postStop launch) := by
  fun_cases createTask
  · exact .refl s
  · exact .refl s
  · exact .refl s
  have hfirst : Grows s { s with stored := s.stored.insert name (Task.created postStop) } :=
    ⟨fun _ h => h,fun _ h => (mem_insert _).mpr (.inr h),fun _ h => .inl h,fun _ h => .inl h⟩
  exact hfirst.trans (.launched _ name postStop launch ((mem_insert _).mpr (.inl rfl)))

theorem Grows.defaultPending : Grows s (s.defaultPending name) := by
  fun_cases defaultPending
  · exact .refl s
  · exact Grows.update (s := s) _ false (mem_of_lookup ‹_›)

theorem Grows.create (postStop : Bool) (launch : Launch) :
    Grows s (s.create name postStop launch) := by
  unfold State.create
  split
  · exact Grows.refl s
  · exact (Grows.createTask s name postStop launch).trans (Grows.defaultPending _ name)

end

theorem Grows.softDelete (s : State) (updated : String → Bool) (name : String) :
    Grows s (s.softDelete updated name) := by
  fun_cases softDelete
  · exact .refl s
  · exact .refl s
  · exact .update _ _ (mem_of_lookup ‹_›)

theorem Grows.foldl {α : Type} {f : State → α → State} (hf : ∀ s a, Grows s (f s a))
    (as : List α) (s : State) : Grows s (as.foldl f s) := by
  induction as generalizing s with
  | nil => exact Grows.refl s
  | cons a as ih => exact (hf s a).trans (ih (f s a))

theorem Grows.sync (s : State) (input : SyncInput) : Grows s (s.sync input) :=
  (Grows.foldl (fun s name => Grows.softDelete s input.updated name) _ s).trans
    (Grows.foldl (fun s (entry : String × Bool) =>
      Grows.createTask s entry.1 entry.2 (input.launch entry.1)) _ _)

theorem Grows.persistStopFailure (s : State) (name reason message : String) (updated : Bool) :
    Grows s (s.persistStopFailure name reason message updated) := by
  fun_cases persistStopFailure
  · exact .refl s
  · exact .update _ _ (mem_of_lookup ‹_›)

theorem Grows.persistPostStopSuccess (s : State) (name : String) (stopped : Option Status)
    (updated : Bool) : Grows s (s.persistPostStopSuccess name stopped updated) := by
  fun_cases persistPostStopSuccess
  · exact .refl s
  · exact .refl s
  · exact .update _ _ (mem_of_lookup ‹_›)

variable {task : Task}

theorem Grows.persistObserved (s : State) (input : ReconcileInput) (name : String)
    (observed : Status) (h : name ∈ s.tasks) :
    Grows s (s.persistObserved input name task observed) := by
  unfold State.persistObserved
  split
  · exact Grows.refl s
  · exact Grows.update _ _ h

def Action.removes : Action → Bool
  | .reconcile _ | .restart _ _ => true
  | _ => false

theorem step_grows {t : State} {a : Action} (ha : a.removes = false) (h : step s a = some t) :
    Grows s t := by
  revert h
  fun_cases TaskExecutor.step s a <;> intro h <;> cases h
  · exact .create s _ _ _
  · exact .sync s _
  · exact .softDelete s _ _
  · cases ha
  · rename_i ended _ _ _ _ _
    cases ended
    · exact .goto _ _ _
    · exact (Grows.ends s _).trans (.goto _ _ _)
  · rename_i ended _ _ _
    cases ended
    · exact .goto _ _ _
    · exact (Grows.ends s _).trans (.goto _ _ _)
  · exact (Grows.persistStopFailure _ _ _ _ _).trans (.goto _ _ _)
  · exact (Grows.note _ _ _).trans (.goto _ _ _)
  · exact (Grows.persistPostStopSuccess _ _ _ _).trans (.goto _ _ _)
  · exact .same rfl rfl fun _ h => h
  · exact .ends s _
  · cases ha

theorem merged_state (persisted recovered : Status) :
    (mergePostStopFinishedStatus persisted recovered).state = recovered.state := by
  unfold mergePostStopFinishedStatus
  split <;> rfl

variable {status : Status}

theorem observe_state (h : isTerminalState task.status.state = false) :
    (observeTask task status).state = status.state := by
  have hkeep : shouldPreservePersistedStatus task.status
      (mergePostStopFinishedStatus task.status status) = false := by
    simp [shouldPreservePersistedStatus,h]
  simp [observeTask,hkeep,merged_state]

def Agrees (s : State) : Action → Prop
  | .reconcile input => ∀ name task, s.tasks.lookup name = some task →
      ∀ status, input.inspect name = some status → task.deleting = true →
      isTerminalState task.status.state = true → isTerminalState status.state = true
  | .restart cut input => input.listed = true ∧
      ∀ name task, (s.interrupt cut).stored.lookup name = some task →
        input.readable name = true ∧ ∃ status, input.inspect name = some status ∧
          (task.deleting = false → task.status.state = .pending ∨ task.status.state = .running →
            status.state ≠ .pending)
  | _ => True

def Honest (s : State) : Action → Prop
  | .reconcile input => ∀ name ∈ s.alive, ∀ status, input.inspect name = some status →
      isTerminalState status.state = false
  | .restart cut input => ∀ name ∈ (s.interrupt cut).alive, ∀ status,
      input.inspect name = some status → isTerminalState status.state = false
  | _ => True

structure Tracked (s : State) : Prop where
  alive : ∀ name ∈ s.alive, name ∈ s.tasks
  backed : ∀ name ∈ s.tasks, name ∈ s.stored

theorem Tracked.grow {s t : State} (h : Tracked s) (hg : Grows s t) : Tracked t where
  alive := by
    intro name hn
    rcases hg.alive name hn with hn | hn
    · exact hg.tasks name (h.alive name hn)
    · exact hn
  backed := by
    intro name hn
    rcases hg.backed name hn with hn | hn
    · exact hg.stored name (h.backed name hn)
    · exact hn

def Finished (inspect : String → Option Status) (s : State) (name : String) : Prop :=
  ∃ status, inspect name = some status ∧ isTerminalState status.state = true ∧
    s.inspected.lookup name = some status.state

structure Scanning (s : State) (input : ReconcileInput) (acc : State × List String)
    (rest : List String) : Prop where
  grows : Grows s acc.1
  alive : acc.1.alive = s.alive
  unvisited : ∀ name ∈ rest, acc.1.tasks.lookup name = s.tasks.lookup name
  finals : ∀ name ∈ acc.2, name ∉ rest ∧ Finished input.inspect acc.1 name

variable {input : ReconcileInput}

theorem persistObserved_other {other : String} {observed : Status} (hne : other ≠ name) :
    (s.persistObserved input name task observed).tasks.lookup other = s.tasks.lookup other := by
  unfold persistObserved
  split
  · rfl
  · exact lookup_insert_ne hne

theorem persistObserved_frame (s : State) (input : ReconcileInput) (name : String) (task : Task)
    (observed : Status) :
    (s.persistObserved input name task observed).alive = s.alive ∧
      (s.persistObserved input name task observed).inspected = s.inspected := by
  unfold persistObserved
  split <;> exact ⟨rfl,rfl⟩

variable {rest : List String}

theorem Scanning.next {acc : State × List String} (hnd : (name :: rest).Nodup)
    (hagrees : Agrees s (.reconcile input)) (h : Scanning s input acc (name :: rest)) :
    Scanning s input (State.reconcileTask input acc name) rest := by
  obtain ⟨hnot,_⟩ := nodup_cons.mp hnd
  have hskip : Scanning s input acc rest :=
    ⟨h.grows,h.alive,fun n hn => h.unvisited n (mem_cons_of_mem name hn),
      fun n hn => ⟨fun hr => (h.finals n hn).1 (mem_cons_of_mem name hr),(h.finals n hn).2⟩⟩
  obtain ⟨u,finals⟩ := acc
  unfold reconcileTask
  dsimp only
  split
  · rename_i task status htask hstatus
    have hbefore : s.tasks.lookup name = some task := by
      rwa [← h.unvisited name mem_cons_self]
    generalize hv : (u.note name (some status)).considerStop name task (observeTask task status) = v
    have hfields : v.tasks = u.tasks ∧ v.stored = u.stored ∧ v.alive = u.alive ∧
        v.inspected = u.inspected.insert name status.state := by
      rw [← hv]
      unfold considerStop
      split <;> exact ⟨rfl,rfl,rfl,rfl⟩
    obtain ⟨htasks,hstored,halive,hinspected⟩ := hfields
    have huv : Grows u v := .same htasks hstored fun n hn => halive ▸ hn
    have hmem : name ∈ v.tasks := by
      rw [htasks]
      exact mem_of_lookup htask
    have hframe := persistObserved_frame v input name task (observeTask task status)
    refine ⟨h.grows.trans (huv.trans (Grows.persistObserved v input name _ hmem)),?_,?_,?_⟩
    · change (v.persistObserved input name task (observeTask task status)).alive = s.alive
      rw [hframe.1,halive]
      exact h.alive
    · intro n hn
      have hne : n ≠ name := by
        rintro rfl
        exact hnot hn
      change (v.persistObserved input name task (observeTask task status)).tasks.lookup n = _
      rw [persistObserved_other hne,htasks]
      exact h.unvisited n (mem_cons_of_mem name hn)
    have hkept : ∀ n, n ≠ name → Finished input.inspect u n →
        Finished input.inspect (v.persistObserved input name task (observeTask task status)) n := by
      rintro n hne ⟨st,hst,hterm,hlook⟩
      refine ⟨st,hst,hterm,?_⟩
      rwa [hframe.2,hinspected,lookup_insert_ne hne]
    have hold : ∀ n ∈ finals, n ∉ rest ∧
        Finished input.inspect (v.persistObserved input name task (observeTask task status)) n := by
      intro n hn
      obtain ⟨hnr,hfin⟩ := h.finals n hn
      rw [mem_cons,not_or] at hnr
      exact ⟨hnr.2,hkept n hnr.1 hfin⟩
    intro n hn
    dsimp only at hn ⊢
    split at hn
    · rename_i hfinal
      rcases mem_append.mp hn with hn | hn
      · exact hold n hn
      rw [mem_singleton] at hn
      subst hn
      refine ⟨hnot,status,hstatus,?_,?_⟩
      · unfold shouldFinalizeTaskDeletion at hfinal
        simp only [Bool.and_eq_true] at hfinal
        obtain ⟨⟨⟨hdel,hterm⟩,_⟩,_⟩ := hfinal
        cases hkept : isTerminalState task.status.state with
        | true => exact hagrees n task hbefore status hstatus hdel hkept
        | false => rwa [observe_state hkept] at hterm
      · rw [hframe.2,hinspected,lookup_insert]
    · exact hold n hn
  · exact hskip

theorem Scanning.run (hagrees : Agrees s (.reconcile input)) (hnd : rest.Nodup)
    {acc : State × List String} (h : Scanning s input acc rest) :
    Scanning s input (rest.foldl (State.reconcileTask input) acc) [] := by
  induction rest generalizing acc with
  | nil => exact h
  | cons name rest ih => exact ih (nodup_cons.mp hnd).2 (h.next hnd hagrees)

structure Deleting (s t : State) (finals : List String) : Prop where
  alive : t.alive = s.alive
  inspected : t.inspected = s.inspected
  tasks : ∀ name ∈ s.tasks, name ∉ finals → name ∈ t.tasks
  backed : (∀ name ∈ s.tasks, name ∈ s.stored) → ∀ name ∈ t.tasks, name ∈ t.stored

theorem deleteFinalized_run (input : ReconcileInput) (finals : List String) (s : State) :
    Deleting s (finals.foldl (State.deleteFinalized input) s) finals := by
  induction finals generalizing s with
  | nil => exact ⟨rfl,rfl,fun _ h _ => h,fun h => h⟩
  | cons name finals ih =>
    obtain ⟨halive,hinspected,htasks,hbacked⟩ := ih (deleteFinalized input s name)
    rw [foldl_cons]
    have hone : Deleting s (deleteFinalized input s name) [name] := by
      unfold deleteFinalized
      split
      · refine ⟨rfl,rfl,fun n hn hne => ?_,fun hb n hn => ?_⟩
        · rw [mem_singleton] at hne
          exact mem_erase.mpr ⟨hne,hn⟩
        · obtain ⟨hne,hn⟩ := mem_erase.mp hn
          exact mem_erase.mpr ⟨hne,hb n hn⟩
      · exact ⟨rfl,rfl,fun _ h _ => h,fun h => h⟩
    refine ⟨halive.trans hone.alive,hinspected.trans hone.inspected,fun n hn hnot => ?_,
      fun hb => hbacked (hone.backed hb)⟩
    rw [mem_cons,not_or] at hnot
    exact htasks n (hone.tasks n hn (fun h => hnot.1 (mem_singleton.mp h))) hnot.2

def Gone (s : State) (name : String) : Prop :=
  ∃ state, s.inspected.lookup name = some state ∧ state ≠ .running ∧ state ≠ .pending

theorem Finished.gone {inspect : String → Option Status} (h : Finished inspect s name) :
    Gone s name := by
  obtain ⟨status,_,hterm,hlook⟩ := h
  refine ⟨status.state,hlook,?_,?_⟩
  · rintro heq
    rw [heq] at hterm
    cases hterm
  · rintro heq
    rw [heq] at hterm
    cases hterm

theorem reconcile_tracked (hnd : input.order.Nodup) (hagrees : Agrees s (.reconcile input)) :
    (Tracked s → Honest s (.reconcile input) → Tracked (s.reconcileTasks input)) ∧
      ∀ name ∈ s.tasks, name ∉ (s.reconcileTasks input).tasks →
        Gone (s.reconcileTasks input) name := by
  have hscan : Scanning s input (input.order.foldl (reconcileTask input) (s, [])) [] :=
    Scanning.run hagrees hnd ⟨Grows.refl s,rfl,fun _ _ => rfl,nofun⟩
  obtain ⟨hgrows,halive,_,hfinals⟩ := hscan
  unfold reconcileTasks
  generalize hacc : input.order.foldl (reconcileTask input) (s, []) = acc at *
  obtain ⟨u,finals⟩ := acc
  have hdel := deleteFinalized_run input finals u
  have hgone : ∀ name, Finished input.inspect u name →
      Finished input.inspect (finals.foldl (deleteFinalized input) u) name := by
    rintro name ⟨status,hstatus,hterm,hlook⟩
    exact ⟨status,hstatus,hterm,by rw [hdel.inspected]; exact hlook⟩
  refine ⟨fun h hhonest => ?_,fun name hn hnot => ?_⟩
  · have htracked := h.grow hgrows
    refine ⟨fun name hn => ?_,hdel.backed htracked.backed⟩
    rw [hdel.alive] at hn
    refine hdel.tasks name (htracked.alive name hn) fun hfin => ?_
    obtain ⟨status,hstatus,hterm,_⟩ := (hfinals name hfin).2
    rw [halive] at hn
    rw [hhonest name hn status hstatus] at hterm
    cases hterm
  · by_cases hfin : name ∈ finals
    · exact (hgone name (hfinals name hfin).2).gone
    · exact absurd (hdel.tasks name (hgrows.tasks name hn) hfin) hnot

structure Recovering (s : State) (input : Recovery) (u : State) (rest : List String) : Prop where
  alive : u.alive = s.alive
  unvisited : ∀ name ∈ rest, u.stored.lookup name = s.stored.lookup name
  visited : ∀ name ∈ s.stored, name ∈ rest ∨ name ∈ u.tasks ∨ Finished input.inspect u name
  backed : ∀ name ∈ u.tasks, name ∉ rest ∧ name ∈ u.stored

theorem drop_terminal
    (hagree : task.deleting = false → task.status.state = .pending ∨ task.status.state = .running →
      status.state ≠ .pending)
    (h : shouldDropRecoveredTask task task.status.state (observeTask task status).state = true) :
    isTerminalState status.state = true := by
  unfold shouldDropRecoveredTask at h
  split at h
  · cases h
  rename_i hdel
  split_ifs at h with hactive
  have hactive : task.status.state = .pending ∨ task.status.state = .running := by
    by_contra hno
    rw [not_or] at hno
    exact hactive hno
  have hterm : isTerminalState task.status.state = false := by
    rcases hactive with heq | heq <;> rw [heq] <;> rfl
  have hne := hagree (Bool.eq_false_of_not_eq_true hdel) hactive
  rw [observe_state hterm] at h
  cases hstate : status.state with
  | pending => exact absurd hstate hne
  | failed | notFound | succeeded => rfl
  | _ =>
    rw [hstate] at h
    cases h

theorem Recovering.next {u : State} {input : Recovery} (hnd : (name :: rest).Nodup)
    (htask : s.stored.lookup name = some task) (hread : input.readable name = true)
    (hstatus : input.inspect name = some status)
    (hagree : task.deleting = false → task.status.state = .pending ∨ task.status.state = .running →
      status.state ≠ .pending) (h : Recovering s input u (name :: rest)) :
    Recovering s input (State.recoverTask input u name) rest := by
  obtain ⟨hnot,_⟩ := nodup_cons.mp hnd
  have hlook : u.stored.lookup name = some task := by
    rwa [h.unvisited name mem_cons_self]
  have hother : ∀ {n : String}, n ∈ rest → n ≠ name := by
    rintro n hn rfl
    exact hnot hn
  have hkept : ∀ {t : State} {n : String}, n ≠ name →
      t.inspected = u.inspected.insert name status.state →
      Finished input.inspect u n → Finished input.inspect t n := by
    rintro t n hne ht ⟨st,hst,hterm,hl⟩
    exact ⟨st,hst,hterm,by rw [ht,lookup_insert_ne hne]; exact hl⟩
  unfold recoverTask
  rw [hlook,hstatus]
  dsimp only
  rw [hread]
  split
  · rename_i hno
    cases hno
  split
  · rename_i hdrop
    have hterm := drop_terminal hagree hdrop
    refine ⟨h.alive,fun n hn => ?_,fun n hn => ?_,fun n hn => ?_⟩
    · have hrest := h.unvisited n (mem_cons_of_mem name hn)
      rw [← hrest]
      cases input.erased name with
      | true => exact lookup_erase_ne (hother hn)
      | false => rfl
    · by_cases hne : n = name
      · subst hne
        exact .inr (.inr ⟨status,hstatus,hterm,lookup_insert _⟩)
      · rcases h.visited n hn with hr | hr | hr
        · exact .inl ((mem_cons.mp hr).resolve_left hne)
        · exact .inr (.inl hr)
        · exact .inr (.inr (hkept hne rfl hr))
    · obtain ⟨hnr,hst⟩ := h.backed n hn
      rw [mem_cons,not_or] at hnr
      refine ⟨hnr.2,?_⟩
      change n ∈ (if input.erased name = true then u.stored.erase name else u.stored)
      split
      · exact mem_erase.mpr ⟨hnr.1,hst⟩
      · exact hst
  refine ⟨h.alive,fun n hn => h.unvisited n (mem_cons_of_mem name hn),fun n hn => ?_,fun n hn => ?_⟩
  · by_cases hne : n = name
    · subst hne
      exact .inr (.inl ((mem_insert _).mpr (.inl rfl)))
    · rcases h.visited n hn with hr | hr | hr
      · exact .inl ((mem_cons.mp hr).resolve_left hne)
      · exact .inr (.inl ((mem_insert _).mpr (.inr hr)))
      · exact .inr (.inr (hkept hne rfl hr))
  · rcases (mem_insert _).mp hn with rfl | hn
    · exact ⟨hnot,mem_of_lookup hlook⟩
    · obtain ⟨hnr,hst⟩ := h.backed n hn
      rw [mem_cons,not_or] at hnr
      exact ⟨hnr.2,hst⟩

theorem Recovering.run {input : Recovery} (hnd : rest.Nodup)
    (hall : ∀ name ∈ rest, ∃ task, s.stored.lookup name = some task ∧
      input.readable name = true ∧ ∃ status, input.inspect name = some status ∧
        (task.deleting = false → task.status.state = .pending ∨ task.status.state = .running →
          status.state ≠ .pending)) {u : State} (h : Recovering s input u rest) :
    Recovering s input (rest.foldl (State.recoverTask input) u) [] := by
  induction rest generalizing u with
  | nil => exact h
  | cons name rest ih =>
    obtain ⟨task,htask,hread,status,hstatus,hagree⟩ := hall name mem_cons_self
    exact ih (nodup_cons.mp hnd).2 (fun n hn => hall n (mem_cons_of_mem name hn))
      (h.next hnd htask hread hstatus hagree)

theorem interrupt_stored (h : Tracked s) (cut : Option Interrupted) :
    ∀ name ∈ (s.interrupt cut).alive, name ∈ (s.interrupt cut).stored := by
  have hbefore : ∀ name ∈ s.alive, name ∈ s.stored := fun name hn => h.backed name (h.alive name hn)
  cases cut with
  | none => exact hbefore
  | some cut =>
    unfold interrupt
    dsimp only
    split
    · exact hbefore
    intro name hn
    cases hstarted : cut.started with
    | true =>
      simp only [hstarted,if_true] at hn
      rcases mem_cons.mp hn with rfl | hn
      · exact (mem_insert _).mpr (.inl rfl)
      · exact (mem_insert _).mpr (.inr (hbefore name hn))
    | false =>
      simp only [hstarted,Bool.false_eq_true,if_false] at hn
      exact (mem_insert _).mpr (.inr (hbefore name hn))

theorem recoverTasks_run {input : Recovery} (hlisted : input.listed = true)
    (hall : ∀ name task, s.stored.lookup name = some task →
      input.readable name = true ∧ ∃ status, input.inspect name = some status ∧
        (task.deleting = false → task.status.state = .pending ∨ task.status.state = .running →
          status.state ≠ .pending)) : Recovering s input (s.recoverTasks input) [] := by
  unfold recoverTasks
  rw [hlisted]
  refine Recovering.run s.stored.keys_nodup ?_ ⟨rfl,fun _ _ => rfl,fun name hn => ?_,?_⟩
  · intro name hn
    obtain ⟨task,htask⟩ := isSome_iff_exists.mp (lookup_isSome.mpr (mem_keys.mpr hn))
    exact ⟨task,htask,hall name task htask⟩
  · exact .inl (mem_keys.mp hn)
  · intro name hn
    exact absurd hn (notMem_empty name)

theorem restart_tracked {cut : Option Interrupted} {input : Recovery}
    (hagrees : Agrees s (.restart cut input)) :
    (Tracked s → Honest s (.restart cut input) → Tracked ((s.interrupt cut).recoverTasks input)) ∧
      ∀ name ∈ (s.interrupt cut).stored, name ∉ ((s.interrupt cut).recoverTasks input).tasks →
        Gone ((s.interrupt cut).recoverTasks input) name := by
  have hrun := recoverTasks_run hagrees.1 hagrees.2
  refine ⟨fun h hhonest => ⟨fun name hn => ?_,fun name hn => (hrun.backed name hn).2⟩,
    fun name hn hnot => ?_⟩
  · rw [hrun.alive] at hn
    rcases hrun.visited name (interrupt_stored h cut name hn) with hr | hr | ⟨_,hstatus,hterm,_⟩
    · cases hr
    · exact hr
    · rw [hhonest name hn _ hstatus] at hterm
      cases hterm
  · rcases hrun.visited name hn with hr | hr | hr
    · cases hr
    · exact absurd hr hnot
    · exact hr.gone

def trackedBefore (s : State) : Action → GoMap Task
  | .restart cut _ => (s.interrupt cut).stored
  | _ => s.tasks

def Removed (s : State) (a : Action) (t : State) (name : String) : Prop :=
  name ∈ trackedBefore s a ∧ name ∉ t.tasks

theorem step_tracked {t : State} {a : Action} (hagrees : Agrees s a) (hstep : step s a = some t) :
    (Tracked s → Honest s a → Tracked t) ∧ ∀ name, Removed s a t name → Gone t name := by
  by_cases ha : a.removes = false
  · have hgrows := step_grows ha hstep
    refine ⟨fun h _ => h.grow hgrows,fun name hremoved => ?_⟩
    have hin : name ∈ s.tasks := by
      cases a with
      | restart cut input => cases ha
      | _ => exact hremoved.1
    exact absurd (hgrows.tasks name hin) hremoved.2
  cases a with
  | reconcile input =>
    obtain ⟨hperm,⟨⟩⟩ := ite_none_right_eq_some.mp hstep
    have hnd : input.order.Nodup := hperm.nodup_iff.mpr s.tasks.keys_nodup
    obtain ⟨htracked,hgone⟩ := reconcile_tracked hnd hagrees
    exact ⟨htracked,fun name hremoved => hgone name hremoved.1 hremoved.2⟩
  | restart cut input =>
    cases hstep
    obtain ⟨htracked,hgone⟩ := restart_tracked hagrees
    exact ⟨htracked,fun name hremoved => hgone name hremoved.1 hremoved.2⟩
  | _ => exact absurd rfl ha

def Reachable (ok : State → Action → Prop) : State → Prop :=
  Runs.Reach (fun s a t => step s a = some t) ok (· = State.initial)

theorem Reachable.tracked (h : Reachable (fun s a => Agrees s a ∧ Honest s a) s) : Tracked s := by
  refine @Runs.Reach.invariant _ _ _ _ _ Tracked ?_ ?_ s h
  · rintro s rfl
    exact ⟨nofun,fun _ hn => absurd hn (notMem_empty _)⟩
  · intro s a t hs hok hstep
    exact (step_tracked hok.1 hstep).1 hs hok.2

theorem tasks_removed_when_ended {s : State} :
    (∀ a t, Agrees s a → step s a = some t → ∀ name, Removed s a t name → Gone t name) ∧
      (Reachable (fun s a => Agrees s a ∧ Honest s a) s → ∀ name ∈ s.alive, name ∈ s.tasks) :=
  ⟨fun _ _ hagrees hstep => (step_tracked hagrees hstep).2,fun h => h.tracked.alive⟩

instance (s : State) (a : Action) : Decidable (Agrees s a) := by
  unfold Agrees
  induction a using Action.casesOn <;> infer_instance

instance (s : State) (a : Action) : Decidable (Honest s a) := by
  unfold Honest
  induction a using Action.casesOn <;> infer_instance

def reports (state : TaskState) : Status := { state, subStatuses := [] }

def seeing (state : TaskState) : ReconcileInput :=
  { order := ["a"]
    inspect := fun _ => some (reports state)
    updated := fun _ => true
    erased := fun _ => true }

def started : Launch :=
  { persisted := true
    startError := none
    runsAnyway := false
    inspect := some (reports .running)
    updated := true }

theorem tasks_removed_when_ended_stopped :
    ∃ s t u, Reachable (fun s a => Agrees s a ∧ Honest s a) s ∧ "a" ∈ s.alive ∧ "a" ∈ s.tasks ∧
      step t (.reconcile (seeing .failed)) = some u ∧
      Removed t (.reconcile (seeing .failed)) u "a" ∧ Gone u "a" := by
  obtain ⟨s,hs,halive,t,_,hagrees,u,hu,hremoved⟩ :
      ∃ s ∈ Runs.follow (fun s a => if Agrees s a ∧ Honest s a then step s a else none)
        initial [.create "a" false started,.delete "a" true,.reconcile (seeing .running)],
        "a" ∈ s.alive ∧ ∃ t ∈ Runs.follow step s [.stopReturns "a" none true,.stopCloses "a"],
          Agrees t (.reconcile (seeing .failed)) ∧
          ∃ u ∈ step t (.reconcile (seeing .failed)), "a" ∈ t.tasks ∧ "a" ∉ u.tasks := by
    decide
  have hreach : Reachable (fun s a => Agrees s a ∧ Honest s a) s :=
    Runs.Reach.follow_checked (.start rfl) hs
  exact ⟨s,t,u,hreach,halive,tasks_removed_when_ended.2 hreach "a" halive,hu,hremoved,
    tasks_removed_when_ended.1 _ u hagrees hu "a" hremoved⟩

theorem running_task_removed : ∃ s t, Reachable Honest s ∧ Honest s (.reconcile (seeing .running)) ∧
      step s (.reconcile (seeing .running)) = some t ∧
      Removed s (.reconcile (seeing .running)) t "a" ∧
      t.inspected.lookup "a" = some .running ∧ "a" ∈ t.alive := by
  obtain ⟨s,hs,hok,t,ht,hremoved⟩ :
      ∃ s ∈ Runs.follow (fun s a => if Honest s a then step s a else none)
        initial [.create "a" false started,.delete "a" true,.reconcile (seeing .running),
          .stopReturns "a" (some ("ProcessStopFailed", "timed out")) false,.stopFails "a" true,
          .stopCloses "a"],
        Honest s (.reconcile (seeing .running)) ∧
          ∃ t ∈ step s (.reconcile (seeing .running)), ("a" ∈ s.tasks ∧ "a" ∉ t.tasks) ∧
            t.inspected.lookup "a" = some .running ∧ "a" ∈ t.alive := by
    decide
  exact ⟨s,t,Runs.Reach.follow_checked (.start rfl) hs,hok,ht,hremoved⟩

end OpenSandbox.Kubernetes.TaskExecutor
