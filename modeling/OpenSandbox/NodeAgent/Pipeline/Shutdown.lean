import OpenSandbox.NodeAgent.Pipeline.Accounting

namespace OpenSandbox.NodeAgent.Pipeline

open Quota List Multiset

def Phase.drained : Phase → Bool
  | .reporting _ | .closing _ | .clearing _ | .stopped _ => true
  | _ => false

namespace Worker

def Empty (w : Worker) : Prop := w.phase.drained = true → w.input = [] ∧ w.items = []

variable {w : Worker} {e : Effect}

theorem Turn.empty {cfg : Config} {v : View} {op : WorkerOp} (h : Turn cfg v w op e)
    (hw : w.Empty) : e.worker.Empty := by
  intro hdrained
  cases h.change with
  | retried => exact hw hdrained
  | proceeded next hphase => cases next <;> cases hdrained
  | queued a rest d hphase | itemDrained x a items hphase =>
    simp only [quietly,hphase] at hdrained
    cases hdrained
  | drained x hphase hitems hinput => exact ⟨hinput,hitems⟩
  | reported x hphase | closedDone x hphase | cleared x hphase => exact hw (by rw [hphase]; rfl)
  | _ => cases hdrained

theorem Turn.running {cfg : Config} {v : View} {op : WorkerOp} (h : Turn cfg v w op e) :
    w.phase.stopped? = false := by
  cases hphase : w.phase with
  | stopped x =>
    cases h <;> simp_all [calling,fallible,succeed,drain]
  | _ => rfl

end Worker

def ClosePhase.pastSends : ClosePhase → Bool
  | .running | .waitingSends => false
  | _ => true

namespace State

structure Closing (s : State) : Prop where
  closed : s.close = .running ∨ s.closed = true
  quiet : s.close.pastSends = true → s.run.active = false
  stopped : s.close = .returned → ∀ w ∈ s.workers, w.phase.stopped? = true

def Emptied (s : State) : Prop := ∀ w ∈ s.workers, w.Empty

def SendsToReader (s : State) (a : Action) : Prop :=
  ∀ i x w, a = .send → s.run = .sending i x → s.workers[i]? = some w → w.phase.drained = false

def sendsToReader (s : State) : Action → Bool
  | .send =>
      match s.run with
      | .sending i _ => (s.workers[i]?).all fun w => !w.phase.drained
      | _ => true
  | _ => true

theorem sendsToReader_sound (s : State) (a : Action) (h : s.sendsToReader a = true) :
    SendsToReader s a := by
  rintro i x w rfl hrun hw
  simp only [sendsToReader,hrun,hw,Option.all_some,Bool.not_eq_true'] at h
  exact h

variable {s t : State} {i : Nat} {w : Worker}

theorem Emptied.set (h : Emptied s) (ht : t.workers = s.workers.set i w) (hw : w.Empty) :
    Emptied t := by
  intro u hu
  rw [ht] at hu
  rcases mem_or_eq_of_mem_set hu with hu | rfl
  · exact h u hu
  · exact hw

variable {cfg : Config}

theorem Emptied.turned {v : View} {op : WorkerOp} {e : Effect} (h : Emptied s)
    (hw : s.workers[i]? = some w) (hturn : w.Turn cfg v op e) : Emptied (s.apply i e) :=
  h.set (apply_frame s i e).2.1 (hturn.empty (h w (mem_of_getElem? hw)))

theorem Emptied.move {a : Action} (h : Emptied s) (hok : SendsToReader s a)
    (hmove : Move cfg s a t) : Emptied t := by
  cases hmove with
  | opened => exact forall_mem_append.mpr ⟨h,forall_mem_singleton.mpr nofun⟩
  | dropped cause i d w hrun hw hpolicy | inputClosed i left drain w hclose hmem hw =>
    exact h.set rfl (h w (mem_of_getElem? hw))
  | sent i x w hrun hw hinput hopen =>
    refine h.set rfl fun hdrained => ?_
    rw [show w.phase.drained = false from hok i x w rfl hrun hw] at hdrained
    cases hdrained
  | aborted _ a | inputReleased _ _ a =>
    have hworkers := (release_frame s a).2.1
    intro w hw
    exact h w (hworkers ▸ hw)
  | retired =>
    unfold retire
    split <;> exact h
  | turned i op w e hw hop hturn => exact h.turned hw hturn
  | cleared i w x hw hfree hphase =>
    rw [clearHandoff_frame]
    have hturn : w.Turn cfg (s.view w) .clear _ := .cleared x hphase
    exact Emptied.turned (s := { s with handoffs := _ }) h hw hturn
  | inputTaken i left w a rest hclose hw hinput =>
    refine h.set rfl fun hdrained => ?_
    rw [(h w (mem_of_getElem? hw) hdrained).1] at hinput
    cases hinput
  | _ => exact h

theorem Closing.running (h : Closing s) (hopen : s.closed = false) : s.close = .running := by
  rcases h.closed with hclose | hclosed
  · exact hclose
  · rw [hopen] at hclosed
    cases hclosed

theorem Closing.early (h : Closing s) (hrun : s.run.active = true) : s.close.pastSends = false := by
  by_contra hpast
  rw [h.quiet (Bool.eq_true_of_not_eq_false hpast)] at hrun
  cases hrun

theorem Closing.of_early {s : State} (hclosed : s.close = .running ∨ s.closed = true)
    (hearly : s.close.pastSends = false) : Closing s where
  closed := hclosed
  quiet hpast := by
    rw [hearly] at hpast
    cases hpast
  stopped hreturned := by
    rw [hreturned] at hearly
    cases hearly

theorem Closing.idle {s t : State} (h : Closing s) (hclose : t.close = s.close)
    (hclosed : t.closed = s.closed) (hrun : t.run.active = false)
    (hworkers : t.workers = s.workers) : Closing t where
  closed := by rw [hclose,hclosed]; exact h.closed
  quiet _ := hrun
  stopped := by rw [hclose,hworkers]; exact h.stopped

theorem Closing.turned {v : View} {op : WorkerOp} {e : Effect} (h : Closing s)
    (hw : s.workers[i]? = some w) (hturn : w.Turn cfg v op e) : Closing (s.apply i e) := by
  obtain ⟨hframe,-,-⟩ := apply_frame s i e
  refine ⟨?_,?_,?_⟩
  · rw [hframe.close,hframe.closed]
    exact h.closed
  · rw [hframe.close,hframe.run]
    exact h.quiet
  intro hreturned
  rw [hframe.close] at hreturned
  have hstopped := h.stopped hreturned w (mem_of_getElem? hw)
  rw [hturn.running] at hstopped
  cases hstopped

theorem Closing.phase {s t : State} (h : Closing s) (hclosed : t.closed = s.closed)
    (hrun : t.run = s.run) (hpast : s.close.pastSends = true) (hnot : t.close ≠ .returned) :
    Closing t where
  closed := by
    rw [hclosed]
    rcases h.closed with hrunning | hclosed
    · rw [hrunning] at hpast
      cases hpast
    · exact .inr hclosed
  quiet _ := by rw [hrun]; exact h.quiet hpast
  stopped hreturned := absurd hreturned hnot

theorem Closing.move {a : Action} (h : Closing s) (hmove : Move cfg s a t) : Closing t := by
  cases hmove with
  | refused | stopped | gaveUp => exact h.idle rfl rfl rfl rfl
  | joined event i hrun hopen hregistry | opened event hrun hopen hregistry =>
    exact .of_early (.inl (h.running hopen)) (by rw [h.running hopen]; rfl)
  | ended i e hrun | reserved i d hrun hfits | dropped cause i d w hrun hw hpolicy
  | sent i x w hrun hw hinput hopen => exact .of_early h.closed (h.early (by rw [hrun]; rfl))
  | aborted i a hrun =>
    obtain ⟨hframe,hworkers,-⟩ := release_frame s a
    exact h.idle hframe.close hframe.closed rfl hworkers
  | retired =>
    unfold retire
    split <;> exact h.idle rfl rfl rfl rfl
  | turned i op w e hw hop hturn => exact h.turned hw hturn
  | cleared i w x hw hfree hphase =>
    rw [clearHandoff_frame]
    have hturn : w.Turn cfg (s.view w) .clear _ := .cleared x hphase
    exact Closing.turned (s := { s with handoffs := _ }) ⟨h.closed,h.quiet,h.stopped⟩ hw hturn
  | closeBegun hclose => exact .of_early (.inr rfl) rfl
  | closeExpired hclose => exact ⟨h.closed,h.quiet,h.stopped⟩
  | sendsDone hclose hidle =>
    refine ⟨.inr ?_,fun _ => hidle,nofun⟩
    rcases h.closed with hrunning | hclosed
    · rw [hrunning] at hclose
      cases hclose
    · exact hclosed
  | inputClosed i left drain w hclose hmem hw =>
    refine h.phase rfl rfl (by rw [hclose]; rfl) ?_
    dsimp only
    split <;> exact nofun
  | inputReleased i left a hclose =>
    obtain ⟨hframe,-,-⟩ := release_frame s a
    exact h.phase hframe.closed hframe.run (by rw [hclose]; rfl) nofun
  | inputTaken _ _ _ _ _ hclose | inputDrained _ _ hclose | inputsClosed _ hclose =>
    exact h.phase rfl rfl (by rw [hclose]; rfl) nofun
  | closeReturned hclose hall =>
    have hpast : s.close.pastSends = true := by rw [hclose]; rfl
    have hlater : Closing { s with close := .waitingWorkers } := h.phase rfl rfl hpast nofun
    exact ⟨.inr (hlater.closed.resolve_left nofun),fun _ => h.quiet hpast,fun _ => hall⟩

theorem held_closed (hclosing : Closing s) (hemptied : Emptied s)
    (hreturned : s.close = .returned) : s.held = 0 := by
  have hrun : s.run.held = 0 := by
    have hidle := hclosing.quiet (by rw [hreturned]; rfl)
    cases hphase : s.run with
    | sending i a =>
      rw [hphase] at hidle
      cases hidle
    | _ => rfl
  have howes : ∀ w ∈ s.workers, w.owes = 0 := by
    intro w hw
    have hstopped := hclosing.stopped hreturned w hw
    cases hphase : w.phase with
    | stopped x =>
      obtain ⟨hinput,hitems⟩ := hemptied w hw (by rw [hphase]; rfl)
      rw [Worker.owes,Worker.held,hinput,hitems,hphase]
      rfl
    | _ =>
      rw [hphase] at hstopped
      cases hstopped
  have hsum : (s.workers.map Worker.owes).sum = 0 := sum_eq_zero fun m hm => by
      obtain ⟨w,hw,rfl⟩ := mem_map.mp hm
      exact howes w hw
  rw [held,hrun,hsum,hreturned]
  rfl

end State

abbrev Reachable (cfg : Config) (ok : State → Action → Prop)
    (stored : List FinalizeIntent) : State → Prop :=
  Runs.Reach (fun s a t => s.step cfg a = some t) ok fun s => s = State.initial stored

variable {cfg : Config} {stored : List FinalizeIntent} {s : State}

variable {ok : State → Action → Prop}

theorem reachable_accounted (h : Reachable cfg ok stored s) : s.Accounted cfg := by
  refine h.invariant ?_ ?_
  · rintro s rfl
    exact State.accounted_initial cfg stored
  · intro s a t hs _ hstep
    exact hs.step (State.step_move hstep).books

theorem reachable_closing (h : Reachable cfg ok stored s) : s.Closing := by
  refine h.invariant ?_ ?_
  · rintro s rfl
    exact .of_early (.inl rfl) rfl
  · intro s a t hs _ hstep
    exact hs.move (State.step_move hstep)

theorem reachable_emptied (h : Reachable cfg State.SendsToReader stored s) : s.Emptied := by
  refine h.invariant ?_ ?_
  · rintro s rfl w hw
    cases hw
  · intro s a t hs hok hstep
    exact hs.move hok (State.step_move hstep)

theorem memory_budget_accounts (cfg : Config) (stored : List FinalizeIntent) :
    (∀ s, Reachable cfg (fun _ _ => True) stored s →
      s.globalBytes = (s.outstanding.map (·.bytes)).sum ∧
      s.globalBytes = GoMap.sumValues s.sandboxBytes ∧
      0 ≤ s.globalBytes ∧ s.globalBytes ≤ cfg.memoryBudgetBytes ∧
      ∀ id, (s.sandboxBytes.lookup id).getD 0 ≤ cfg.perSandboxQueueBytes) ∧
    ∀ s, Reachable cfg State.SendsToReader stored s → s.close = .returned →
      s.globalBytes = 0 ∧ s.sandboxBytes = ∅ := by
  refine ⟨fun s h => ?_,fun s h hreturned => ?_⟩
  · have haccounted := reachable_accounted h
    have htotal : s.globalBytes = (s.held.map (·.bytes)).sum := haccounted.balanced.total
    refine ⟨?_,haccounted.balanced.sum.symm,?_,haccounted.bounded,haccounted.shares⟩
    · rw [htotal,← haccounted.outstanding,map_coe,sum_coe]
    rw [htotal]
    refine sum_nonneg fun n hn => ?_
    obtain ⟨a,ha,rfl⟩ := mem_map.mp hn
    exact (haccounted.positive a ha).le
  · have hheld := State.held_closed (reachable_closing h) (reachable_emptied h) hreturned
    have hbalanced := (reachable_accounted h).balanced
    rw [hheld] at hbalanced
    exact hbalanced.settled

def blockingConfig : Config where
  batchMaxItems := 1
  memoryBudgetBytes := 4096
  perSandboxQueueBytes := 2048
  rateLimited := false
  dropPolicy := .block
  targetID := "target"
  finalizeID stream _ := stream
  items_pos := by decide
  budget_pos := by decide
  share_pos := by decide
  share_le := by decide

def sampleDelivery (stream : String) : Delivery where
  record := ⟨⟨0,true⟩,[104,105],⟨"s","c","n","p","u","node","log","/var/log"⟩,∅⟩
  streamRef := stream
  ackToken := [1]
  recordID := "1"

def deliver (stream : String) : List Action :=
  [.receive (.delivery (sampleDelivery stream)),.tryAdmit,.send]

def shutDown : List Action :=
  [.stop,.closeBegin,.closeInputs,.closeInput 0,.closeWait]

def finishWorker (i : Nat) : List Action :=
  [.worker i .report,.worker i .closeDone,.worker i .clear]

def cleanRun : List Action :=
  deliver "r" ++
    [.worker 0 .start,.worker 0 .receive,.worker 0 .succeed,.worker 0 .succeed,
      .worker 0 .release,.worker 0 .release] ++
    shutDown ++ [.worker 0 .receive,.worker 0 .drain] ++ finishWorker 0 ++ [.closeReturn]

def lateSendRun : List Action :=
  deliver "r" ++
    [.worker 0 .start,.worker 0 .receive,.worker 0 (.giveUp false),.worker 0 .drain,
      .worker 0 .drain] ++
    finishWorker 0 ++ deliver "r" ++ shutDown ++ [.closeReturn]

def State.closeReturned (s : State) : Bool :=
  match s.close with
  | .returned => true
  | _ => false

theorem State.close_eq_returned (h : s.closeReturned = true) : s.close = .returned := by
  unfold closeReturned at h
  split at h
  · assumption
  · cases h

theorem memory_budget_accounts_closed :
    ∃ s, Reachable blockingConfig State.SendsToReader [] s ∧ s.close = .returned ∧
      s.admitted.length = 1 ∧ s.globalBytes = 0 ∧ s.sandboxBytes = ∅ := by
  obtain ⟨s,hs,hclose,hadmitted⟩ :
      ∃ s ∈ Runs.follow (fun s a => if s.sendsToReader a then s.step blockingConfig a else none)
        (State.initial []) cleanRun, s.closeReturned = true ∧ s.admitted.length = 1 := by
    decide +kernel
  have hreach : Reachable blockingConfig State.SendsToReader [] s :=
    Runs.Reach.mono State.sendsToReader_sound (fun _ _ _ => id) (.follow_checked (.start rfl) hs)
  have hreturned := State.close_eq_returned hclose
  exact ⟨s,hreach,hreturned,hadmitted,
    (memory_budget_accounts blockingConfig []).2 s hreach hreturned⟩

theorem memory_budget_lost :
    ∃ s, Reachable blockingConfig (fun _ _ => True) [] s ∧ s.close = .returned ∧
      s.globalBytes = 516 ∧ s.sandboxBytes.lookup "s" = some 516 := by
  obtain ⟨s,hs,hclose,hbytes⟩ :
      ∃ s ∈ Runs.follow (fun s a => s.step blockingConfig a) (State.initial []) lateSendRun,
        s.closeReturned = true ∧ s.globalBytes = 516 ∧ s.sandboxBytes.lookup "s" = some 516 := by
    decide +kernel
  exact ⟨s,Runs.Reach.follow (.start rfl) (fun _ _ _ => trivial) hs,
    State.close_eq_returned hclose,hbytes⟩

end OpenSandbox.NodeAgent.Pipeline
