import OpenSandbox.NodeAgent.Pipeline.Handover

namespace OpenSandbox.NodeAgent.Pipeline

open List Bool

section Store

variable (stored : List FinalizeIntent) (log : List Entry)

def SinkDone (stream : String) (revision : Nat) : Prop :=
  .finalized stream revision ∈ log ∨
    ∃ intent, State.storedIntent stored stream revision = some intent ∧ intent.sinkDone = true

def SourceDone (stream : String) (revision : Nat) : Prop :=
  .endAcknowledged stream revision ∈ log ∨
    ∃ intent, State.storedIntent stored stream revision = some intent ∧ intent.sourceDone = true

structure Backed (intent : FinalizeIntent) : Prop where
  sink : intent.sinkDone = true → SinkDone stored log intent.streamRef intent.revision
  source : intent.sourceDone = true → SourceDone stored log intent.streamRef intent.revision

structure Held (e : StreamEnd) (intent : FinalizeIntent) : Prop where
  stream : intent.streamRef = e.streamRef
  revision : intent.revision = e.revision
  backed : Backed stored log intent

def EndDone (e : StreamEnd) : Prop :=
  SinkDone stored log e.streamRef e.revision ∧ SourceDone stored log e.streamRef e.revision

def Worker.Progress (w : Worker) : Prop :=
  match w.phase with
  | .finalizing e intent => Held stored log e intent
  | .recordingSink e intent | .endingSource e intent =>
    Held stored log e intent ∧ intent.sinkDone = true
  | .recordingSource e intent =>
      Held stored log e intent ∧ intent.sinkDone = true ∧ intent.sourceDone = true
  | phase => phase.exit? = some .returned → w.inputClosed = true ∨
      ∀ x ∈ w.sent, ∀ e, x.event = .ended e → EndDone stored log e

structure State.Finishing (s : State) : Prop where
  store : ∀ stream revision intent, s.intents stream revision = some intent →
    intent.streamRef = stream ∧ intent.revision = revision ∧ Backed stored s.log intent
  workers : ∀ (i : Nat) (w : Worker), s.workers[i]? = some w → w.Progress stored s.log

variable {stored log}

theorem SinkDone.mono {stream : String} {revision : Nat} (h : SinkDone stored log stream revision)
    (more : List Entry) : SinkDone stored (log ++ more) stream revision :=
  h.imp_left (mem_append_left more)

theorem SourceDone.mono {stream : String} {revision : Nat}
    (h : SourceDone stored log stream revision) (more : List Entry) :
    SourceDone stored (log ++ more) stream revision :=
  h.imp_left (mem_append_left more)

variable {intent : FinalizeIntent}

theorem Backed.mono (h : Backed stored log intent) (more : List Entry) :
    Backed stored (log ++ more) intent :=
  ⟨fun hs => (h.sink hs).mono more,fun hs => (h.source hs).mono more⟩

variable {e : StreamEnd}

theorem Held.mono (h : Held stored log e intent) (more : List Entry) :
    Held stored (log ++ more) e intent :=
  ⟨h.stream,h.revision,h.backed.mono more⟩

theorem EndDone.mono (h : EndDone stored log e) (more : List Entry) :
    EndDone stored (log ++ more) e :=
  ⟨h.1.mono more,h.2.mono more⟩

theorem Held.done (h : Held stored log e intent) (hsink : intent.sinkDone = true)
    (hsource : intent.sourceDone = true) : EndDone stored log e := by
  refine ⟨?_,?_⟩
  · rw [← h.stream,← h.revision]
    exact h.backed.sink hsink
  · rw [← h.stream,← h.revision]
    exact h.backed.source hsource

namespace Worker

variable {w : Worker}

theorem progress_open (h : w.phase.exit? = none)
    (hphase : ∀ e intent, w.phase ≠ .finalizing e intent ∧ w.phase ≠ .recordingSink e intent ∧
      w.phase ≠ .endingSource e intent ∧ w.phase ≠ .recordingSource e intent) :
    w.Progress stored log := by
  unfold Progress
  split
  · exact absurd (by assumption) (hphase _ _).1
  · exact absurd (by assumption) (hphase _ _).2.1
  · exact absurd (by assumption) (hphase _ _).2.2.1
  · exact absurd (by assumption) (hphase _ _).2.2.2
  · intro hreturned
    rw [h] at hreturned
    cases hreturned

variable {x : Exit}

theorem progress_exit (h : w.phase.exit? = some x) :
    w.Progress stored log ↔ (x = .returned → w.inputClosed = true ∨
      ∀ y ∈ w.sent, ∀ e, y.event = .ended e → EndDone stored log e) := by
  unfold Progress
  cases hphase : w.phase <;> rw [hphase] at h <;> cases h <;>
    simp only [Phase.exit?,Option.some.injEq]

theorem Progress.mono {w' : Worker} (h : w.Progress stored log) (more : List Entry)
    (hphase : w'.phase = w.phase) (hclosed : w.inputClosed = true → w'.inputClosed = true)
    (hsent : w'.sent = w.sent) : w'.Progress stored (log ++ more) := by
  unfold Progress at h ⊢
  rw [hphase,hsent]
  cases hw : w.phase <;> simp only [hw] at h ⊢
  case finalizing e intent => exact h.mono more
  case recordingSink | endingSource | recordingSource => exact ⟨h.1.mono more,h.2⟩
  all_goals
    intro hreturned
    exact (h hreturned).imp hclosed fun hdone y hy e he => (hdone y hy e he).mono more

variable (stored log) in
structure Advances (f : Effect) : Prop where
  progress : f.advanced.Progress stored (log ++ f.logged)
  intent : ∀ intent, f.intent = some intent → Backed stored (log ++ f.logged) intent

variable {f : Effect}

theorem advances_open (hexit : f.worker.phase.exit? = none)
    (hphase : ∀ e intent, f.worker.phase ≠ .finalizing e intent ∧
      f.worker.phase ≠ .recordingSink e intent ∧ f.worker.phase ≠ .endingSource e intent ∧
      f.worker.phase ≠ .recordingSource e intent) (hintent : f.intent = none) :
    Advances stored log f :=
  ⟨progress_open hexit hphase,fun intent h => by rw [hintent] at h; cases h⟩

theorem advances_exit (h : x = .returned → w.inputClosed = true ∨
    ∀ y ∈ w.sent, ∀ e, y.event = .ended e → EndDone stored log e) :
    Advances stored log (w.exit x) := by
  refine ⟨?_,nofun⟩
  rw [progress_exit (x := x) rfl]
  change x = .returned → w.inputClosed = true ∨
    ∀ y ∈ w.sent, ∀ e, y.event = .ended e → EndDone stored (log ++ []) e
  rwa [append_nil]

variable {e : StreamEnd}

theorem ends_of_finishes (htidy : w.Tidy) (hw : w.Finishes e) (hdone : EndDone stored log e) :
    ∀ y ∈ w.sent, ∀ e', y.event = .ended e' → EndDone stored log e' := by
  obtain ⟨-,-,x,hsent,hx,-⟩ := hw
  intro y hy e' he'
  rw [hsent] at hy
  rcases mem_append.mp hy with hy | hy
  · have hplain := htidy.plain y (mem_append_left _ hy)
    rw [he'] at hplain
    cases hplain
  · rw [mem_singleton.mp hy,hx] at he'
    cases he'
    exact hdone

variable {cfg : Config} {v : View}

theorem Resumes.held {intent : FinalizeIntent} {put : Option FinalizeIntent}
    (h : Resumes cfg v w e intent put) (hw : w.Progress stored log)
    (hstore : ∀ stream revision intent, v.intent stream revision = some intent →
      intent.streamRef = stream ∧ intent.revision = revision ∧ Backed stored log intent) :
    Held stored log e intent := by
  cases h with
  | fresh now hphase => exact ⟨rfl,rfl,⟨Bool.noConfusion,Bool.noConfusion⟩⟩
  | stored intent hphase hintent =>
    obtain ⟨hstream,hrevision,hbacked⟩ := hstore _ _ intent hintent
    exact ⟨hstream,hrevision,hbacked⟩
  | recorded intent hphase =>
    simp only [Progress,hphase] at hw
    exact hw.1

theorem Resumes.backed {intent : FinalizeIntent} {put : Option FinalizeIntent}
    (h : Resumes cfg v w e intent put) (hheld : Held stored log e intent) (more : List Entry) :
    ∀ i, put = some i → Backed stored (log ++ more) i := by
  rintro i rfl
  cases h <;> exact hheld.backed.mono more

theorem progress_finished (htidy : w.Tidy) (hw : w.Finishes e) (hdone : EndDone stored log e) :
    (w.exit .returned).advanced.Progress stored (log ++ []) :=
  (advances_exit fun _ => .inr (ends_of_finishes htidy hw hdone)).progress

theorem advances_left (hw : w.Progress stored log) (hx : w.phase.exit? = some x)
    (hx' : f.worker.phase.exit? = some x) (hfixed : Fixed w f.worker) (hlogged : f.logged = [])
    (hintent : f.intent = none) : Advances stored log f := by
  refine ⟨?_,fun intent h => by rw [hintent] at h; cases h⟩
  have hadvanced : f.advanced.phase.exit? = some x := hx'
  rw [progress_exit hadvanced,hlogged,append_nil]
  rw [progress_exit hx] at hw
  change x = .returned → f.worker.inputClosed = true ∨
    ∀ y ∈ f.worker.sent, ∀ e, y.event = .ended e → EndDone stored log e
  rwa [hfixed.inputClosed,hfixed.sent]

theorem Turn.advances {op : WorkerOp} (h : w.Sound) (hw : w.Progress stored log)
    (hstore : ∀ stream revision intent, v.intent stream revision = some intent →
      intent.streamRef = stream ∧ intent.revision = revision ∧ Backed stored log intent)
    (hturn : w.Turn cfg v op f) : Advances stored log f := by
  have hshape := h.shape
  have hfixed := hturn.fixed
  cases hturn.change with
  | started | flushed | filled | endFlushed | endTaken | consumed | acknowledged | released =>
    exact advances_open rfl (fun _ _ => ⟨nofun,nofun,nofun,nofun⟩) rfl
  | unstarted | interrupted => exact advances_exit nofun
  | gaveUp x hfallible hx => exact advances_exit fun hreturned => absurd hreturned hx
  | proceeded next hphase =>
    cases next with
    | looping | ending e => exact advances_open rfl (fun _ _ => ⟨nofun,nofun,nofun,nofun⟩) rfl
    | returning =>
      refine advances_exit fun _ => .inl ?_
      rcases hphase with ⟨-,-,hready⟩ | hphase
      · exact (hready.resolve_left nofun).2
      · simp only [Shape,hphase] at hshape
        exact hshape.2.2.1
  | queued a rest d hphase hinput hevent =>
    refine advances_open ?_ ?_ rfl
    · simp only [quietly,hphase,Phase.exit?]
    · intro e intent
      simp [quietly,hphase]
  | retried => exact ⟨hw.mono [] rfl id rfl,by rintro _ ⟨⟩⟩
  | finalized e intent hphase =>
    simp only [Progress,hphase] at hw
    refine ⟨⟨⟨hw.stream,hw.revision,fun _ => .inl ?_,fun hs => ?_⟩,rfl⟩,by rintro _ ⟨⟩⟩
    · rw [hw.stream,hw.revision]
      simp
    · exact (hw.backed.source hs).mono _
  | endAcknowledged e intent hphase =>
    simp only [Progress,hphase] at hw
    refine ⟨⟨⟨hw.1.stream,hw.1.revision,fun hs => ?_,fun _ => .inl ?_⟩,hw.2,rfl⟩,by rintro _ ⟨⟩⟩
    · exact (hw.1.backed.sink hs).mono _
    · rw [hw.1.stream,hw.1.revision]
      simp
  | sinkCalled e intent put hr =>
    have hheld := hr.held hw hstore
    exact ⟨hheld.mono _,hr.backed hheld _⟩
  | sourceCalled e intent put hr hsink =>
    have hheld := hr.held hw hstore
    exact ⟨⟨hheld.mono [],hsink⟩,hr.backed hheld _⟩
  | resumedDone e intent put hr hsink hsource =>
    have hheld := hr.held hw hstore
    exact ⟨progress_finished h.tidy (hr.finishes hshape) (hheld.done hsink hsource),
      hr.backed hheld _⟩
  | recordedDone e intent hphase =>
    simp only [Progress,hphase] at hw
    simp only [Shape,hphase] at hshape
    refine ⟨progress_finished h.tidy hshape (hw.1.done hw.2.1 hw.2.2),?_⟩
    rintro i hi
    cases hi
    exact hw.1.backed.mono _
  | itemDrained x a items hphase =>
    have hexit : w.phase.exit? = some x := by rw [hphase]; rfl
    exact advances_left hw hexit hexit hfixed rfl rfl
  | inputPicked x a rest hphase | inputDrained x a hphase | drained x hphase | reported x hphase
  | closedDone x hphase | cleared x hphase =>
    exact advances_left hw (by rw [hphase]; rfl) rfl hfixed rfl rfl

end Worker

namespace State

variable {s : State} {i : Nat}

theorem apply_intents {e : Effect} {stream : String} {revision : Nat} {intent : FinalizeIntent}
    (h : (s.apply i e).intents stream revision = some intent) :
    s.intents stream revision = some intent ∨
      e.intent = some intent ∧ intent.streamRef = stream ∧ intent.revision = revision := by
  have hstored : (s.apply i e).intents =
      e.intent.elim s.intents fun put => (s.putIntent put).intents := by
    unfold apply
    cases e.released with
    | none => cases e.intent <;> rfl
    | some a =>
      simp only [(release_frame _ a).2.2.2]
      cases e.intent <;> rfl
  rw [hstored] at h
  cases hintent : e.intent with
  | none => exact .inl (by rwa [hintent] at h)
  | some put =>
    simp only [hintent,Option.elim_some,putIntent] at h
    split_ifs at h with hkey
    · cases h
      exact .inr ⟨rfl,hkey.1.symm,hkey.2.symm⟩
    · exact .inl h

theorem Finishing.turned {cfg : Config} {op : WorkerOp} {w : Worker} {e : Effect}
    (h : s.Finishing stored) (hsound : Soundly s) (hw : s.workers[i]? = some w)
    (hturn : w.Turn cfg (s.view w) op e) : (s.apply i e).Finishing stored := by
  obtain ⟨-,hworkers,hlog⟩ := apply_frame s i e
  have hadvances := hturn.advances (hsound i w hw) (h.workers i w hw) h.store
  refine ⟨?_,?_⟩
  · intro stream revision intent hget
    rw [hlog]
    rcases apply_intents hget with hold | ⟨hput,hstream,hrevision⟩
    · obtain ⟨hstream,hrevision,hbacked⟩ := h.store stream revision intent hold
      exact ⟨hstream,hrevision,hbacked.mono _⟩
    · exact ⟨hstream,hrevision,hadvances.intent intent hput⟩
  · intro j u hu
    rw [hlog]
    rw [hworkers] at hu
    rcases set_cases hu with ⟨-,rfl⟩ | ⟨-,hu⟩
    · exact hadvances.progress
    · exact (h.workers j u hu).mono _ rfl id rfl

variable {t : State}

theorem Finishing.update (h : s.Finishing stored) (hlog : t.log = s.log)
    (hintents : t.intents = s.intents) {w' : Worker} (hworkers : t.workers = s.workers.set i w')
    (hprogress : w'.Progress stored s.log) : t.Finishing stored := by
  refine ⟨by rw [hintents,hlog]; exact h.store,?_⟩
  intro j u hu
  rw [hworkers] at hu
  rw [hlog]
  rcases set_cases hu with ⟨-,rfl⟩ | ⟨-,hu⟩
  · exact hprogress
  · exact h.workers j u hu

theorem progress_sent {w w' : Worker} {log : List Entry} (h : w.Progress stored log)
    (hsound : w.Sound) (hphase : w'.phase = w.phase) (hopen : w.inputClosed = false)
    (hends : ∀ x ∈ w.sent, isEnd x.event = false) : w'.Progress stored log := by
  have hnot : w.phase.exit? ≠ some .returned := by
    intro hreturned
    obtain ⟨-,⟨e,p,x,hsent,hx,-⟩ | ⟨hclosed,-⟩⟩ :=
      (Worker.shape_exit hreturned).mp hsound.shape
    · have hend := hends x (by rw [hsent]; simp)
      rw [hx] at hend
      cases hend
    · rw [hopen] at hclosed
      cases hclosed
  unfold Worker.Progress at h ⊢
  rw [hphase]
  cases hw : w.phase <;> simp only [hw] at h hnot ⊢
  case finalizing | recordingSink | endingSource | recordingSource => exact h
  all_goals exact fun hreturned => absurd hreturned hnot

theorem Finishing.frame (h : s.Finishing stored) (hlog : t.log = s.log)
    (hintents : t.intents = s.intents) (hworkers : t.workers = s.workers) : t.Finishing stored :=
  ⟨by rw [hintents,hlog]; exact h.store,by rw [hworkers,hlog]; exact h.workers⟩

theorem Finishing.move {cfg : Config} {a : Action} (h : s.Finishing stored) (hsound : Soundly s)
    (hrouted : Routed s) (hok : KeepsOrder s a) (hmove : Move cfg s a t) : t.Finishing stored := by
  cases hmove with
  | opened event hrun hopen hregistry =>
    refine ⟨h.store,?_⟩
    intro j u hu
    rcases append_cases hu with ⟨-,hu⟩ | ⟨-,rfl⟩
    · exact h.workers j u hu
    · exact Worker.progress_open rfl fun _ _ => ⟨nofun,nofun,nofun,nofun⟩
  | dropped cause i d w hrun hw hpolicy => exact absurd rfl (hok.1 cause)
  | sent i x w hrun hw hinput hopen =>
    exact h.update rfl rfl rfl (progress_sent (h.workers i w hw) (hsound i w hw) rfl hopen
      (hrouted.unended hrun hw))
  | aborted _ x | inputReleased _ _ x =>
    obtain ⟨-,hworkers,hlog,hintents⟩ := release_frame s x
    exact h.frame hlog hintents hworkers
  | retired =>
    unfold retire
    split <;> exact h.frame rfl rfl rfl
  | turned i op w e hw hop hturn => exact h.turned hsound hw hturn
  | cleared i w x hw hfree hphase =>
    have hturn : w.Turn cfg (s.view w) .clear _ := .cleared x hphase
    rw [clearHandoff_frame]
    exact Finishing.turned (s := { s with handoffs := _ }) (h.frame rfl rfl rfl) hsound hw hturn
  | inputClosed i left drain w hclose hmem hw | inputTaken i left w x rest hclose hw hinput =>
    refine h.update rfl rfl rfl ?_
    rw [← append_nil s.log]
    exact (h.workers i w hw).mono [] rfl (by simp) rfl
  | _ => exact h.frame rfl rfl rfl

theorem finishing_initial : (initial stored).Finishing stored := by
  refine ⟨?_,fun i w hw => by cases hw⟩
  intro stream revision intent hget
  have hfound := find?_some hget
  simp only [decide_eq_true_eq] at hfound
  refine ⟨hfound.1,hfound.2,?_,?_⟩
  · intro hsink
    rw [hfound.1,hfound.2]
    exact .inr ⟨intent,hget,hsink⟩
  · intro hsource
    rw [hfound.1,hfound.2]
    exact .inr ⟨intent,hget,hsource⟩

end State

end Store

end OpenSandbox.NodeAgent.Pipeline
