import OpenSandbox.NodeAgent.Pipeline.Model

namespace OpenSandbox.NodeAgent.Pipeline

open Option Bool

namespace Worker

inductive Turn (cfg : Config) (v : View) (w : Worker) : WorkerOp → Effect → Prop
  | started : w.phase = .waiting → w.predecessor = none ∨ v.predecessorDone = true →
      Turn cfg v w .start (quietly { w with phase := .idle })
  | unstarted : w.phase = .waiting → Turn cfg v w .cancel (w.exit .cancelled)
  | interrupted : w.phase = .idle → Turn cfg v w .cancel (w.exit .cancelled)
  | ticked : w.phase = .idle → Turn cfg v w .tick (w.flushOr .looping)
  | took (a rest) : w.phase = .idle → w.input = a :: rest →
      Turn cfg v w .receive (w.take cfg a rest)
  | ranDry : w.phase = .idle → w.input = [] → w.inputClosed = true →
      Turn cfg v w .receive (w.flushOr .returning)
  | retried : calling w.phase = true → Turn cfg v w .retry w.quietly
  | succeeded (e) : w.succeed = some e → Turn cfg v w .succeed e
  | gaveUp (cancelled) : fallible w.phase = true →
      Turn cfg v w (.giveUp cancelled) (w.exit (if cancelled then .cancelled else .failed))
  | began (e now) : w.phase = .loadingIntent e →
      Turn cfg v w (.begin now) (w.beginFinalize cfg v e now)
  | released (a left next) : w.phase = .releasing (a :: left) next → Turn cfg v w .release
        { quietly { w with phase := .releasing left next } with released := some a }
  | proceeded (next) : w.phase = .releasing [] next → Turn cfg v w .release (w.proceed next)
  | drained (e) : w.drain = some e → Turn cfg v w .drain e
  | reported (x) : w.phase = .reporting x →
      Turn cfg v w .report { quietly { w with phase := .closing x } with reported := x = .failed }
  | closedDone (x) : w.phase = .closing x →
      Turn cfg v w .closeDone (quietly { w with phase := .clearing x })
  | cleared (x) : w.phase = .clearing x →
      Turn cfg v w .clear (quietly { w with phase := .stopped x })

theorem step_turn {cfg : Config} {v : View} {w : Worker} {op : WorkerOp} {e : Effect}
    (h : w.step cfg v op = some e) : Turn cfg v w op e := by
  revert h
  fun_cases step cfg v w op <;> intro h <;> try cases h
  · exact .started ‹_› ‹_›
  · exact .unstarted ‹_›
  · exact .interrupted ‹_›
  · exact .ticked ‹_›
  · exact .took _ _ ‹_› ‹_›
  · exact .ranDry ‹_› ‹_› ‹_›
  · exact .retried ‹_›
  · exact .succeeded e h
  · exact .gaveUp _ ‹_›
  · exact .began _ _ ‹_›
  · exact .released _ _ _ ‹_›
  · exact .proceeded _ ‹_›
  · exact .drained e h
  · exact .reported _ ‹_›
  · exact .closedDone _ ‹_›
  · exact .cleared _ ‹_›

def Ready (w : Worker) (next : Next) : Prop :=
  next = .looping ∨ next = .returning ∧ w.inputClosed = true

inductive Resumes (cfg : Config) (v : View) (w : Worker) (e : StreamEnd) :
    FinalizeIntent → Option FinalizeIntent → Prop
  | fresh (now) : w.phase = .loadingIntent e →
      Resumes cfg v w e (newIntent cfg e now) (some (newIntent cfg e now))
  | stored (intent) : w.phase = .loadingIntent e →
      v.intent e.streamRef e.revision = some intent → Resumes cfg v w e intent none
  | recorded (intent) : w.phase = .recordingSink e intent → Resumes cfg v w e intent (some intent)

inductive Change (cfg : Config) (v : View) (w : Worker) : Effect → Prop
  | started : w.phase = .waiting → Change cfg v w (quietly { w with phase := .idle })
  | unstarted : w.phase = .waiting → Change cfg v w (w.exit .cancelled)
  | interrupted : w.phase = .idle → Change cfg v w (w.exit .cancelled)
  | flushed (next) : w.phase = .idle → w.Ready next → Change cfg v w (w.flush next)
  | proceeded (next) :
      w.phase = .idle ∧ w.items = [] ∧ w.Ready next ∨ w.phase = .releasing [] next →
      Change cfg v w (w.proceed next)
  | queued (a rest d) : w.phase = .idle → w.input = a :: rest → a.event = .delivery d →
      Change cfg v w (quietly { w with input := rest, items := w.items ++ [a] })
  | filled (a rest d) : w.phase = .idle → w.input = a :: rest → a.event = .delivery d →
      Change cfg v w (flush { w with input := rest, items := w.items ++ [a] } .looping)
  | endFlushed (a rest e) : w.phase = .idle → w.input = a :: rest → a.event = .ended e →
      Change cfg v w (flush { w with input := rest, endPosition := a.position } (.ending e))
  | endTaken (a rest e) : w.phase = .idle →
      w.input = a :: rest → a.event = .ended e → w.items = [] →
      Change cfg v w (proceed { w with input := rest, endPosition := a.position } (.ending e))
  | retried : Change cfg v w w.quietly
  | consumed (next) : w.phase = .consuming next →
      Change cfg v w (quietly { w with phase := .acknowledging next })
  | acknowledged (next) : w.phase = .acknowledging next →
      Change cfg v w { quietly { w with phase := .releasing w.items next, items := [] } with
        logged := [.acknowledged w.stream w.items] }
  | finalized (e intent) : w.phase = .finalizing e intent → Change cfg v w {
        quietly { w with phase := .recordingSink e { intent with sinkDone := true } } with
        logged := [.finalized e.streamRef e.revision] }
  | endAcknowledged (e intent) : w.phase = .endingSource e intent → Change cfg v w {
        quietly { w with phase := .recordingSource e { intent with sourceDone := true } } with
        logged := [.endAcknowledged e.streamRef e.revision] }
  | sinkCalled (e intent put) : Resumes cfg v w e intent put →
      Change cfg v w { quietly { w with phase := .finalizing e intent } with
        logged := [.finalize w.endPosition (w.finalizeRequest e intent)], intent := put }
  | sourceCalled (e intent put) : Resumes cfg v w e intent put → intent.sinkDone = true →
      Change cfg v w { quietly { w with phase := .endingSource e intent } with intent := put }
  | resumedDone (e intent put) :
      Resumes cfg v w e intent put → intent.sinkDone = true → intent.sourceDone = true →
      Change cfg v w { w.exit .returned with intent := put }
  | recordedDone (e intent) : w.phase = .recordingSource e intent →
      Change cfg v w { w.exit .returned with intent := some intent }
  | gaveUp (x) : fallible w.phase = true → x ≠ .returned → Change cfg v w (w.exit x)
  | released (a left next) : w.phase = .releasing (a :: left) next →
      Change cfg v w { quietly { w with phase := .releasing left next } with released := some a }
  | itemDrained (x a items) : w.phase = .draining x none → w.items = a :: items →
      Change cfg v w { quietly { w with items := items } with released := some a }
  | inputPicked (x a rest) : w.phase = .draining x none → w.items = [] → w.input = a :: rest →
      Change cfg v w (quietly { w with phase := .draining x (some a), input := rest })
  | inputDrained (x a) : w.phase = .draining x (some a) →
      Change cfg v w { quietly { w with phase := .draining x none } with released := some a }
  | drained (x) : w.phase = .draining x none → w.items = [] → w.input = [] →
      Change cfg v w (quietly { w with phase := .reporting x })
  | reported (x) : w.phase = .reporting x →
      Change cfg v w { quietly { w with phase := .closing x } with reported := x = .failed }
  | closedDone (x) : w.phase = .closing x → Change cfg v w (quietly { w with phase := .clearing x })
  | cleared (x) : w.phase = .clearing x → Change cfg v w (quietly { w with phase := .stopped x })

variable {cfg : Config} {v : View} {w : Worker} {e : StreamEnd}

theorem Resumes.fallible {intent : FinalizeIntent} {put : Option FinalizeIntent}
    (h : Resumes cfg v w e intent put) : fallible w.phase = true := by
  cases h with
  | fresh _ hphase | stored _ hphase | recorded _ hphase =>
    rw [hphase]
    rfl

theorem change_flushOr {next : Next} (hphase : w.phase = .idle) (hready : w.Ready next) :
    Change cfg v w (w.flushOr next) := by
  unfold flushOr
  split
  · exact .proceeded next (.inl ⟨hphase,‹_›,hready⟩)
  · exact .flushed next hphase hready

theorem change_take {a : Admitted} {rest : List Admitted} (hphase : w.phase = .idle)
    (hinput : w.input = a :: rest) : Change cfg v w (w.take cfg a rest) := by
  fun_cases take cfg w a rest
  · exact .filled a rest _ hphase hinput ‹_›
  · exact .queued a rest _ hphase hinput ‹_›
  · rename_i e he
    unfold flushOr
    split
    · exact .endTaken a rest e hphase hinput he ‹_›
    · exact .endFlushed a rest e hphase hinput he

theorem change_continueFinalize {intent : FinalizeIntent} {put : Option FinalizeIntent}
    (h : Resumes cfg v w e intent put) :
    Change cfg v w { w.continueFinalize e intent with intent := put } := by
  fun_cases continueFinalize w e intent
  · exact .sinkCalled e intent put h
  · exact .sourceCalled e intent put h (eq_true_of_not_eq_false ‹_›)
  · exact .resumedDone e intent put h (eq_true_of_not_eq_false ‹_›) (eq_true_of_not_eq_false ‹_›)

theorem change_beginFinalize {now : Time} (hphase : w.phase = .loadingIntent e) :
    Change cfg v w (w.beginFinalize cfg v e now) := by
  have hfallible : fallible w.phase = true := by rw [hphase]; rfl
  fun_cases beginFinalize cfg v w e now
  · exact .gaveUp .failed hfallible nofun
  · exact change_continueFinalize (.fresh now hphase)
  · exact .gaveUp .failed hfallible nofun
  · rename_i intent hintent hmatched
    have hstored : Resumes cfg v w e intent none := .stored intent hphase hintent
    have hchange := change_continueFinalize hstored
    have hput : (w.continueFinalize e intent).intent = none := by
      fun_cases continueFinalize w e intent <;> rfl
    rwa [← hput] at hchange

theorem change_succeed {f : Effect} (h : w.succeed = some f) : Change cfg v w f := by
  revert h
  fun_cases succeed w <;> intro h <;> cases h
  · exact .consumed _ ‹_›
  · exact .acknowledged _ ‹_›
  · exact .finalized _ _ ‹_›
  · exact change_continueFinalize (.recorded _ ‹_›)
  · exact .endAcknowledged _ _ ‹_›
  · exact .recordedDone _ _ ‹_›

theorem change_drain {f : Effect} (h : w.drain = some f) : Change cfg v w f := by
  revert h
  fun_cases drain w <;> intro h <;> cases h
  · exact .itemDrained _ _ _ ‹_› ‹_›
  · exact .inputPicked _ _ _ ‹_› ‹_› ‹_›
  · exact .drained _ ‹_› ‹_› ‹_›
  · exact .inputDrained _ _ ‹_›

theorem Turn.change {op : WorkerOp} {f : Effect} (h : Turn cfg v w op f) : Change cfg v w f := by
  cases h with
  | started hphase hready => exact .started hphase
  | unstarted hphase => exact .unstarted hphase
  | interrupted hphase => exact .interrupted hphase
  | ticked hphase => exact change_flushOr hphase (.inl rfl)
  | took a rest hphase hinput => exact change_take hphase hinput
  | ranDry hphase hinput hclosed => exact change_flushOr hphase (.inr ⟨rfl,hclosed⟩)
  | retried => exact .retried
  | succeeded f h => exact change_succeed h
  | gaveUp cancelled h => exact .gaveUp _ h (by cases cancelled <;> nofun)
  | began e now hphase => exact change_beginFinalize hphase
  | released a left next hphase => exact .released a left next hphase
  | proceeded next hphase => exact .proceeded next (.inr hphase)
  | drained f h => exact change_drain h
  | reported x hphase => exact .reported x hphase
  | closedDone x hphase => exact .closedDone x hphase
  | cleared x hphase => exact .cleared x hphase

end Worker

namespace State

structure Untouched (s t : State) : Prop where
  run : t.run = s.run
  registry : t.registry = s.registry
  handoffs : t.handoffs = s.handoffs
  closed : t.closed = s.closed
  close : t.close = s.close
  source : t.source = s.source

theorem release_frame (s : State) (a : Admitted) :
    Untouched s (s.release a) ∧ (s.release a).workers = s.workers ∧ (s.release a).log = s.log ∧
      (s.release a).intents = s.intents := by
  unfold release
  split <;> exact ⟨⟨rfl,rfl,rfl,rfl,rfl,rfl⟩,rfl,rfl,rfl⟩

theorem apply_frame (s : State) (i : Nat) (e : Effect) : Untouched s (s.apply i e) ∧
      (s.apply i e).workers =
        s.workers.set i { e.worker with calls := e.worker.calls ++ e.logged } ∧
      (s.apply i e).log = s.log ++ e.logged := by
  unfold apply
  cases e.released with
  | none => cases e.intent <;> exact ⟨⟨rfl,rfl,rfl,rfl,rfl,rfl⟩,rfl,rfl⟩
  | some a =>
    cases e.intent with
    | none =>
      obtain ⟨h,hworkers,hlog,-⟩ := release_frame { s.setWorker i
        { e.worker with calls := e.worker.calls ++ e.logged } with
          log := s.log ++ e.logged, workerErrors := s.workerErrors || e.reported } a
      exact ⟨{ h with },hworkers,hlog⟩
    | some intent =>
      obtain ⟨h,hworkers,hlog,-⟩ := release_frame (putIntent intent { s.setWorker i
        { e.worker with calls := e.worker.calls ++ e.logged } with
          log := s.log ++ e.logged, workerErrors := s.workerErrors || e.reported }) a
      exact ⟨{ h with },hworkers,hlog⟩

theorem clearHandoff_frame (s : State) (i : Nat) (stream : String) :
    s.clearHandoff i stream = { s with handoffs := (s.clearHandoff i stream).handoffs } := by
  unfold clearHandoff
  split <;> rfl

def endOf (s : State) (e : StreamEnd) : Admitted :=
  ⟨.ended e,0,"",s.source.length - 1,.symm rfl⟩

def deliveryOf (s : State) (d : Delivery) : Admitted :=
  ⟨.delivery d,eventBytes d,d.record.resource.sandboxID,s.source.length - 1,.symm rfl⟩

inductive Move (cfg : Config) (s : State) : Action → State → Prop
  | refused (event) : s.run = .selecting → s.closed = true →
      Move cfg s (.receive event) { s with source := s.source ++ [event], run := .returned }
  | joined (event i) : s.run = .selecting → s.closed = false →
      s.registry.lookup event.stream = some i →
      Move cfg s (.receive event)
        { s with source := s.source ++ [event], run := .admitting i event }
  | opened (event) : s.run = .selecting → s.closed = false → s.registry.lookup event.stream = none →
      Move cfg s (.receive event) { s with
        source := s.source ++ [event]
        run := .admitting s.workers.length event
        workers := s.workers ++ [Worker.new event.stream (s.handoffs.lookup event.stream)]
        registry := s.registry.insert event.stream s.workers.length
        handoffs := s.handoffs.erase event.stream }
  | stopped : s.run = .selecting → Move cfg s .stop { s with run := .returned }
  | ended (i e) : s.run = .admitting i (.ended e) →
      Move cfg s .tryAdmit { s with run := .sending i (s.endOf e) }
  | reserved (i d) : s.run = .admitting i (.delivery d) →
      s.fits cfg (s.deliveryOf d).bytes (s.deliveryOf d).sandboxID = true →
      Move cfg s .tryAdmit { s.reserve (s.deliveryOf d) with run := .sending i (s.deliveryOf d) }
  | dropped (cause i d w) :
      s.run = .admitting i (.delivery d) → s.workers[i]? = some w → cfg.dropPolicy = .drop →
      Move cfg s (.drop cause) { s.setWorker i (recordDrop cause.reason w) with run := .selecting }
  | gaveUp (i d) : s.run = .admitting i (.delivery d) →
      Move cfg s .refuse { s with run := .returned }
  | sent (i a w) : s.run = .sending i a →
      s.workers[i]? = some w → w.input = [] → w.inputClosed = false →
      Move cfg s .send {
        s.setWorker i { w with input := w.input ++ [a], sent := w.sent ++ [a] } with
        run := if isEnd a.event then .retiring i else .selecting }
  | aborted (i a) : s.run = .sending i a → Move cfg s .abort { s.release a with run := .returned }
  | retired (i w) : s.run = .retiring i → s.close.locked = false →
      s.workers[i]? = some w → Move cfg s .retire (s.retire i w)
  | turned (i op w e) : s.workers[i]? = some w →
      op ≠ .clear → w.Turn cfg (s.view w) op e → Move cfg s (.worker i op) (s.apply i e)
  | cleared (i w x) : s.workers[i]? = some w → s.close.locked = false → w.phase = .clearing x →
      Move cfg s (.worker i .clear)
        ((s.clearHandoff i w.stream).apply i (Worker.quietly { w with phase := .stopped x }))
  | closeBegun : s.close = .running →
      Move cfg s .closeBegin { s with closed := true, close := .waitingSends }
  | closeExpired : s.close = .waitingSends ∨ s.close = .waitingWorkers →
      Move cfg s .closeExpire { s with cancelled := true }
  | sendsDone : s.close = .waitingSends → s.run.active = false →
      Move cfg s .closeInputs { s with
        close := .closingInputs (s.registry.entries.map (·.2)) s.cancelled }
  | inputClosed (i left drain w) :
      s.close = .closingInputs left drain → i ∈ left → s.workers[i]? = some w →
      Move cfg s (.closeInput i) { s.setWorker i { w with inputClosed := true } with
        close := if drain then .drainingInput i none (left.erase i)
          else .closingInputs (left.erase i) drain }
  | inputTaken (i left w a rest) :
      s.close = .drainingInput i none left → s.workers[i]? = some w → w.input = a :: rest →
      Move cfg s .closeTake { s.setWorker i { w with input := rest } with
        close := .drainingInput i (some a) left }
  | inputReleased (i left a) : s.close = .drainingInput i (some a) left →
      Move cfg s .closeRelease { s.release a with close := .drainingInput i none left }
  | inputDrained (i left) : s.close = .drainingInput i none left →
      Move cfg s .closeNext { s with close := .closingInputs left true }
  | inputsClosed (drain) : s.close = .closingInputs [] drain →
      Move cfg s .closeWait { s with close := .waitingWorkers }
  | closeReturned : s.close = .waitingWorkers →
      (∀ w ∈ s.workers, w.phase.stopped? = true) →
      Move cfg s .closeReturn { s with close := .returned, cancelled := true }

variable {cfg : Config} {s t : State} {a : Action}

theorem stepRun_move (h : s.stepRun cfg a = some t) : Move cfg s a t := by
  revert h
  fun_cases stepRun cfg s a <;> intro h <;> try cases h
  · unfold getWorker
    split_ifs with hopen
    · exact .refused _ ‹_› ‹_›
    have hopen : s.closed = false := eq_false_iff.mpr hopen
    split
    · exact .joined _ _ ‹_› hopen ‹_›
    · exact .opened _ ‹_› hopen ‹_›
  · exact .stopped ‹_›
  · rename_i event hrun
    cases event with
    | ended e =>
      cases h
      exact .ended _ e hrun
    | delivery d =>
      simp only [tryAdmit] at h
      split_ifs at h with hfits
      cases h
      exact .reserved _ d hrun hfits.2
  · rename_i event hrun
    obtain ⟨w,hw,h⟩ := bind_eq_some_iff.mp h
    cases event with
    | ended e => cases h
    | delivery d =>
      simp only [drop] at h
      split_ifs at h with hdrop
      cases h
      exact .dropped _ _ d w hrun hw hdrop.1
  · exact .gaveUp _ _ ‹_›
  · obtain ⟨w,hw,h⟩ := bind_eq_some_iff.mp h
    unfold send at h
    split at h
    · rename_i hroom
      cases h
      have hempty := List.length_eq_zero_iff.mp (Nat.lt_one_iff.mp hroom.1)
      exact .sent _ _ w ‹_› hw hempty hroom.2
    · cases h
  · exact .aborted _ _ ‹_›
  · rename_i hfree
    obtain ⟨w,hw,rfl⟩ := map_eq_some_iff.mp h
    exact .retired _ w ‹_› (eq_false_iff.mpr hfree) hw

theorem stepWorker_move {i : Nat} {op : WorkerOp} (h : s.stepWorker cfg i op = some t) :
    Move cfg s (.worker i op) t := by
  unfold stepWorker at h
  split at h
  · cases h
  rename_i w hw
  split at h
  · split_ifs at h with hfree
    obtain ⟨e,he,rfl⟩ := map_eq_some_iff.mp h
    cases Worker.step_turn he with
    | cleared x hphase => exact .cleared i w x hw (eq_false_iff.mpr hfree) hphase
  · rename_i hop
    obtain ⟨e,he,rfl⟩ := map_eq_some_iff.mp h
    exact .turned i op w e hw hop (Worker.step_turn he)

theorem stepClose_move (h : s.stepClose a = some t) : Move cfg s a t := by
  revert h
  fun_cases stepClose s a <;> intro h <;> try cases h
  · exact .closeBegun ‹_›
  · exact .closeExpired (.inl ‹_›)
  · exact .closeExpired (.inr ‹_›)
  · exact .sendsDone ‹_› (eq_false_iff.mpr ‹_›)
  · obtain ⟨w,hw,rfl⟩ := map_eq_some_iff.mp h
    exact .inputClosed _ _ _ w ‹_› ‹_› hw
  · obtain ⟨w,hw,h⟩ := bind_eq_some_iff.mp h
    split at h
    · cases h
    · cases h
      exact .inputTaken _ _ w _ _ ‹_› hw ‹_›
  · exact .inputReleased _ _ _ ‹_›
  · obtain ⟨w,hw,h⟩ := bind_eq_some_iff.mp h
    split at h
    · cases h
      exact .inputDrained _ _ ‹_›
    · cases h
  · exact .inputsClosed _ ‹_›
  · exact .closeReturned ‹_› (List.all_eq_true.mp ‹_›)

theorem step_move (h : s.step cfg a = some t) : Move cfg s a t := by
  unfold step at h
  split at h
  · exact stepWorker_move h
  all_goals first | exact stepClose_move h | exact stepRun_move h

end State

end OpenSandbox.NodeAgent.Pipeline
