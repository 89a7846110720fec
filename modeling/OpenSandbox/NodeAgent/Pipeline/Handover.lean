import OpenSandbox.NodeAgent.Pipeline.Shape

namespace OpenSandbox.NodeAgent.Pipeline

open List Option AList

def Phase.begun : Phase → Bool
  | .waiting => false
  | phase => phase.exit? = none || phase.exit? = some .returned

def Phase.finished (phase : Phase) : Bool := phase.done && phase.exit? = some .returned

namespace Worker

def Begun (w : Worker) : Prop := w.phase.begun = true ∨ w.calls ≠ []

variable {w : Worker}

theorem Turn.done {cfg : Config} {v : View} {op : WorkerOp} {e : Effect} (h : w.Turn cfg v op e)
    (hdone : w.phase.done = true) :
    ∃ x, w.phase = .clearing x ∧ op = .clear ∧ e = quietly { w with phase := .stopped x } := by
  cases hphase : w.phase with
  | clearing x | stopped x =>
    cases h with
    | cleared y hy => cases hphase.symm.trans hy <;> exact ⟨x,rfl,rfl,rfl⟩
    | retried hcalling => rw [hphase] at hcalling; cases hcalling
    | gaveUp cancelled hfallible => rw [hphase] at hfallible; cases hfallible
    | succeeded f hf => simp [succeed,hphase] at hf
    | drained f hf => simp [drain,hphase] at hf
    | _ => simp_all
  | _ =>
    rw [hphase] at hdone
    cases hdone

theorem drain_exit {f : Effect} (h : w.drain = some f) :
    ∃ x, w.phase.exit? = some x ∧ f.worker.phase.exit? = some x ∧ f.logged = [] := by
  revert h
  fun_cases drain w <;> intro h <;> cases h <;> simp_all [quietly,Phase.exit?]

theorem begun_fallible {phase : Phase} (h : fallible phase = true) : phase.begun = true := by
  cases phase <;> first | rfl | cases h

theorem begun_succeed {f : Effect} (h : w.succeed = some f) : w.phase.begun = true := by
  unfold succeed at h
  split at h
  all_goals first | (rename_i hphase; rw [hphase]; rfl) | cases h

theorem begun_of_exit {phase phase' : Phase} {x : Exit} (h : phase.exit? = some x)
    (h' : phase'.exit? = some x) (hbegun : phase'.begun = true) : phase.begun = true := by
  cases phase <;> cases h <;> cases phase' <;> cases h' <;> exact hbegun

theorem Turn.begun {cfg : Config} {v : View} {op : WorkerOp} {e : Effect} (h : w.Turn cfg v op e)
    (hbegun : e.advanced.Begun) : w.Begun ∨ op = .start := by
  by_cases hw : w.phase.begun = true
  · exact .inl (.inl hw)
  have hsilent (hlogged : e.logged = []) (hcalls : e.worker.calls = w.calls)
      (hphase : e.worker.phase.begun = true → w.phase.begun = true) : w.Begun := by
    rcases hbegun with hbegun | hbegun
    · exact .inl (hphase hbegun)
    · right
      simpa [Effect.advanced,hlogged,hcalls] using hbegun
  have hfixed := h.fixed
  cases h with
  | started hphase hready => exact .inr rfl
  | unstarted hphase => exact .inl (hsilent rfl rfl fun h => by cases h)
  | drained f hf =>
    obtain ⟨x,hexit,hexit',hlogged⟩ := drain_exit hf
    exact .inl (hsilent hlogged hfixed.calls (begun_of_exit hexit hexit'))
  | reported x hphase | closedDone x hphase | cleared x hphase =>
    exact .inl (hsilent rfl rfl (begun_of_exit (by rw [hphase]; rfl) rfl))
  | interrupted hphase | ticked hphase | took a rest hphase hinput
  | ranDry hphase hinput hclosed | began e now hphase | released a left next hphase
  | proceeded next hphase => rw [hphase] at hw; exact absurd rfl hw
  | retried hcalling => exact .inl (hsilent rfl rfl id)
  | succeeded f hf => exact absurd (begun_succeed hf) hw
  | gaveUp cancelled hfallible => exact absurd (begun_fallible hfallible) hw

end Worker

namespace State

def Last (s : State) (i : Nat) (stream : String) : Prop :=
  ∀ (j : Nat) (u : Worker), i < j → s.workers[j]? = some u → u.stream ≠ stream

def ClosingOk (s : State) : ClosePhase → Prop
  | .closingInputs left _ => s.closed = true ∧ ∀ i ∈ left, ∃ r, s.registry.lookup r = some i
  | .drainingInput i _ left => s.closed = true ∧
      (∀ w : Worker, s.workers[i]? = some w → w.inputClosed = true) ∧
      ∀ i ∈ left, ∃ r, s.registry.lookup r = some i
  | _ => True

structure Chained (s : State) : Prop where
  linked : ∀ (j : Nat) (w : Worker), s.workers[j]? = some w → ∀ (i : Nat) (u : Worker), i < j →
    s.workers[i]? = some u → u.stream = w.stream →
      u.phase.done = true ∨ w.predecessor = some i ∨
        ∃ (k : Nat) (v : Worker), i < k ∧ k < j ∧ s.workers[k]? = some v ∧ v.stream = w.stream
  handed : ∀ (i : Nat) (u : Worker), s.workers[i]? = some u → s.Last i u.stream →
    s.registry.lookup u.stream = some i ∨ u.phase.done = true ∨
      s.handoffs.lookup u.stream = some i
  begun : ∀ (j : Nat) (w : Worker), s.workers[j]? = some w → w.Begun →
    ∀ (i : Nat) (u : Worker), i < j → s.workers[i]? = some u → u.stream = w.stream →
      u.phase.finished = true
  closedLast : ∀ (i : Nat) (w : Worker), s.workers[i]? = some w → w.inputClosed = true →
    s.closed = true ∧ s.Last i w.stream
  closing : s.ClosingOk s.close
  shut : s.close = .running ∨ s.closed = true

def KeepsOrder (s : State) (a : Action) : Prop :=
  (∀ cause, a ≠ .drop cause) ∧
    ∀ (j : Nat) (w : Worker), a = .worker j .start → s.workers[j]? = some w →
      ∀ (i : Nat) (u : Worker), i < j → s.workers[i]? = some u → u.stream = w.stream →
        u.phase.exit? ≠ some .failed ∧ u.phase.exit? ≠ some .cancelled

theorem Chained.closingAt {s : State} {phase : ClosePhase} (h : Chained s)
    (hclose : s.close = phase) : s.ClosingOk phase := hclose ▸ h.closing

theorem Chained.closedAt {s : State} (h : Chained s) (hclose : s.close ≠ .running) :
    s.closed = true := h.shut.resolve_left hclose

variable {l : List Worker} {i j : Nat} {w u : Worker}

theorem set_cases (h : (l.set i w)[j]? = some u) : (j = i ∧ u = w) ∨ (j ≠ i ∧ l[j]? = some u) := by
  by_cases hj : i = j
  · subst hj
    have hlt : i < l.length := by
      obtain ⟨hlt,-⟩ := List.getElem?_eq_some_iff.mp h
      simpa using hlt
    rw [List.getElem?_set_self hlt] at h
    cases h
    exact .inl ⟨rfl,rfl⟩
  · rw [List.getElem?_set_ne hj] at h
    exact .inr ⟨Ne.symm hj,h⟩

theorem set_lookup (w' : Worker) (hw : l[i]? = some w) (h : l[j]? = some u) :
    (j = i ∧ u = w ∧ (l.set i w')[j]? = some w') ∨ (l.set i w')[j]? = some u := by
  by_cases hj : i = j
  · subst hj
    rw [hw] at h
    cases h
    exact .inl ⟨rfl,rfl,List.getElem?_set_self (List.getElem?_eq_some_iff.mp hw).1⟩
  · right
    rwa [getElem?_set_ne hj]

structure Follows (w w' : Worker) : Prop where
  stream : w'.stream = w.stream
  predecessor : w'.predecessor = w.predecessor
  done : w.phase.done = true → w'.phase.done = true
  finished : w.phase.finished = true → w'.phase.finished = true

variable {s t : State} {w' : Worker}

theorem last_set (hw : s.workers[i]? = some w) (hworkers : t.workers = s.workers.set i w')
    (hstream : w'.stream = w.stream) (k : Nat) (r : String) : t.Last k r ↔ s.Last k r := by
  constructor
  · intro h j u hj hu
    rcases set_lookup w' hw hu with ⟨rfl,rfl,hset⟩ | hset
    · rw [← hstream]
      exact h j w' hj (by rw [hworkers]; exact hset)
    · exact h j u hj (by rw [hworkers]; exact hset)
  · intro h j u hj hu
    rw [hworkers] at hu
    rcases set_cases hu with ⟨rfl,rfl⟩ | ⟨-,hu⟩
    · rw [hstream]
      exact h j w hj hw
    · exact h j u hj hu

theorem Chained.update (h : Chained s) {k : Nat} (hw : s.workers[k]? = some w)
    (hworkers : t.workers = s.workers.set k w') (hregistry : t.registry = s.registry)
    (hhandoffs : ∀ i u, s.handoffs.lookup u = some i → t.handoffs.lookup u = some i ∨
      (i = k ∧ w'.phase.done = true)) (hclosed : t.closed = s.closed) (hfollows : Follows w w')
    (hbegun : w'.Begun → w.Begun ∨ ∀ (i : Nat) (u : Worker), i < k → s.workers[i]? = some u →
      u.stream = w.stream → u.phase.finished = true)
    (hinput : w'.inputClosed = true → w.inputClosed = true ∨ s.closed = true ∧ s.Last k w.stream)
    (hclosing : t.ClosingOk t.close) (hshut : t.close = .running ∨ t.closed = true) :
    Chained t := by
  have hlast := last_set hw hworkers hfollows.stream
  have hback {j : Nat} {u : Worker} (hu : t.workers[j]? = some u) :
      ∃ u₀, s.workers[j]? = some u₀ ∧ Follows u₀ u ∧ (j = k ∧ u = w' ∧ u₀ = w ∨ u = u₀) := by
    rw [hworkers] at hu
    rcases set_cases hu with ⟨rfl,rfl⟩ | ⟨-,hu⟩
    · exact ⟨w,hw,hfollows,.inl ⟨rfl,rfl,rfl⟩⟩
    · exact ⟨u,hu,⟨rfl,rfl,id,id⟩,.inr rfl⟩
  refine ⟨?_,?_,?_,?_,hclosing,hshut⟩
  · intro j u hu i v hij hv hstream
    obtain ⟨u₀,hu₀,hfu,-⟩ := hback hu
    obtain ⟨v₀,hv₀,hfv,-⟩ := hback hv
    rw [hfv.stream,hfu.stream] at hstream
    rcases h.linked j u₀ hu₀ i v₀ hij hv₀ hstream with hdone | hpred | ⟨l,x,hil,hlj,hx,hxs⟩
    · exact .inl (hfv.done hdone)
    · exact .inr (.inl (by rw [hfu.predecessor]; exact hpred))
    refine .inr (.inr ?_)
    rcases set_lookup w' hw hx with ⟨rfl,rfl,hset⟩ | hset
    · exact ⟨l,w',hil,hlj,by rw [hworkers]; exact hset,
        by rw [hfollows.stream,hfu.stream]; exact hxs⟩
    · exact ⟨l,x,hil,hlj,by rw [hworkers]; exact hset,by rw [hfu.stream]; exact hxs⟩
  · intro i u hu hlasti
    obtain ⟨u₀,hu₀,hfu,hwhich⟩ := hback hu
    rw [hfu.stream] at hlasti ⊢
    rw [hregistry]
    rcases h.handed i u₀ hu₀ ((hlast i u₀.stream).mp hlasti) with hreg | hdone | hhand
    · exact .inl hreg
    · exact .inr (.inl (hfu.done hdone))
    rcases hhandoffs i u₀.stream hhand with hkept | ⟨rfl,hdone⟩
    · exact .inr (.inr hkept)
    rw [hworkers] at hu
    rcases set_cases hu with ⟨-,rfl⟩ | ⟨hne,-⟩
    · exact .inr (.inl hdone)
    · exact absurd rfl hne
  · intro j u hu hb i v hij hv hstream
    obtain ⟨u₀,hu₀,hfu,hwhich⟩ := hback hu
    obtain ⟨v₀,hv₀,hfv,-⟩ := hback hv
    rw [hfv.stream,hfu.stream] at hstream
    refine hfv.finished ?_
    rcases hwhich with ⟨rfl,rfl,rfl⟩ | rfl
    · rcases hbegun hb with hb₀ | hall
      · exact h.begun j u₀ hu₀ hb₀ i v₀ hij hv₀ hstream
      · exact hall i v₀ hij hv₀ hstream
    · exact h.begun j u hu₀ hb i v₀ hij hv₀ hstream
  intro i u hu hcl
  obtain ⟨u₀,hu₀,hfu,hwhich⟩ := hback hu
  rw [hfu.stream,hclosed,hlast]
  rcases hwhich with ⟨rfl,rfl,rfl⟩ | rfl
  · rcases hinput hcl with hcl₀ | hnew
    · exact h.closedLast i u₀ hu₀ hcl₀
    · exact hnew
  · exact h.closedLast i u hu₀ hcl

theorem finished_of_done {phase : Phase} (hdone : phase.done = true)
    (hfailed : phase.exit? ≠ some .failed) (hcancelled : phase.exit? ≠ some .cancelled) :
    phase.finished = true := by
  cases phase with
  | clearing x | stopped x =>
    cases x <;> first | rfl | exact absurd rfl hfailed | exact absurd rfl hcancelled
  | _ => cases hdone

theorem begun_of_finished {phase : Phase} (h : phase.finished = true) : phase.begun = true := by
  cases phase with
  | clearing x | stopped x => cases x <;> first | rfl | cases h
  | _ => cases h

theorem Chained.starts (h : Chained s) (hw : s.workers[j]? = some w)
    (hok : KeepsOrder s (.worker j .start))
    (hready : w.predecessor = none ∨ (s.view w).predecessorDone = true) (i : Nat) (u : Worker)
    (hij : i < j) (hu : s.workers[i]? = some u) (hstream : u.stream = w.stream) :
    u.phase.finished = true := by
  induction hn : j - i using Nat.strong_induction_on generalizing i u with
  | _ n ih =>
    have hexits := hok.2 j w rfl hw i u hij hu hstream
    rcases h.linked j w hw i u hij hu hstream with hdone | hpred | ⟨k,v,hik,hkj,hv,hvs⟩
    · exact finished_of_done hdone hexits.1 hexits.2
    · refine finished_of_done ?_ hexits.1 hexits.2
      rcases hready with hnone | hready
      · rw [hpred] at hnone
        cases hnone
      · simpa [view,doneAt,hpred,hu] using hready
    · have hfinished := ih (j - k) (by omega) k v hkj hv hvs rfl
      exact h.begun k v hv (.inl (begun_of_finished hfinished)) i u hik hu (hstream.trans hvs.symm)

variable {cfg : Config} {op : WorkerOp} {e : Effect}

theorem Follows.turned {v : View} (h : w.Turn cfg v op e) : Follows w e.advanced := by
  refine ⟨h.fixed.stream,h.fixed.predecessor,?_,?_⟩
  · intro hdone
    obtain ⟨x,-,-,rfl⟩ := h.done hdone
    rfl
  intro hfinished
  have hdone : w.phase.done = true := (Bool.and_eq_true _ _ ▸ hfinished).1
  obtain ⟨x,hphase,-,rfl⟩ := h.done hdone
  rwa [hphase] at hfinished

theorem ClosingOk.frame {phase : ClosePhase} (h : s.ClosingOk phase)
    (hclosed : t.closed = s.closed) (hregistry : t.registry = s.registry)
    (hworkers : ∀ (i : Nat) (w : Worker), t.workers[i]? = some w →
      ∃ u, s.workers[i]? = some u ∧ (u.inputClosed = true → w.inputClosed = true)) :
    t.ClosingOk phase := by
  cases phase with
  | closingInputs left drain =>
    unfold ClosingOk at h ⊢
    rwa [hclosed,hregistry]
  | drainingInput i hand left =>
    unfold ClosingOk at h ⊢
    rw [hclosed,hregistry]
    refine ⟨h.1,?_,h.2.2⟩
    intro w hw
    obtain ⟨u,hu,himp⟩ := hworkers i w hw
    exact himp (h.2.1 u hu)
  | _ => trivial

theorem workers_set_back {k : Nat} (hw : s.workers[k]? = some w)
    (hworkers : t.workers = s.workers.set k w')
    (hinput : w.inputClosed = true → w'.inputClosed = true) (i : Nat) (x : Worker)
    (hx : t.workers[i]? = some x) :
    ∃ u, s.workers[i]? = some u ∧ (u.inputClosed = true → x.inputClosed = true) := by
  rw [hworkers] at hx
  rcases set_cases hx with ⟨rfl,rfl⟩ | ⟨-,hx⟩
  · exact ⟨w,hw,hinput⟩
  · exact ⟨x,hx,id⟩

theorem Chained.turned (h : Chained s) (hok : KeepsOrder s (.worker i op))
    (hw : s.workers[i]? = some w) (hturn : w.Turn cfg (s.view w) op e) : Chained (s.apply i e) := by
  obtain ⟨hframe,hworkers,-⟩ := apply_frame s i e
  refine h.update hw hworkers hframe.registry ?_ hframe.closed
    (Follows.turned hturn) ?_ ?_ ?_ (by rw [hframe.close,hframe.closed]; exact h.shut)
  · intro j r hr
    rw [hframe.handoffs]
    exact .inl hr
  · intro hbegun
    rcases hturn.begun hbegun with hbegun | rfl
    · exact .inl hbegun
    · cases hturn with
      | started hphase hready => exact .inr (h.starts hw hok hready)
  · intro hinput
    left
    rwa [← hturn.fixed.inputClosed]
  · rw [hframe.close]
    refine h.closing.frame hframe.closed hframe.registry (workers_set_back hw hworkers ?_)
    intro hinput
    exact hturn.fixed.inputClosed.trans hinput

theorem Chained.frame (h : Chained s) (hworkers : t.workers = s.workers)
    (hregistry : t.registry = s.registry) (hhandoffs : t.handoffs = s.handoffs)
    (hclosed : t.closed = s.closed) (hclosing : t.ClosingOk t.close)
    (hshut : t.close = .running ∨ t.closed = true) : Chained t := by
  have hlast (i : Nat) (r : String) : t.Last i r = s.Last i r := by
    unfold Last
    rw [hworkers]
  refine ⟨?_,?_,?_,?_,hclosing,hshut⟩
  · rw [hworkers]
    exact h.linked
  · simp only [hworkers,hregistry,hhandoffs,hlast]
    exact h.handed
  · rw [hworkers]
    exact h.begun
  · simp only [hworkers,hclosed,hlast]
    exact h.closedLast

theorem ClosingOk.same (h : s.ClosingOk s.close) (hworkers : t.workers = s.workers)
    (hregistry : t.registry = s.registry) (hclosed : t.closed = s.closed)
    (hclose : t.close = s.close) : t.ClosingOk t.close := by
  rw [hclose]
  refine h.frame hclosed hregistry fun i w hw => ⟨w,?_,id⟩
  rwa [← hworkers]

theorem Chained.released (h : Chained s) (a : Admitted) : Chained (s.release a) := by
  obtain ⟨hframe,hworkers,-⟩ := release_frame s a
  refine h.frame hworkers hframe.registry hframe.handoffs hframe.closed
    (h.closing.same hworkers hframe.registry hframe.closed hframe.close) ?_
  rw [hframe.close,hframe.closed]
  exact h.shut

theorem append_cases (h : (l ++ [w])[j]? = some u) :
    (j < l.length ∧ l[j]? = some u) ∨ (j = l.length ∧ u = w) := by
  by_cases hj : j < l.length
  · rw [List.getElem?_append_left hj] at h
    exact .inl ⟨hj,h⟩
  obtain ⟨hlt,hget⟩ := List.getElem?_eq_some_iff.mp h
  have hlast : j = l.length := by
    rw [List.length_append,List.length_singleton] at hlt
    omega
  subst hlast
  rw [List.getElem?_append_right le_rfl,Nat.sub_self] at h
  cases h
  exact .inr ⟨rfl,rfl⟩

theorem Chained.opened {event : Event} (h : Chained s) (hopen : s.closed = false)
    (hregistry : s.registry.lookup event.stream = none) :
    Chained { s with
      source := s.source ++ [event]
      run := .admitting s.workers.length event
      workers := s.workers ++ [Worker.new event.stream (s.handoffs.lookup event.stream)]
      registry := s.registry.insert event.stream s.workers.length
      handoffs := s.handoffs.erase event.stream } := by
  have hrunning : s.close = .running := by
    rcases h.shut with hrunning | hclosed
    · exact hrunning
    · rw [hopen] at hclosed
      cases hclosed
  have hold {j : Nat} {u : Worker} (hu : s.workers[j]? = some u) :
      j < s.workers.length ∧ (s.workers ++
        [Worker.new event.stream (s.handoffs.lookup event.stream)])[j]? = some u := by
    have hlt := (List.getElem?_eq_some_iff.mp hu).1
    exact ⟨hlt,by rw [getElem?_append_left hlt]; exact hu⟩
  have hnew : (s.workers ++
      [Worker.new event.stream (s.handoffs.lookup event.stream)])[s.workers.length]? =
        some (Worker.new event.stream (s.handoffs.lookup event.stream)) := by simp
  refine ⟨?_,?_,?_,?_,?_,.inl hrunning⟩
  · intro j w hw i u hij hu hstream
    rcases append_cases hw with ⟨hj,hw⟩ | ⟨rfl,rfl⟩
    · rcases append_cases hu with ⟨-,hu⟩ | ⟨rfl,-⟩
      · rcases h.linked j w hw i u hij hu hstream with hdone | hpred | ⟨k,v,hik,hkj,hv,hvs⟩
        · exact .inl hdone
        · exact .inr (.inl hpred)
        · exact .inr (.inr ⟨k,v,hik,hkj,(hold hv).2,hvs⟩)
      · omega
    rcases append_cases hu with ⟨-,hu⟩ | ⟨rfl,-⟩
    · by_cases hlast : s.Last i u.stream
      · rcases h.handed i u hu hlast with hreg | hdone | hhand
        · rw [hstream] at hreg
          exact absurd (hregistry.symm.trans hreg) nofun
        · exact .inl hdone
        · rw [hstream] at hhand
          exact .inr (.inl hhand)
      · unfold Last at hlast
        push Not at hlast
        obtain ⟨k,v,hik,hv,hvs⟩ := hlast
        exact .inr (.inr ⟨k,v,hik,(hold hv).1,(hold hv).2,hvs.trans hstream⟩)
    · omega
  · intro i u hu hlast
    rcases append_cases hu with ⟨hi,hu⟩ | ⟨rfl,rfl⟩
    · have hother : u.stream ≠ event.stream := fun heq => hlast s.workers.length _ hi hnew heq.symm
      have hlast₀ : s.Last i u.stream := fun j v hj hv => hlast j v hj (hold hv).2
      rw [lookup_insert_ne hother,lookup_erase_ne hother]
      exact h.handed i u hu hlast₀
    · exact .inl (lookup_insert _)
  · intro j w hw hbegun i u hij hu hstream
    rcases append_cases hw with ⟨hj,hw⟩ | ⟨rfl,rfl⟩
    · rcases append_cases hu with ⟨-,hu⟩ | ⟨rfl,-⟩
      · exact h.begun j w hw hbegun i u hij hu hstream
      · omega
    · rcases hbegun with hbegun | hcalls
      · cases hbegun
      · exact absurd rfl hcalls
  · intro i w hw hclosed
    rcases append_cases hw with ⟨hi,hw⟩ | ⟨rfl,rfl⟩
    · rw [(h.closedLast i w hw hclosed).1] at hopen
      cases hopen
    · cases hclosed
  · change ClosingOk _ s.close
    rw [hrunning]
    trivial

theorem Routed.last {r : String} (h : Routed s) (hr : s.registry.lookup r = some i)
    (hw : s.workers[i]? = some w) : r = w.stream ∧ s.Last i w.stream := by
  obtain ⟨sent,hroute,hlater,-⟩ := h.registered r i hr
  simp only [routes,hw,map_some,some.injEq,Prod.mk.injEq] at hroute
  obtain ⟨rfl,-⟩ := hroute
  refine ⟨rfl,fun j u hij hu hstream => hlater j u.sent hij ?_⟩
  simp only [routes,hu,map_some,hstream]

theorem Chained.retired (h : Chained s) (hrouted : Routed s) (hfree : s.close.locked = false)
    (hw : s.workers[i]? = some w) : Chained (s.retire i w) := by
  have hunlocked (t : State) : t.ClosingOk s.close := by
    cases hclose : s.close with
    | closingInputs left drain | drainingInput k hand left => rw [hclose] at hfree; cases hfree
    | _ => trivial
  unfold retire
  split
  · rename_i hworker
    refine ⟨h.linked,?_,h.begun,h.closedLast,hunlocked _,h.shut⟩
    intro j u hu hlast
    by_cases hstream : u.stream = w.stream
    · have hlastj : s.Last j u.stream := hlast
      have hji : j = i := by
        rcases lt_trichotomy j i with hji | rfl | hij
        · exact absurd hstream.symm (hlastj i w hji hw)
        · rfl
        · exact absurd hstream ((hrouted.last hworker hw).2 j u hij hu)
      subst hji
      rw [hw] at hu
      cases hu
      right
      by_cases hdone : w.phase.done = true
      · exact .inl hdone
      · right
        dsimp only
        rw [if_neg hdone,lookup_insert]
    dsimp only
    rw [lookup_erase_ne hstream]
    rcases h.handed j u hu hlast with hreg | hdone | hhand
    · exact .inl hreg
    · exact .inr (.inl hdone)
    right
    right
    split
    · exact hhand
    · rwa [lookup_insert_ne hstream]
  · exact { h with closing := hunlocked _ }

theorem Chained.cleared (cfg : Config) {x : Exit} (h : Chained s) (hw : s.workers[i]? = some w)
    (hphase : w.phase = .clearing x) :
    Chained ((s.clearHandoff i w.stream).apply i
      (Worker.quietly { w with phase := .stopped x })) := by
  obtain ⟨hframe,hworkers,-⟩ := apply_frame (s.clearHandoff i w.stream) i
    (Worker.quietly { w with phase := .stopped x })
  have hcleared := clearHandoff_frame s i w.stream
  have hturn : w.Turn cfg (s.view w) .clear (Worker.quietly { w with phase := .stopped x }) :=
    .cleared x hphase
  have hworkers₀ : (s.clearHandoff i w.stream).workers = s.workers := by rw [hcleared]
  have hregistry : (s.clearHandoff i w.stream).registry = s.registry := by rw [hcleared]
  have hclosed : (s.clearHandoff i w.stream).closed = s.closed := by rw [hcleared]
  have hclose : (s.clearHandoff i w.stream).close = s.close := by rw [hcleared]
  rw [hworkers₀] at hworkers
  refine h.update hw hworkers (hframe.registry.trans hregistry) ?_ (hframe.closed.trans hclosed)
    (Follows.turned hturn) (fun hb => .inl ?_) (fun hinput => .inl hinput) ?_ ?_
  · intro j r hr
    rw [hframe.handoffs]
    unfold clearHandoff
    split_ifs with hhand
    · by_cases hstream : r = w.stream
      · subst hstream
        rw [hhand] at hr
        cases hr
        exact .inr ⟨rfl,rfl⟩
      · left
        dsimp only
        rwa [lookup_erase_ne hstream]
    · exact .inl hr
  · rcases hturn.begun hb with hb | hop
    · exact hb
    · cases hop
  · rw [hframe.close,hclose]
    exact h.closing.frame (hframe.closed.trans hclosed) (hframe.registry.trans hregistry)
      (workers_set_back hw hworkers id)
  · rw [hframe.close,hclose,hframe.closed,hclosed]
    exact h.shut

theorem Chained.closedInput {left : List Nat} {drain : Bool} (h : Chained s) (hrouted : Routed s)
    (hclose : s.close = .closingInputs left drain) (hmem : i ∈ left) (hw : s.workers[i]? = some w) :
    Chained { s.setWorker i { w with inputClosed := true } with
      close := if drain then .drainingInput i none (left.erase i)
        else .closingInputs (left.erase i) drain } := by
  obtain ⟨hclosed,hleft⟩ := h.closingAt hclose
  have herased : ∀ k ∈ left.erase i, ∃ r, s.registry.lookup r = some k :=
    fun k hk => hleft k (mem_of_mem_erase hk)
  obtain ⟨r,hr⟩ := hleft i hmem
  refine h.update hw rfl rfl (fun j r hr => .inl hr) rfl ⟨rfl,rfl,id,id⟩ (fun hb => .inl hb)
    (fun _ => .inr ⟨hclosed,(hrouted.last hr hw).2⟩) ?_ (.inr hclosed)
  dsimp only
  split
  · refine ⟨hclosed,?_,herased⟩
    intro u hu
    rcases set_cases hu with ⟨-,rfl⟩ | ⟨hne,-⟩
    · rfl
    · exact absurd rfl hne
  · exact ⟨hclosed,herased⟩

theorem Chained.move {a : Action} (h : Chained s) (hrouted : Routed s) (hok : KeepsOrder s a)
    (hmove : Move cfg s a t) : Chained t := by
  have hsame {run : RunPhase} {source : List Event} :
      Chained { s with run := run, source := source } :=
    { h with closing := h.closing.same rfl rfl rfl rfl }
  cases hmove with
  | refused | joined | stopped | ended | gaveUp => exact hsame
  | opened event hrun hopen hregistry => exact h.opened hopen hregistry
  | reserved | closeExpired => exact { h with closing := h.closing.same rfl rfl rfl rfl }
  | dropped cause i d w hrun hw hpolicy => exact absurd rfl (hok.1 cause)
  | sent i x w hrun hw hinput hopen =>
    refine h.update hw rfl rfl (fun j r hr => .inl hr) rfl ⟨rfl,rfl,id,id⟩ (fun hb => .inl hb)
      (fun hclosed => .inl hclosed) ?_ h.shut
    exact h.closing.frame rfl rfl (workers_set_back hw rfl id)
  | aborted i x hrun =>
    have hreleased := h.released x
    exact { hreleased with closing := hreleased.closing.same rfl rfl rfl rfl }
  | retired i w hrun hfree hw => exact h.retired hrouted hfree hw
  | turned i op w e hw hop hturn => exact h.turned hok hw hturn
  | cleared i w x hw hfree hphase => exact h.cleared cfg hw hphase
  | closeBegun hclose =>
    refine ⟨h.linked,h.handed,h.begun,fun i w hw hclosed => ⟨rfl,?_⟩,trivial,.inr rfl⟩
    exact (h.closedLast i w hw hclosed).2
  | sendsDone hclose hidle =>
    have hclosed := h.closedAt (by rw [hclose]; nofun)
    refine { h with closing := ⟨hclosed,?_⟩, shut := .inr hclosed }
    exact forall_mem_map.mpr fun entry hentry => ⟨entry.1,mem_lookup_iff.mpr hentry⟩
  | inputClosed i left drain w hclose hmem hw => exact h.closedInput hrouted hclose hmem hw
  | inputTaken i left w x rest hclose hw hinput =>
    have hclosing := h.closingAt hclose
    refine h.update hw rfl rfl (fun j r hr => .inl hr) rfl ⟨rfl,rfl,id,id⟩ (fun hb => .inl hb)
      (fun hclosed => .inl hclosed) ?_ (.inr hclosing.1)
    have hframe := ClosingOk.frame (t := { s.setWorker i { w with input := rest } with
      close := .drainingInput i (some x) left }) hclosing rfl rfl (workers_set_back hw rfl id)
    exact hframe
  | inputReleased i left x hclose =>
    have hreleased := h.released x
    have hclosing := hreleased.closing
    rw [(release_frame s x).1.close,hclose] at hclosing
    exact { hreleased with closing := hclosing, shut := .inr hclosing.1 }
  | inputDrained i left hclose =>
    have hclosing := h.closingAt hclose
    exact { h with closing := ⟨hclosing.1,hclosing.2.2⟩, shut := .inr hclosing.1 }
  | inputsClosed drain hclose =>
    have hclosing := h.closingAt hclose
    exact { h with closing := trivial, shut := .inr hclosing.1 }
  | closeReturned hclose hall =>
    exact { h with closing := trivial, shut := .inr (h.closedAt (by rw [hclose]; nofun)) }

theorem chained_initial (stored : List FinalizeIntent) : Chained (initial stored) where
  linked j w hw := by cases hw
  handed i u hu := by cases hu
  begun j w hw := by cases hw
  closedLast i w hw := by cases hw
  closing := trivial
  shut := .inl rfl

theorem Routed.unended (h : Routed s) {a : Admitted} (hrun : s.run = .sending i a)
    (hw : s.workers[i]? = some w) : ∀ x ∈ w.sent, isEnd x.event = false := by
  obtain ⟨hpending,-⟩ := h.sending i a hrun
  obtain ⟨sent,hroute,-,hends⟩ := h.registered _ i hpending.worker
  simp only [routes,hw,map_some,some.injEq,Prod.mk.injEq] at hroute
  rw [hroute.2]
  refine hends ?_
  simp [routes,hrun]

def Soundly (s : State) : Prop := ∀ (i : Nat) (w : Worker), s.workers[i]? = some w → w.Sound

theorem Soundly.set (h : Soundly s) (hworkers : t.workers = s.workers.set i w) (hw : w.Sound) :
    Soundly t := by
  intro j u hu
  rw [hworkers] at hu
  rcases set_cases hu with ⟨-,rfl⟩ | ⟨-,hu⟩
  · exact hw
  · exact h j u hu

theorem Soundly.turned {v : View} (h : Soundly s) (hw : s.workers[i]? = some w)
    (hturn : w.Turn cfg v op e) : Soundly (s.apply i e) :=
  h.set (apply_frame s i e).2.1 (hturn.sound (h i w hw))

theorem Soundly.move {a : Action} (h : Soundly s) (hrouted : Routed s) (hchained : Chained s)
    (hok : KeepsOrder s a) (hmove : Move cfg s a t) : Soundly t := by
  cases hmove with
  | opened event hrun hopen hregistry =>
    intro j u hu
    rcases append_cases hu with ⟨-,hu⟩ | ⟨-,rfl⟩
    · exact h j u hu
    · exact ⟨⟨rfl,rfl,.inl rfl⟩,Nat.zero_le 1,forall_mem_nil _⟩
  | dropped cause i d w hrun hw hpolicy => exact absurd rfl (hok.1 cause)
  | sent i x w hrun hw hinput hopen =>
    exact h.set rfl ((h i w hw).send hinput hopen (hrouted.unended hrun hw) x)
  | aborted i x hrun | inputReleased i left x hclose =>
    have hworkers := (release_frame s x).2.1
    intro j u hu
    exact h j u (hworkers ▸ hu)
  | retired i w hrun hfree hw =>
    unfold retire
    split <;> exact h
  | turned i op w e hw hop hturn => exact h.turned hw hturn
  | cleared i w x hw hfree hphase =>
    have hturn : w.Turn cfg (s.view w) .clear _ := .cleared x hphase
    rw [clearHandoff_frame]
    exact Soundly.turned (s := { s with handoffs := _ }) h hw hturn
  | inputClosed i left drain w hclose hmem hw => exact h.set rfl (h i w hw).close
  | inputTaken i left w x rest hclose hw hinput =>
    exact h.set rfl ((h i w hw).takeInput ((hchained.closingAt hclose).2.1 w hw) hinput)
  | _ => exact h

end State

end OpenSandbox.NodeAgent.Pipeline
