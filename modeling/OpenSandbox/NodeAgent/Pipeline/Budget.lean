import OpenSandbox.Library.Quota
import OpenSandbox.Library.Runs
import OpenSandbox.NodeAgent.Pipeline.Turns

namespace OpenSandbox.NodeAgent.Pipeline

open Quota List Multiset

def charged (m : Multiset Admitted) : Multiset Admitted := m.filter fun a => a.bytes ≠ 0

theorem charged_zero : charged 0 = 0 := rfl

theorem charged_add (m n : Multiset Admitted) : charged (m + n) = charged m + charged n :=
  filter_add _ m n

variable {a : Admitted}

theorem charged_singleton (h : a.bytes ≠ 0) : charged {a} = {a} :=
  Multiset.filter_eq_self.mpr fun _ hb => by rwa [Multiset.mem_singleton.mp hb]

theorem charged_free (h : a.bytes = 0) : charged {a} = 0 := by
  rw [charged,Multiset.filter_singleton,if_neg (not_not.mpr h)]
  rfl

def inHand : Option Admitted → Multiset Admitted
  | none => 0
  | some a => {a}

def Phase.held : Phase → Multiset Admitted
  | .releasing left _ => left
  | .draining _ hand => inHand hand
  | _ => 0

def Worker.held (w : Worker) : Multiset Admitted := w.input + w.items + w.phase.held

def RunPhase.held : RunPhase → Multiset Admitted
  | .sending _ a => {a}
  | _ => 0

def ClosePhase.held : ClosePhase → Multiset Admitted
  | .drainingInput _ hand _ => inHand hand
  | _ => 0

def Worker.owes (w : Worker) : Multiset Admitted := charged w.held

namespace State

def account (s : State) : Account := ⟨s.globalBytes,s.sandboxBytes⟩

def held (s : State) : Multiset Admitted :=
  charged s.run.held + (s.workers.map Worker.owes).sum + charged s.close.held

end State

namespace Worker

variable {w : Worker}

def Idles (w : Worker) (e : Effect) : Prop := e.worker.held = w.held ∧ e.released = none

def Balances (w : Worker) (e : Effect) : Prop :=
  w.owes = charged (inHand e.released) + e.worker.owes

variable {e : Effect}

theorem Idles.balances (h : Idles w e) : Balances w e := by
  rw [Balances,owes,owes,h.1,h.2,inHand,charged_zero,zero_add]

theorem balances_moved (hinput : e.worker.input = w.input) (hitems : e.worker.items = w.items)
    (hphase : e.worker.phase.held = w.phase.held) (hreleased : e.released = none) :
    Balances w e :=
  Idles.balances ⟨by rw [held,held,hinput,hitems,hphase],hreleased⟩

variable {a : Admitted}

theorem balances_released (hheld : w.held = {a} + e.worker.held) (hreleased : e.released = some a) :
    Balances w e := by
  rw [Balances,owes,owes,hheld,charged_add,hreleased,inHand]

theorem owes_input {rest : List Admitted} (h : w.input = a :: rest) :
    w.owes = charged {a} + { w with input := rest }.owes := by
  rw [owes,owes,← charged_add]
  simp only [held,h,← cons_coe,← singleton_add,add_assoc]

theorem balances_queued {rest : List Admitted} (hinput : w.input = a :: rest)
    (hheld : e.worker.held = rest + (w.items ++ [a] : List Admitted) + w.phase.held)
    (hreleased : e.released = none) : Balances w e := by
  refine Idles.balances ⟨hheld.trans ?_,hreleased⟩
  simp only [held,hinput,← coe_add,← cons_coe,← singleton_add,coe_nil]
  abel

theorem balances_ended {rest : List Admitted} {x : StreamEnd} (hinput : w.input = a :: rest)
    (hevent : a.event = .ended x)
    (hheld : e.worker.held = { w with input := rest }.held) (hreleased : e.released = none) :
    Balances w e := by
  rw [Balances,owes_input hinput,charged_free (by rw [a.sized,hevent,Event.bytes]),
    hreleased,inHand,charged_zero,owes,owes,hheld]

theorem held_fallible {phase : Phase} (h : fallible phase = true) : phase.held = 0 := by
  cases phase <;> first | rfl | cases h

theorem Turn.balances {cfg : Config} {v : View} {op : WorkerOp} (h : Turn cfg v w op e) :
    Balances w e := by
  cases h.change with
  | retried => exact Idles.balances ⟨rfl,rfl⟩
  | proceeded next hphase =>
    have hnone : w.phase.held = 0 := by
      rcases hphase with ⟨hphase,-⟩ | hphase <;> rw [hphase] <;> rfl
    cases next <;> exact balances_moved rfl rfl hnone.symm rfl
  | queued a rest d hphase hinput => exact balances_queued hinput rfl rfl
  | filled a rest d hphase hinput => exact balances_queued hinput (by rw [hphase]; rfl) rfl
  | endFlushed a rest x hphase hinput hevent | endTaken a rest x hphase hinput hevent =>
    exact balances_ended hinput hevent (by rw [held,held,hphase]; rfl) rfl
  | acknowledged next hphase =>
    refine Idles.balances ⟨?_,rfl⟩
    simp only [held,quietly,hphase,Phase.held,coe_nil,add_zero]
  | sinkCalled x intent put hr | sourceCalled x intent put hr | resumedDone x intent put hr =>
    exact balances_moved rfl rfl (held_fallible hr.fallible).symm rfl
  | gaveUp x hfallible => exact balances_moved rfl rfl (held_fallible hfallible).symm rfl
  | released a left next hphase =>
    refine balances_released (a := a) ?_ rfl
    simp only [held,quietly,hphase,Phase.held,← cons_coe,← singleton_add]
    abel
  | itemDrained x a items hphase hitems =>
    refine balances_released (a := a) ?_ rfl
    simp only [held,quietly,hitems,← cons_coe,← singleton_add]
    abel
  | inputPicked x a rest hphase hitems hinput =>
    refine Idles.balances ⟨?_,rfl⟩
    simp only [held,quietly,hphase,hinput,Phase.held,inHand,← cons_coe,← singleton_add]
    abel
  | inputDrained x a hphase =>
    refine balances_released (a := a) ?_ rfl
    simp only [held,quietly,hphase,Phase.held,inHand]
    abel
  | started hphase | unstarted hphase | interrupted hphase | flushed next hphase
  | consumed next hphase | finalized x intent hphase | endAcknowledged x intent hphase
  | recordedDone x intent hphase | drained x hphase | reported x hphase | closedDone x hphase
  | cleared x hphase => exact balances_moved rfl rfl (by rw [hphase]; rfl) rfl

end Worker

theorem sum_map_set {β M : Type} [AddCommMonoid M] (f : β → M) {l : List β} {i : Nat} {w : β}
    (h : l[i]? = some w) (w' : β) :
    ((l.set i w').map f).sum + f w = (l.map f).sum + f w' := by
  induction l generalizing i with
  | nil => simp at h
  | cons x l ih =>
    cases i with
    | zero =>
      simp only [List.getElem?_cons_zero,Option.some.injEq] at h
      subst h
      simp only [List.set_cons_zero,List.map_cons,List.sum_cons]
      abel
    | succ i =>
      simp only [List.getElem?_cons_succ] at h
      simp only [List.set_cons_succ,List.map_cons,List.sum_cons,add_assoc,ih h]

namespace State

variable {s : State} {i : Nat} {w w' : Worker} {m : Multiset Admitted}

section

variable (h : s.workers[i]? = some w)

include h

theorem sum_owes_set (howes : w.owes = m + w'.owes) :
    (s.workers.map Worker.owes).sum = m + ((s.workers.set i w').map Worker.owes).sum := by
  have hsum := sum_map_set Worker.owes h w'
  rw [howes,← add_assoc] at hsum
  rw [← add_right_cancel hsum,add_comm]

theorem sum_owes_add (howes : w'.owes = m + w.owes) :
    ((s.workers.set i w').map Worker.owes).sum = m + (s.workers.map Worker.owes).sum := by
  have hsum := sum_map_set Worker.owes h w'
  rw [howes,← add_assoc] at hsum
  rw [add_right_cancel hsum,add_comm]

theorem held_setWorker (howes : w.owes = m + w'.owes) : s.held = m + (s.setWorker i w').held := by
  simp only [held,setWorker,sum_owes_set h howes]
  abel

end

structure Framed (s t : State) : Prop where
  account : t.account = s.account
  admitted : t.admitted = s.admitted
  released : t.released = s.released
  source : t.source = s.source
  run : ∀ i e, t.run = .admitting i e → s.run = .admitting i e

inductive Books (cfg : Config) (s t : State) : Prop
  | same : Framed s t → t.held = s.held → Books cfg s t
  | received (event : Event) : t.account = s.account → t.admitted = s.admitted →
      t.released = s.released → t.source = s.source ++ [event] → t.held = s.held → Books cfg s t
  | reserved (a : Admitted) : (∃ i e, s.run = .admitting i e) →
      a.position = s.source.length - 1 → 0 < a.bytes → s.fits cfg a.bytes a.sandboxID = true →
      t.account = s.account.charge a.sandboxID a.bytes → t.admitted = s.admitted ++ [a] →
      t.released = s.released → t.source = s.source → (∀ i e, t.run ≠ .admitting i e) →
      t.held = a ::ₘ s.held → Books cfg s t
  | refunded (a : Admitted) : a.bytes ≠ 0 → t.account = s.account.refund a.sandboxID a.bytes →
      t.admitted = s.admitted → t.released = s.released ++ [a] → t.source = s.source →
      (∀ i e, t.run = .admitting i e → s.run = .admitting i e) → s.held = a ::ₘ t.held →
      Books cfg s t

variable {cfg : Config} {t : State} {a : Admitted}

theorem books_release (h : Framed s t) (hheld : s.held = charged {a} + t.held) :
    Books cfg s (t.release a) := by
  by_cases hfree : a.bytes = 0
  · rw [charged_free hfree,zero_add] at hheld
    rw [release,if_pos hfree]
    exact .same h hheld.symm
  rw [charged_singleton hfree,singleton_add] at hheld
  have haccount : (t.release a).account = s.account.refund a.sandboxID a.bytes := by
    rw [release,if_neg hfree]
    exact congrArg (·.refund a.sandboxID a.bytes) h.account
  rw [release,if_neg hfree] at haccount ⊢
  refine .refunded a hfree haccount h.admitted ?_ h.source h.run hheld
  exact congrArg (· ++ [a]) h.released

theorem eventBytes_pos (d : Delivery) : 0 < eventBytes d := by
  have hattributes : 0 ≤ (d.record.attributes.entries.map fun entry =>
      ((utf8 entry.1).length + (utf8 entry.2).length : Int)).sum := by
    refine sum_nonneg (forall_mem_map.mpr fun entry _ => ?_)
    positivity
  unfold eventBytes
  positivity

theorem books_apply {e : Effect} (hw : s.workers[i]? = some w) (h : w.Balances e) :
    Books cfg s (s.apply i e) := by
  have hheld : s.held = charged (inHand e.released) +
      (s.setWorker i { e.worker with calls := e.worker.calls ++ e.logged }).held :=
    held_setWorker hw h
  cases hreleased : e.released with
  | none =>
    rw [hreleased,inHand,charged_zero,zero_add] at hheld
    cases hintent : e.intent with
    | none | some intent =>
      simp only [apply,hreleased,hintent]
      exact .same ⟨rfl,rfl,rfl,rfl,fun _ _ h => h⟩ hheld.symm
  | some a =>
    rw [hreleased,inHand] at hheld
    cases hintent : e.intent with
    | none | some intent =>
      simp only [apply,hreleased,hintent]
      exact books_release ⟨rfl,rfl,rfl,rfl,fun _ _ h => h⟩ hheld

theorem Books.of_handoffs {m : GoMap Nat} (h : Books cfg { s with handoffs := m } t) :
    Books cfg s t := by
  cases h with
  | same hframe hheld =>
    exact .same { hframe with } hheld
  | received event ha hd hr hs hh => exact .received event ha hd hr hs hh
  | reserved a hrun hp hb hf ha hd hr hs hn hh => exact .reserved a hrun hp hb hf ha hd hr hs hn hh
  | refunded a hb ha hd hr hs hn hh => exact .refunded a hb ha hd hr hs hn hh

theorem books_cleared {x : Exit} (hw : s.workers[i]? = some w) (hphase : w.phase = .clearing x) :
    Books cfg s
      ((s.clearHandoff i w.stream).apply i (Worker.quietly { w with phase := .stopped x })) := by
  have hturn : w.Turn cfg (s.view w) .clear (Worker.quietly { w with phase := .stopped x }) :=
    .cleared x hphase
  unfold clearHandoff
  split
  · exact (books_apply (s := { s with handoffs := s.handoffs.erase w.stream }) hw
      hturn.balances).of_handoffs
  · exact books_apply hw hturn.balances

theorem held_frame (hrun : t.run.held = s.run.held) (hworkers : t.workers = s.workers)
    (hclose : t.close.held = s.close.held) : t.held = s.held := by
  rw [held,held,hrun,hworkers,hclose]

theorem books_reserved {d : Delivery} (ha : a = s.deliveryOf d)
    (hrun : s.run = .admitting i (.delivery d)) (hfits : s.fits cfg a.bytes a.sandboxID = true) :
    Books cfg s { s.reserve a with run := .sending i a } := by
  have hbytes : 0 < a.bytes := by rw [ha]; exact eventBytes_pos d
  have hposition : a.position = s.source.length - 1 := by rw [ha]; rfl
  refine .reserved a ⟨i,_,hrun⟩ hposition hbytes hfits rfl rfl rfl rfl nofun ?_
  simp only [held,reserve,hrun,RunPhase.held]
  rw [charged_singleton hbytes.ne',charged_zero,zero_add,singleton_add,cons_add]

theorem owes_sent (w : Worker) (a : Admitted) :
    { w with input := w.input ++ [a], sent := w.sent ++ [a] }.owes = charged {a} + w.owes := by
  rw [Worker.owes,Worker.owes,← charged_add]
  simp only [Worker.held,← coe_add,coe_singleton]
  abel_nf

theorem books_sent (hrun : s.run = .sending i a) (hw : s.workers[i]? = some w) :
    Books cfg s { s.setWorker i { w with input := w.input ++ [a], sent := w.sent ++ [a] } with
      run := if isEnd a.event then .retiring i else .selecting } := by
  refine .same ⟨rfl,rfl,rfl,rfl,?_⟩ ?_
  · intro j e hadmitting
    dsimp only at hadmitting
    split at hadmitting <;> cases hadmitting
  have hdone : RunPhase.held (if isEnd a.event then .retiring i else .selecting) = 0 := by
    split <;> rfl
  have hsending : s.run.held = {a} := by rw [hrun]; rfl
  simp only [held,setWorker,hsending,hdone,sum_owes_add hw (owes_sent w a),charged_zero,zero_add]

theorem books_quit {phase : RunPhase} (hrun : s.run = phase) (hheld : phase.held = 0)
    (hframe : t = { s with run := t.run, registry := t.registry, handoffs := t.handoffs })
    (hquiet : t.run.held = 0) (hdone : ∀ i e, t.run ≠ .admitting i e) : Books cfg s t := by
  rw [hframe]
  refine .same ⟨rfl,rfl,rfl,rfl,fun i e h => absurd h (hdone i e)⟩ (held_frame ?_ rfl rfl)
  rw [hrun,hheld,hquiet]

theorem books_abort (hrun : s.run = .sending i a) :
    Books cfg s { s.release a with run := .returned } := by
  have hmoved : { s.release a with run := .returned } = { s with run := .returned }.release a := by
    unfold release
    split <;> rfl
  rw [hmoved]
  refine books_release ⟨rfl,rfl,rfl,rfl,nofun⟩ ?_
  simp only [held,hrun,RunPhase.held,charged_zero,zero_add,add_assoc]

variable {left : List Nat}

theorem books_closeInput {drain : Bool} (hclose : s.close = .closingInputs left drain)
    (hw : s.workers[i]? = some w) :
    Books cfg s { s.setWorker i { w with inputClosed := true } with
      close := if drain then .drainingInput i none (left.erase i)
        else .closingInputs (left.erase i) drain } := by
  refine .same ⟨rfl,rfl,rfl,rfl,fun _ _ h => h⟩ ?_
  have howes : { w with inputClosed := true }.owes = 0 + w.owes := (zero_add _).symm
  have hnone : ClosePhase.held (if drain then .drainingInput i none (left.erase i)
      else .closingInputs (left.erase i) drain) = 0 := by
    split <;> rfl
  have hclosing : s.close.held = 0 := by rw [hclose]; rfl
  simp only [held,setWorker,hclosing,hnone,sum_owes_add hw howes,zero_add]

theorem books_closeRelease (hclose : s.close = .drainingInput i (some a) left) :
    Books cfg s { s.release a with close := .drainingInput i none left } := by
  have hmoved : { s.release a with close := .drainingInput i none left } =
      { s with close := .drainingInput i none left }.release a := by
    unfold release
    split <;> rfl
  rw [hmoved]
  refine books_release ⟨rfl,rfl,rfl,rfl,fun _ _ h => h⟩ ?_
  simp only [held,hclose,ClosePhase.held,inHand,charged_zero,add_zero]
  abel

theorem books_close {phase : ClosePhase} (hclose : s.close = phase) (hheld : phase.held = 0)
    (hframe : t = { s with closed := t.closed, cancelled := t.cancelled, close := t.close })
    (hquiet : t.close.held = 0) : Books cfg s t := by
  rw [hframe]
  refine .same ⟨rfl,rfl,rfl,rfl,fun _ _ h => h⟩ (held_frame rfl rfl ?_)
  rw [hclose,hheld,hquiet]

theorem Move.books {a : Action} (h : Move cfg s a t) : Books cfg s t := by
  cases h with
  | refused event hrun hclosed | joined event i hrun hopen hregistry =>
    exact .received event rfl rfl rfl rfl (held_frame (by rw [hrun]; rfl) rfl rfl)
  | opened event hrun hopen hregistry =>
    refine .received event rfl rfl rfl rfl ?_
    have hnew (predecessor : Option Nat) : (Worker.new event.stream predecessor).owes = 0 := rfl
    simp only [held,hrun,RunPhase.held,List.map_append,List.map_cons,List.map_nil,
      List.sum_append,List.sum_cons,List.sum_nil,hnew,add_zero]
  | stopped hrun | gaveUp i d hrun => exact books_quit hrun rfl rfl rfl nofun
  | ended i e hrun =>
    refine .same ⟨rfl,rfl,rfl,rfl,nofun⟩ ?_
    have hfree : charged {s.endOf e} = 0 := charged_free rfl
    simp only [held,hrun,RunPhase.held,hfree,charged_zero]
  | reserved i d hrun hfits => exact books_reserved rfl hrun hfits
  | dropped cause i d w hrun hw hpolicy =>
    refine .same ⟨rfl,rfl,rfl,rfl,nofun⟩ ?_
    have howes : (recordDrop cause.reason w).owes = 0 + w.owes := (zero_add _).symm
    simp only [held,setWorker,hrun,sum_owes_add hw howes,RunPhase.held,zero_add]
  | sent i a w hrun hw hinput hopen => exact books_sent hrun hw
  | aborted i a hrun => exact books_abort hrun
  | retired i w hrun hfree hw =>
    unfold retire
    split <;> exact books_quit hrun rfl rfl rfl nofun
  | turned i op w e hw hop hturn => exact books_apply hw hturn.balances
  | cleared i w x hw hfree hphase => exact books_cleared hw hphase
  | closeBegun hclose | sendsDone hclose hidle | inputDrained i left hclose
  | inputsClosed drain hclose | closeReturned hclose hall => exact books_close hclose rfl rfl rfl
  | closeExpired hclose => exact .same ⟨rfl,rfl,rfl,rfl,fun _ _ h => h⟩ rfl
  | inputClosed i left drain w hclose hmem hw => exact books_closeInput hclose hw
  | inputTaken i left w a rest hclose hw hinput =>
    refine .same ⟨rfl,rfl,rfl,rfl,fun _ _ h => h⟩ ?_
    simp only [held,setWorker,hclose,sum_owes_set hw (Worker.owes_input hinput),
      ClosePhase.held,inHand,charged_zero,add_zero]
    abel
  | inputReleased i left a hclose => exact books_closeRelease hclose

end State

end OpenSandbox.NodeAgent.Pipeline
