import OpenSandbox.NodeAgent.Pipeline.Finishing
import OpenSandbox.NodeAgent.Pipeline.Shutdown

namespace OpenSandbox.NodeAgent.Pipeline

open List Option Bool Worker

variable (stream : String)

def Entry.consumedBy : Entry → List Admitted
  | .consume r batch => if r = stream then batch else []
  | _ => []

def Entry.ackedBy : Entry → List Admitted
  | .acknowledged r batch => if r = stream then batch else []
  | _ => []

def consumedOf (log : List Entry) : List Admitted :=
  log.flatMap (Entry.consumedBy stream)

def ackedOf (log : List Entry) : List Admitted :=
  log.flatMap (Entry.ackedBy stream)

theorem consumedOf_append (log more : List Entry) :
    consumedOf stream (log ++ more) = consumedOf stream log ++ consumedOf stream more :=
  flatMap_append

namespace Worker

inductive Logs (w : Worker) (f : Effect) : Prop
  | silent : f.logged = [] → Logs w f
  | consume (batch) : w.phase = .idle → f.logged = [.consume w.stream batch] → Logs w f
  | acknowledged (next) : w.phase = .acknowledging next →
      f.logged = [.acknowledged w.stream w.items] → Logs w f
  | finalize (e intent) : w.Finishes e → w.phase.begun = true →
      f.logged = [.finalize w.endPosition (w.finalizeRequest e intent)] → Logs w f
  | finalized (stream revision) : f.logged = [.finalized stream revision] → Logs w f
  | endAcknowledged (stream revision) : f.logged = [.endAcknowledged stream revision] → Logs w f

variable {w : Worker} {f : Effect}

theorem Turn.logs {cfg : Config} {v : View} {op : WorkerOp} (h : w.Sound)
    (hturn : w.Turn cfg v op f) : Logs w f := by
  cases hturn.change with
  | proceeded next => cases next <;> exact .silent rfl
  | flushed next hphase | filled a rest d hphase | endFlushed a rest e hphase =>
    exact .consume _ hphase rfl
  | acknowledged next hphase => exact .acknowledged next hphase rfl
  | finalized e intent => exact .finalized _ _ rfl
  | endAcknowledged e intent => exact .endAcknowledged _ _ rfl
  | sinkCalled e intent put hr =>
    exact .finalize e intent (hr.finishes h.shape) (begun_fallible hr.fallible) rfl
  | _ => exact .silent rfl

theorem Logs.consumed {w : Worker} {f : Effect} (h : Logs w f) (stream : String) (a : Admitted) :
    a ∈ consumedOf stream f.logged ↔ w.stream = stream ∧ a ∈ f.logged.flatMap Entry.consumed := by
  cases h <;> rename_i hl <;> rw [hl] <;> simp [consumedOf,Entry.consumedBy,Entry.consumed]

theorem consumed_advanced (hfixed : Fixed w f.worker) :
    f.advanced.consumed = w.consumed ++ f.logged.flatMap Entry.consumed := by
  simp only [consumed,Effect.advanced,flatMap_append,hfixed.calls]

theorem Logs.acked (h : Logs w f) (hfixed : Fixed w f.worker) (a : Admitted)
    (ha : a ∈ f.advanced.acked) : a ∈ w.acked ∨ a ∈ ackedOf w.stream f.logged := by
  have hacked : f.advanced.acked = w.acked ++ f.logged.flatMap Entry.acked := by
    simp only [Worker.acked,Effect.advanced,flatMap_append,hfixed.calls]
  rw [hacked] at ha
  rcases mem_append.mp ha with ha | ha
  · exact .inl ha
  right
  cases h <;> rename_i hl <;> rw [hl] at ha ⊢ <;> simp [ackedOf,Entry.ackedBy,Entry.acked] at ha ⊢
  exact ha

theorem Left.prefix_sent {x : Exit} (h : w.Left x) : w.consumed <+: w.sent := by
  cases x with
  | returned =>
    rcases h.2 with ⟨e,p,hafter⟩ | hclosed
    · exact hafter.prefix_sent
    · exact hclosed.2
  | cancelled | failed => exact h

theorem Sound.consumed_sent (h : w.Sound) : w.consumed <+: w.sent := by
  have hshape := h.shape
  cases hphase : w.phase <;> simp only [Shape,hphase] at hshape
  case waiting => simp [consumed,hshape.1]
  case idle => exact (prefix_append _ _).trans hshape.2.prefix_sent
  case consuming | acknowledging => exact hshape.2.prefix_sent
  case releasing | loadingIntent | finalizing | recordingSink | endingSource | recordingSource =>
    exact hshape.2.2.prefix_sent
  all_goals exact hshape.prefix_sent

end Worker

structure LogOk (stored : List FinalizeIntent) (source : List Event) (log : List Entry) :
    Prop where
  sorted : ∀ r, (consumedOf r log).Pairwise (·.position < ·.position)
  genuine : ∀ r, ∀ a ∈ consumedOf r log, a.event.stream = r ∧ State.isEnd a.event = false ∧
    source[a.position]? = some a.event
  complete : ∀ r, ∀ a ∈ consumedOf r log, ∀ q d, q < a.position →
    source[q]? = some (.delivery d) → d.streamRef = r → ∃ b ∈ consumedOf r log, b.position = q
  finalize : ∀ earlier later p request, log = earlier ++ .finalize p request :: later →
    (∃ e, source[p]? = some (.ended e) ∧ e.streamRef = request.streamRef) ∧
    ∀ q d, q < p → source[q]? = some (.delivery d) → d.streamRef = request.streamRef →
      (∃ b ∈ consumedOf request.streamRef earlier, b.position = q) ∧
        ∃ b ∈ ackedOf request.streamRef earlier, b.position = q
  consume : ∀ earlier later r batch, log = earlier ++ .consume r batch :: later →
    ∀ a ∈ batch, ∀ q e, q < a.position → source[q]? = some (.ended e) → e.streamRef = r →
      EndDone stored earlier e

namespace State

structure Logged (s : State) : Prop where
  consumed : ∀ r a, a ∈ consumedOf r s.log ↔
    ∃ (i : Nat) (w : Worker), s.workers[i]? = some w ∧ w.stream = r ∧ a ∈ w.consumed
  acked : ∀ (i : Nat) (w : Worker), s.workers[i]? = some w →
    ∀ a ∈ w.acked, a ∈ ackedOf w.stream s.log

structure InOrder (stored : List FinalizeIntent) (s : State) : Prop where
  routed : s.Routed
  chained : s.Chained
  sound : s.Soundly
  finishing : s.Finishing stored
  logged : s.Logged

variable {stored : List FinalizeIntent} {s : State}

variable {i : Nat} {w : Worker}

theorem Routed.route (hw : s.workers[i]? = some w) :
    s.routes.route i = some (w.stream, w.sent) := by
  simp only [routes,hw,map_some]

theorem Routed.worker {r : String} {sent : List Admitted} (h : s.routes.route i = some (r, sent)) :
    ∃ w, s.workers[i]? = some w ∧ w.stream = r ∧ w.sent = sent := by
  obtain ⟨w,hw,heq⟩ := map_eq_some_iff.mp h
  cases heq
  exact ⟨w,hw,rfl,rfl⟩

variable {k q : Nat} {a : Admitted}

theorem Routed.located (h : s.Routed) (hw : s.workers[k]? = some w) (ha : a ∈ w.sent)
    {event : Event} (hq : q < a.position) (hevent : s.source[q]? = some event)
    (hstream : event.stream = w.stream) :
    ∃ (j : Nat) (u : Worker), j ≤ k ∧ s.workers[j]? = some u ∧ u.stream = w.stream ∧
      ∃ b ∈ u.sent, b.position = q ∧ b.event = event := by
  obtain ⟨-,hsource⟩ := h.carried k _ _ (Routed.route hw) a ha
  have hlt := (List.getElem?_eq_some_iff.mp hsource).1
  rcases h.covered q event hevent with ⟨j,r,sent,hroute,b,hb,hbq⟩ | ⟨hlast,-⟩
  · obtain ⟨u,hu,rfl,rfl⟩ := Routed.worker hroute
    obtain ⟨hbstream,hbsource⟩ := h.carried j _ _ hroute b hb
    have hbevent : b.event = event := by
      rw [hbq] at hbsource
      exact Option.some.inj (hbsource.symm.trans hevent)
    have hus : u.stream = w.stream := by rw [← hbstream,hbevent,hstream]
    refine ⟨j,u,?_,hu,hus,b,hb,hbq,hbevent⟩
    by_contra hlater
    have hkj : k < j := Nat.lt_of_not_le hlater
    rw [hus] at hroute
    have horder := h.ordered k j _ _ _ hkj (Routed.route hw) hroute a ha b hb
    omega
  · have hlength : s.routes.source = s.source := rfl
    rw [hlength] at hlast hlt
    omega

theorem InOrder.settled (h : s.InOrder stored) {j : Nat} {u : Worker} (hjk : j < k)
    (hu : s.workers[j]? = some u) (hw : s.workers[k]? = some w) (hstream : u.stream = w.stream)
    (hbegun : w.Begun) :
    u.acked = u.consumed ∧ (∀ b ∈ u.sent, isEnd b.event = false → b ∈ u.consumed) ∧
      ∀ b ∈ u.sent, ∀ e, b.event = .ended e → EndDone stored s.log e := by
  have hfinished := h.chained.begun k w hw hbegun j u hjk hu hstream
  have hexit : u.phase.exit? = some .returned := by
    simp only [Phase.finished,and_eq_true,decide_eq_true_eq] at hfinished
    exact hfinished.2
  have hopen : u.inputClosed ≠ true := by
    intro hclosed
    exact (h.chained.closedLast j u hu hclosed).2 k w hjk hw hstream.symm
  have hleft := (shape_exit hexit).mp (h.sound j u hu).shape
  have hprogress := (progress_exit hexit).mp (h.finishing.workers j u hu) rfl
  refine ⟨hleft.1,?_,hprogress.resolve_left hopen⟩
  rcases hleft.2 with ⟨e,p,x,hsent,hx,-⟩ | ⟨hclosed,-⟩
  · intro b hb hdelivery
    rw [hsent] at hb
    rcases mem_append.mp hb with hb | hb
    · exact hb
    · rw [mem_singleton.mp hb,hx] at hdelivery
      cases hdelivery
  · exact absurd hclosed hopen

theorem mem_of_prefix_sorted {l L : List Admitted} (hhead : l <+: L)
    (hsorted : L.Pairwise (·.position < ·.position)) {b : Admitted} (ha : a ∈ l) (hb : b ∈ L)
    (hlt : b.position < a.position) : b ∈ l := by
  obtain ⟨t,rfl⟩ := hhead
  rcases mem_append.mp hb with hb | hb
  · exact hb
  · have := (pairwise_append.mp hsorted).2.2 a ha b hb
    omega

theorem split_append {log earlier later : List Entry} {entry x : Entry}
    (h : log ++ [entry] = earlier ++ x :: later) :
    (∃ rest, log = earlier ++ x :: rest) ∨ (entry = x ∧ earlier = log) := by
  rcases eq_nil_or_concat later with rfl | ⟨rest,last,rfl⟩
  · obtain ⟨hlog,hentry⟩ := append_inj' h rfl
    cases hentry
    exact .inr ⟨rfl,hlog.symm⟩
  · rw [concat_eq_append,← cons_append,← append_assoc] at h
    exact .inl ⟨rest,(append_inj' h rfl).1⟩

section

variable (h : s.InOrder stored)

include h

section

variable (hw : s.workers[k]? = some w)

include hw

theorem InOrder.plain_before (hbegun : w.Begun) (ha : a ∈ w.sent) {read : List Admitted}
    (hread : ∀ b ∈ w.sent, b.position < a.position → b ∈ read) {d : Delivery} (hq : q < a.position)
    (hd : s.source[q]? = some (.delivery d)) (hstream : d.streamRef = w.stream) :
    ∃ b, b.position = q ∧ (b ∈ consumedOf w.stream s.log ∧ b ∈ ackedOf w.stream s.log ∨
      b ∈ read) := by
  obtain ⟨j,u,hjk,hu,hus,b,hb,hbq,hbevent⟩ := h.routed.located hw ha hq hd hstream
  refine ⟨b,hbq,?_⟩
  rcases Nat.lt_or_eq_of_le hjk with hlt | rfl
  · left
    obtain ⟨hacked,hconsumed,-⟩ := h.settled hlt hu hw hus hbegun
    have hmem := hconsumed b hb (by rw [hbevent]; rfl)
    refine ⟨(h.logged.consumed _ b).mpr ⟨j,u,hu,hus,hmem⟩,?_⟩
    rw [← hus]
    exact h.logged.acked j u hu b (by rw [hacked]; exact hmem)
  · right
    rw [hw] at hu
    cases hu
    exact hread b hb (by rw [hbq]; exact hq)

theorem InOrder.ends_before (hbegun : w.Begun) (ha : a ∈ w.sent) {e : StreamEnd}
    (hq : q < a.position) (he : s.source[q]? = some (.ended e)) (hstream : e.streamRef = w.stream)
    : EndDone stored s.log e := by
  obtain ⟨j,u,hjk,hu,hus,b,hb,hbq,hbevent⟩ := h.routed.located hw ha hq he hstream
  rcases Nat.lt_or_eq_of_le hjk with hlt | rfl
  · exact (h.settled hlt hu hw hus hbegun).2.2 b hb e hbevent
  rw [hw] at hu
  cases hu
  have hmax := h.routed.ends j _ _ (Routed.route hw) b hb (by rw [hbevent]; rfl) a ha
  omega

theorem InOrder.above (hphase : w.phase = .idle) {x : Admitted} (hx : x ∈ consumedOf w.stream s.log)
    (ha : a ∈ w.sent) (hown : x ∈ w.consumed → x.position < a.position)
    : x.position < a.position := by
  obtain ⟨i,u,hu,hus,hxu⟩ := (h.logged.consumed _ x).mp hx
  have hxsent : x ∈ u.sent := (h.sound i u hu).consumed_sent.subset hxu
  rcases lt_trichotomy i k with hik | rfl | hki
  · have hroute : s.routes.route i = some (w.stream, u.sent) := by
      rw [← hus]
      exact Routed.route hu
    exact h.routed.ordered i k _ _ _ hik hroute (Routed.route hw) x hxsent a ha
  · rw [hw] at hu
    cases hu
    exact hown hxu
  · have hcalls : u.calls ≠ [] := by
      intro hnil
      simp [consumed,hnil] at hxu
    have hfinished := h.chained.begun i u hu (.inr hcalls) k w hki hw hus.symm
    rw [hphase] at hfinished
    cases hfinished

end

theorem InOrder.consume (hok : LogOk stored s.source s.log) (hw : s.workers[k]? = some w)
    (hphase : w.phase = .idle) {batch : List Admitted} (hread : w.consumed ++ batch <+: w.sent)
    (hplain : ∀ a ∈ batch, isEnd a.event = false) :
    LogOk stored s.source (s.log ++ [.consume w.stream batch]) := by
  have hbegun : w.Begun := .inl (by rw [hphase]; rfl)
  have hsorted := h.routed.sorted k _ _ (Routed.route hw)
  have hsub : ∀ a ∈ batch, a ∈ w.sent := fun a ha => hread.subset (mem_append_right _ ha)
  have hreadSorted := hsorted.sublist hread.sublist
  have hown (r : String) : consumedOf r [.consume w.stream batch] =
      if w.stream = r then batch else [] := by
    simp [consumedOf,Entry.consumedBy]
  refine ⟨?_,?_,?_,?_,?_⟩
  · intro r
    rw [consumedOf_append,hown]
    split_ifs with hr
    · subst hr
      refine pairwise_append.mpr ⟨hok.sorted _,(pairwise_append.mp hreadSorted).2.1,?_⟩
      intro x hx a ha
      refine h.above hw hphase hx (hsub a ha) fun hxw => ?_
      exact (pairwise_append.mp hreadSorted).2.2 x hxw a ha
    · rw [append_nil]
      exact hok.sorted r
  · intro r a ha
    rw [consumedOf_append,hown] at ha
    rcases mem_append.mp ha with hold | hnew
    · exact hok.genuine r a hold
    split_ifs at hnew with hr
    · subst hr
      obtain ⟨hstream,hsource⟩ := h.routed.carried k _ _ (Routed.route hw) a (hsub a hnew)
      exact ⟨hstream,hplain a hnew,hsource⟩
    · cases hnew
  · intro r a ha q d hq hd hr
    rw [consumedOf_append,hown] at ha ⊢
    rcases mem_append.mp ha with hold | hnew
    · obtain ⟨b,hb,hbq⟩ := hok.complete r a hold q d hq hd hr
      exact ⟨b,mem_append_left _ hb,hbq⟩
    split_ifs at hnew with hstream
    · subst hstream
      have hreadBefore : ∀ b ∈ w.sent, b.position < a.position → b ∈ w.consumed ++ batch :=
        fun b hb hlt => mem_of_prefix_sorted hread hsorted (mem_append_right _ hnew) hb hlt
      obtain ⟨b,hbq,⟨hb,-⟩ | hb⟩ := h.plain_before hw hbegun (hsub a hnew) hreadBefore hq hd hr
      · exact ⟨b,mem_append_left _ hb,hbq⟩
      rw [if_pos rfl]
      rcases mem_append.mp hb with hb | hb
      · exact ⟨b,mem_append_left _ ((h.logged.consumed _ b).mpr ⟨k,w,hw,rfl,hb⟩),hbq⟩
      · exact ⟨b,mem_append_right _ hb,hbq⟩
    · cases hnew
  · intro earlier later p request hsplit
    rcases split_append hsplit with ⟨rest,hlog⟩ | ⟨hentry,-⟩
    · exact hok.finalize earlier rest p request hlog
    · cases hentry
  · intro earlier later r batch' hsplit a ha q e hq he hr
    rcases split_append hsplit with ⟨rest,hlog⟩ | ⟨hentry,rfl⟩
    · exact hok.consume earlier rest r batch' hlog a ha q e hq he hr
    · cases hentry
      exact h.ends_before hw hbegun (hsub a ha) hq he hr

end

theorem LogOk.snoc {source : List Event} {log : List Entry} {entry : Entry}
    (hok : LogOk stored source log) (hconsumed : ∀ r, consumedOf r [entry] = [])
    (hfinalize : ∀ p request, entry = .finalize p request →
      (∃ e, source[p]? = some (.ended e) ∧ e.streamRef = request.streamRef) ∧
      ∀ q d, q < p → source[q]? = some (.delivery d) → d.streamRef = request.streamRef →
        (∃ b ∈ consumedOf request.streamRef log, b.position = q) ∧
          ∃ b ∈ ackedOf request.streamRef log, b.position = q)
    (hconsume : ∀ r batch, entry ≠ .consume r batch) : LogOk stored source (log ++ [entry]) := by
  have hsame (r : String) : consumedOf r (log ++ [entry]) = consumedOf r log := by
    rw [consumedOf_append,hconsumed,append_nil]
  refine ⟨fun r => by rw [hsame]; exact hok.sorted r,fun r => by rw [hsame]; exact hok.genuine r,
    fun r => by rw [hsame]; exact hok.complete r,?_,?_⟩
  · intro earlier later p request hsplit
    rcases split_append hsplit with ⟨rest,hlog⟩ | ⟨hentry,rfl⟩
    · exact hok.finalize earlier rest p request hlog
    · exact hfinalize p request hentry
  · intro earlier later r batch hsplit
    rcases split_append hsplit with ⟨rest,hlog⟩ | ⟨hentry,-⟩
    · exact hok.consume earlier rest r batch hlog
    · exact absurd hentry (hconsume r batch)

theorem InOrder.finalize (h : s.InOrder stored) (hok : LogOk stored s.source s.log)
    (hw : s.workers[k]? = some w) {e : StreamEnd} (hends : w.Finishes e)
    (hbegun : w.phase.begun = true) (intent : FinalizeIntent) :
    LogOk stored s.source (s.log ++ [.finalize w.endPosition (w.finalizeRequest e intent)]) := by
  obtain ⟨hacked,-,x,hsent,hx,hposition⟩ := hends
  have hxmem : x ∈ w.sent := by rw [hsent]; simp
  obtain ⟨hxstream,hxsource⟩ := h.routed.carried k _ _ (Routed.route hw) x hxmem
  have hstream : e.streamRef = w.stream := by rw [hx] at hxstream; exact hxstream
  refine LogOk.snoc hok (fun r => rfl) (fun p request hentry => ?_) nofun
  cases hentry
  refine ⟨⟨e,?_,rfl⟩,?_⟩
  · rwa [← hposition,← hx]
  intro q d hq hd hr
  change d.streamRef = e.streamRef at hr
  change (∃ b ∈ consumedOf e.streamRef s.log, b.position = q) ∧
    ∃ b ∈ ackedOf e.streamRef s.log, b.position = q
  rw [hstream] at hr ⊢
  rw [← hposition] at hq
  have hreadBefore : ∀ b ∈ w.sent, b.position < x.position → b ∈ w.consumed := by
    intro b hb hlt
    rw [hsent] at hb
    rcases mem_append.mp hb with hb | hb
    · exact hb
    · rw [mem_singleton.mp hb] at hlt
      exact absurd hlt (lt_irrefl _)
  obtain ⟨b,hbq,⟨hc,ha⟩ | hb⟩ := h.plain_before hw (.inl hbegun) hxmem hreadBefore hq hd hr
  · exact ⟨⟨b,hc,hbq⟩,b,ha,hbq⟩
  · refine ⟨⟨b,(h.logged.consumed _ b).mpr ⟨k,w,hw,rfl,hb⟩,hbq⟩,b,?_,hbq⟩
    exact h.logged.acked k w hw b (by rw [hacked]; exact hb)

variable {cfg : Config}

theorem InOrder.turned_log {v : View} (h : s.InOrder stored) (hok : LogOk stored s.source s.log)
    {op : WorkerOp} {e : Effect} (hw : s.workers[i]? = some w) (hturn : w.Turn cfg v op e) :
    LogOk stored s.source (s.log ++ e.logged) := by
  have hsound := h.sound i w hw
  have hadvanced := hturn.sound hsound
  cases hturn.logs hsound with
  | silent hlogged =>
    rwa [hlogged,append_nil]
  | consume batch hphase hlogged =>
    have hconsumed : e.advanced.consumed = w.consumed ++ batch := by
      rw [consumed_advanced hturn.fixed,hlogged]
      simp [Entry.consumed]
    rw [hlogged]
    refine h.consume hok hw hphase ?_ ?_
    · rw [← hconsumed,← hturn.fixed.sent]
      exact hadvanced.consumed_sent
    intro a ha
    refine hadvanced.tidy.plain a (mem_append_left _ ?_)
    rw [hconsumed]
    exact mem_append_right _ ha
  | finalize f intent hends hbegun hlogged =>
    rw [hlogged]
    exact h.finalize hok hw hends hbegun intent
  | acknowledged next hphase hlogged | finalized r n hlogged | endAcknowledged r n hlogged =>
    rw [hlogged]
    exact LogOk.snoc hok (fun r => rfl) (by simp) (by simp)

variable {t : State}

theorem Logged.advance (h : s.Logged) {more : List Entry} (hlog : t.log = s.log ++ more)
    {w' : Worker} (hw : s.workers[i]? = some w) (hworkers : t.workers = s.workers.set i w')
    (hstream : w'.stream = w.stream) {batch : List Admitted}
    (hconsumed : w'.consumed = w.consumed ++ batch)
    (hmore : ∀ r a, a ∈ consumedOf r more ↔ w.stream = r ∧ a ∈ batch)
    (hacked : ∀ a ∈ w'.acked, a ∈ w.acked ∨ a ∈ ackedOf w.stream more) : t.Logged := by
  refine ⟨?_,?_⟩
  · intro r a
    rw [hlog,consumedOf_append,mem_append,h.consumed,hmore,hworkers]
    constructor
    · rintro (⟨j,u,hu,hr,ha⟩ | ⟨hr,ha⟩)
      · rcases set_lookup w' hw hu with ⟨rfl,rfl,hset⟩ | hset
        · exact ⟨j,w',hset,hstream.trans hr,hconsumed ▸ mem_append_left _ ha⟩
        · exact ⟨j,u,hset,hr,ha⟩
      · exact ⟨i,w',List.getElem?_set_self (List.getElem?_eq_some_iff.mp hw).1,
          hstream.trans hr,hconsumed ▸ mem_append_right _ ha⟩
    rintro ⟨j,u,hu,hr,ha⟩
    rcases set_cases hu with ⟨rfl,rfl⟩ | ⟨-,hu⟩
    · rw [hconsumed] at ha
      have hr : w.stream = r := hstream.symm.trans hr
      rcases mem_append.mp ha with ha | ha
      · exact .inl ⟨j,w,hw,hr,ha⟩
      · exact .inr ⟨hr,ha⟩
    · exact .inl ⟨j,u,hu,hr,ha⟩
  intro j u hu a ha
  rw [hlog,ackedOf,flatMap_append]
  rw [hworkers] at hu
  rcases set_cases hu with ⟨rfl,rfl⟩ | ⟨-,hu⟩
  · rw [hstream]
    rcases hacked a ha with ha | ha
    · exact mem_append_left _ (h.acked j w hw a ha)
    · exact mem_append_right _ ha
  · exact mem_append_left _ (h.acked j u hu a ha)

theorem Logged.turned {v : View} {op : WorkerOp} {e : Effect} (h : s.Logged) (hsound : s.Soundly)
    (hw : s.workers[i]? = some w) (hturn : w.Turn cfg v op e) : (s.apply i e).Logged := by
  obtain ⟨-,hworkers,hlog⟩ := apply_frame s i e
  have hlogs := hturn.logs (hsound i w hw)
  exact h.advance hlog hw hworkers hturn.fixed.stream (consumed_advanced hturn.fixed)
    hlogs.consumed (hlogs.acked hturn.fixed)

theorem Logged.update (h : s.Logged) (hlog : t.log = s.log) {w' : Worker}
    (hw : s.workers[i]? = some w) (hworkers : t.workers = s.workers.set i w')
    (hstream : w'.stream = w.stream) (hcalls : w'.calls = w.calls) : t.Logged := by
  have hconsumed : w'.consumed = w.consumed ++ [] := by
    rw [Worker.consumed,hcalls,append_nil]
    rfl
  refine h.advance (hlog.trans (append_nil _).symm) hw hworkers hstream hconsumed
    (fun r a => by simp [consumedOf]) fun a ha => .inl ?_
  rwa [Worker.acked,hcalls] at ha

theorem Logged.frame (h : s.Logged) (hlog : t.log = s.log) (hworkers : t.workers = s.workers) :
    t.Logged :=
  ⟨by rw [hlog,hworkers]; exact h.consumed,by rw [hlog,hworkers]; exact h.acked⟩

theorem Logged.move {a : Action} (h : s.Logged) (hsound : s.Soundly) (hok : KeepsOrder s a)
    (hmove : Move cfg s a t) : t.Logged := by
  cases hmove with
  | opened event hrun hopen hregistry =>
    refine ⟨?_,?_⟩
    · intro r x
      rw [h.consumed]
      constructor
      · rintro ⟨j,u,hu,hr,hx⟩
        refine ⟨j,u,?_,hr,hx⟩
        dsimp only
        rwa [List.getElem?_append_left (List.getElem?_eq_some_iff.mp hu).1]
      · rintro ⟨j,u,hu,hr,hx⟩
        rcases append_cases hu with ⟨-,hu⟩ | ⟨-,rfl⟩
        · exact ⟨j,u,hu,hr,hx⟩
        · cases hx
    · intro j u hu x hx
      rcases append_cases hu with ⟨-,hu⟩ | ⟨-,rfl⟩
      · exact h.acked j u hu x hx
      · cases hx
  | dropped cause i d w hrun hw hpolicy => exact absurd rfl (hok.1 cause)
  | aborted _ x | inputReleased _ _ x =>
    obtain ⟨-,hworkers,hlog,-⟩ := release_frame s x
    exact h.frame hlog hworkers
  | retired =>
    unfold retire
    split <;> exact h.frame rfl rfl
  | turned i op w e hw hop hturn => exact h.turned hsound hw hturn
  | cleared i w x hw hfree hphase =>
    have hturn : w.Turn cfg (s.view w) .clear _ := .cleared x hphase
    rw [clearHandoff_frame]
    exact Logged.turned (s := { s with handoffs := _ }) (h.frame rfl rfl) hsound hw hturn
  | sent i x w hrun hw hinput hopen | inputClosed i left drain w hclose hmem hw
  | inputTaken i left w x rest hclose hw hinput => exact h.update rfl hw rfl rfl rfl
  | _ => exact h.frame rfl rfl

end State

variable {stored : List FinalizeIntent} {source : List Event}

theorem LogOk.receive {log : List Entry} (h : LogOk stored source log) (event : Event) :
    LogOk stored (source ++ [event]) log := by
  have hback {p q : Nat} {x y : Event} (hp : source[p]? = some x) (hq : q < p)
      (hget : (source ++ [event])[q]? = some y) : source[q]? = some y := by
    have hlt := (List.getElem?_eq_some_iff.mp hp).1
    rwa [getElem?_append_left (hq.trans hlt)] at hget
  have hfront {p : Nat} {x : Event} (hp : source[p]? = some x) :
      (source ++ [event])[p]? = some x := by
    rwa [List.getElem?_append_left (List.getElem?_eq_some_iff.mp hp).1]
  refine ⟨h.sorted,?_,?_,?_,?_⟩
  · intro r a ha
    obtain ⟨hstream,hplain,hsource⟩ := h.genuine r a ha
    exact ⟨hstream,hplain,hfront hsource⟩
  · intro r a ha q d hq hd
    exact h.complete r a ha q d hq (hback (h.genuine r a ha).2.2 hq hd)
  · intro earlier later p request hsplit
    obtain ⟨⟨e,he,hstream⟩,hbefore⟩ := h.finalize earlier later p request hsplit
    exact ⟨⟨e,hfront he,hstream⟩,fun q d hq hd => hbefore q d hq (hback he hq hd)⟩
  intro earlier later r batch hsplit a ha q e hq he hr
  have hmem : a ∈ consumedOf r log := by
    rw [hsplit,consumedOf_append]
    simp [consumedOf,Entry.consumedBy,ha]
  have hsource := (h.genuine r a hmem).2.2
  exact h.consume earlier later r batch hsplit a ha q e hq (hback hsource hq he) hr

namespace State

variable {stored : List FinalizeIntent} {s : State}

theorem InOrder.move {cfg : Config} {t : State} {a : Action} (h : s.InOrder stored)
    (hok : KeepsOrder s a) (hmove : Move cfg s a t) : t.InOrder stored where
  routed := h.routed.move hok.1 hmove
  chained := h.chained.move h.routed hok hmove
  sound := h.sound.move h.routed h.chained hok hmove
  finishing := h.finishing.move h.sound h.routed hok hmove
  logged := h.logged.move h.sound hok hmove

theorem InOrder.move_log {cfg : Config} {t : State} {a : Action} (h : s.InOrder stored)
    (hlog : LogOk stored s.source s.log) (hok : KeepsOrder s a) (hmove : Move cfg s a t) :
    LogOk stored t.source t.log := by
  cases hmove with
  | refused event hrun hclosed | joined event i hrun hopen hregistry
  | opened event hrun hopen hregistry => exact hlog.receive event
  | dropped cause i d w hrun hw hpolicy => exact absurd rfl (hok.1 cause)
  | retired =>
    unfold retire
    split <;> exact hlog
  | turned i op w e hw hop hturn =>
    obtain ⟨hframe,-,happend⟩ := apply_frame s i e
    rw [hframe.source,happend]
    exact h.turned_log hlog hw hturn
  | cleared i w x hw hfree hphase =>
    obtain ⟨hframe,-,happend⟩ := apply_frame (s.clearHandoff i w.stream) i
      (quietly { w with phase := .stopped x })
    rw [hframe.source,happend,clearHandoff_frame]
    change LogOk stored s.source (s.log ++ [])
    rwa [append_nil]
  | aborted _ x | inputReleased _ _ x =>
    obtain ⟨hframe,-,hsame,-⟩ := release_frame s x
    change LogOk stored (s.release x).source (s.release x).log
    rwa [hframe.source,hsame]
  | _ => exact hlog

theorem inOrder_initial : (initial stored).InOrder stored where
  routed := routed_initial stored
  chained := chained_initial stored
  sound i w hw := by cases hw
  finishing := finishing_initial
  logged := by
    refine ⟨?_,fun i w hw => by cases hw⟩
    intro r a
    constructor
    · exact nofun
    · rintro ⟨i,w,hw,-⟩
      cases hw

theorem logOk_initial : LogOk stored (initial stored).source (initial stored).log where
  sorted _ := List.Pairwise.nil
  genuine r a ha := by cases ha
  complete r a ha := by cases ha
  finalize earlier later p request h := by simp [initial] at h
  consume earlier later r batch h := by simp [initial] at h

end State

theorem sorted_prefix {l L : List Nat} (hl : l.Pairwise (· < ·)) (hL : L.Pairwise (· < ·))
    (hsub : ∀ x ∈ l, x ∈ L) (hclosed : ∀ y ∈ l, ∀ x ∈ L, x < y → x ∈ l) : l <+: L := by
  induction l generalizing L with
  | nil => exact nil_prefix
  | cons a l ih =>
    cases L with
    | nil => cases hsub a mem_cons_self
    | cons b L =>
      obtain ⟨hal,hl₀⟩ := pairwise_cons.mp hl
      obtain ⟨hbL,hL₀⟩ := pairwise_cons.mp hL
      have hab : a = b := by
        rcases mem_cons.mp (hsub a mem_cons_self) with hab | haL
        · exact hab
        have hba := hbL a haL
        rcases mem_cons.mp (hclosed a mem_cons_self b mem_cons_self hba) with
          hb | hb
        · exact hb.symm
        · have := hal b hb
          omega
      subst hab
      refine prefix_cons_inj a |>.mpr (ih hl₀ hL₀ ?_ ?_)
      · intro x hx
        rcases mem_cons.mp (hsub x (mem_cons_of_mem a hx)) with rfl | hxL
        · exact absurd (hal x hx) (lt_irrefl x)
        · exact hxL
      · intro y hy x hx hxy
        rcases mem_cons.mp
          (hclosed y (mem_cons_of_mem a hy) x (mem_cons_of_mem a hx) hxy) with rfl | hxl
        · exact absurd (hbL x hx) (lt_irrefl x)
        · exact hxl

def isDeliveryOf (source : List Event) (p : Nat) : Bool :=
  match source[p]? with
  | some (.delivery d) => d.streamRef = stream
  | _ => false

def deliveryPositions (source : List Event) : List Nat :=
  (List.range source.length).filter (isDeliveryOf stream source)

theorem isDeliveryOf_iff {stream : String} {p : Nat} : isDeliveryOf stream source p = true ↔
      ∃ d, source[p]? = some (.delivery d) ∧ d.streamRef = stream := by
  unfold isDeliveryOf
  split
  · rename_i d hd
    simp [hd]
  rename_i hnot
  constructor
  · exact nofun
  · rintro ⟨d,hd,-⟩
    exact absurd hd (hnot d)

theorem mem_deliveryPositions {stream : String} {p : Nat} : p ∈ deliveryPositions stream source ↔
      ∃ d, source[p]? = some (.delivery d) ∧ d.streamRef = stream := by
  rw [deliveryPositions,mem_filter,isDeliveryOf_iff,mem_range]
  constructor
  · exact fun h => h.2
  · rintro ⟨d,hd,hstream⟩
    exact ⟨(List.getElem?_eq_some_iff.mp hd).1,d,hd,hstream⟩

theorem LogOk.prefix_delivered {log : List Entry} (h : LogOk stored source log) (stream : String) :
    (consumedOf stream log).map (·.position) <+: deliveryPositions stream source := by
  refine sorted_prefix ?_ ?_ ?_ ?_
  · exact pairwise_map.mpr (h.sorted stream)
  · exact pairwise_lt_range.filter _
  · intro p hp
    obtain ⟨a,ha,rfl⟩ := mem_map.mp hp
    obtain ⟨hstream,hplain,hsource⟩ := h.genuine stream a ha
    rw [mem_deliveryPositions]
    cases hevent : a.event with
    | delivery d =>
      rw [hevent] at hsource hstream
      exact ⟨d,hsource,hstream⟩
    | ended e =>
      rw [hevent] at hplain
      cases hplain
  · intro y hy x hx hxy
    obtain ⟨a,ha,rfl⟩ := mem_map.mp hy
    obtain ⟨d,hd,hstream⟩ := mem_deliveryPositions.mp hx
    obtain ⟨b,hb,hbx⟩ := h.complete stream a ha x d hxy hd hstream
    exact mem_map.mpr ⟨b,hb,hbx⟩

def State.OrderKept (stored : List FinalizeIntent) (s : State) : Prop :=
  s.InOrder stored ∧ LogOk stored s.source s.log

theorem reachable_inOrder {cfg : Config} {s : State} (h : Reachable cfg State.KeepsOrder stored s) :
    s.OrderKept stored := by
  refine h.invariant ?_ ?_
  · rintro s rfl
    exact ⟨State.inOrder_initial,State.logOk_initial⟩
  · rintro s a t ⟨hs,hlog⟩ hok hstep
    have hmove := State.step_move hstep
    exact ⟨hs.move hok hmove,hs.move_log hlog hok hmove⟩

theorem stream_order_kept {cfg : Config} {stored : List FinalizeIntent} {s : State}
    (h : Reachable cfg State.KeepsOrder stored s) (stream : String) :
    (consumedOf stream s.log).map (·.position) <+: deliveryPositions stream s.source ∧
    (∀ a ∈ consumedOf stream s.log, s.source[a.position]? = some a.event) ∧
    (∀ earlier later p request, s.log = earlier ++ .finalize p request :: later →
      request.streamRef = stream →
      (∃ e, s.source[p]? = some (.ended e) ∧ e.streamRef = stream) ∧
      ∀ q ∈ deliveryPositions stream s.source, q < p →
        q ∈ (consumedOf stream earlier).map (·.position) ∧
          q ∈ (ackedOf stream earlier).map (·.position)) ∧
    ∀ earlier later batch, s.log = earlier ++ .consume stream batch :: later →
      ∀ a ∈ batch, ∀ q e, q < a.position → s.source[q]? = some (.ended e) → e.streamRef = stream →
        SinkDone stored earlier stream e.revision ∧
          SourceDone stored earlier stream e.revision := by
  obtain ⟨-,hlog⟩ := reachable_inOrder h
  refine ⟨hlog.prefix_delivered stream,fun a ha => (hlog.genuine stream a ha).2.2,?_,?_⟩
  · rintro earlier later p request hsplit rfl
    obtain ⟨hend,hbefore⟩ := hlog.finalize earlier later p request hsplit
    refine ⟨hend,fun q hq hqp => ?_⟩
    obtain ⟨d,hd,hstream⟩ := mem_deliveryPositions.mp hq
    obtain ⟨⟨b,hb,hbq⟩,c,hc,hcq⟩ := hbefore q d hqp hd hstream
    exact ⟨mem_map.mpr ⟨b,hb,hbq⟩,mem_map.mpr ⟨c,hc,hcq⟩⟩
  · rintro earlier later batch hsplit a ha q e hq he rfl
    exact hlog.consume earlier later e.streamRef batch hsplit a ha q e hq he rfl

def keepsOrder (s : State) : Action → Bool
  | .drop _ => false
  | .worker j .start =>
      (s.workers[j]?).all fun w => (s.workers.take j).all fun u =>
        u.stream ≠ w.stream || u.phase.exit? = none || u.phase.exit? = some .returned
  | _ => true

theorem keepsOrder_sound (s : State) (a : Action) (h : keepsOrder s a = true) : s.KeepsOrder a := by
  refine ⟨?_,?_⟩
  · rintro cause rfl
    cases h
  rintro j w rfl hw i u hij hu hstream
  simp only [keepsOrder,hw,Option.all_some,List.all_eq_true] at h
  have hmem : u ∈ s.workers.take j := by
    refine List.mem_of_getElem? (i := i) ?_
    rwa [List.getElem?_take_of_lt hij]
  have hu := h u hmem
  simp only [hstream,ne_eq,not_true_eq_false,decide_false,Bool.false_or,Bool.or_eq_true,
    decide_eq_true_eq] at hu
  rcases hu with hnone | hreturned
  · rw [hnone]
    exact ⟨nofun,nofun⟩
  · rw [hreturned]
    exact ⟨nofun,nofun⟩

def sampleEnd : StreamEnd where
  streamRef := stream
  endToken := [1]
  revision := 1
  coverageStartedAt := ⟨1000000000,true⟩
  resource := (sampleDelivery stream).record.resource
  outcome := ⟨false,false,[]⟩

def endStream : List Action :=
  [.receive (.ended (sampleEnd stream)),.tryAdmit,.send,.retire]

def beginFirst : List Action :=
  [.worker 0 .start,.worker 0 .receive,.worker 0 (.begin ⟨2000000000,true⟩)]

def finishFirst : List Action := [.worker 0 .drain,.worker 0 .report,.worker 0 .closeDone]

def consumeSecond : List Action := [.worker 1 .start,.worker 1 .receive]

def handedOverRun : List Action :=
  endStream "r" ++ beginFirst ++ deliver "r" ++
    [.worker 0 .succeed,.worker 0 .succeed,.worker 0 .succeed,.worker 0 .succeed] ++
    finishFirst ++ consumeSecond

def failedHandoverRun : List Action :=
  endStream "r" ++ beginFirst ++ deliver "r" ++ [.worker 0 (.giveUp false)] ++ finishFirst ++
    consumeSecond

theorem stream_order_kept_handover : ∃ s, Reachable blockingConfig State.KeepsOrder [] s ∧
      (consumedOf "r" s.log).map (·.position) = [1] ∧
      ∀ earlier later batch, s.log = earlier ++ .consume "r" batch :: later →
        ∀ a ∈ batch, ∀ q e, q < a.position → s.source[q]? = some (.ended e) → e.streamRef = "r" →
          SinkDone [] earlier "r" e.revision ∧ SourceDone [] earlier "r" e.revision := by
  obtain ⟨s,hs,hpositions⟩ :
      ∃ s ∈ Runs.follow (fun s a => if keepsOrder s a then s.step blockingConfig a else none)
        (State.initial []) handedOverRun, (consumedOf "r" s.log).map (·.position) = [1] := by
    decide +kernel
  have hreach : Reachable blockingConfig State.KeepsOrder [] s :=
    Runs.Reach.mono keepsOrder_sound (fun _ _ _ => id) (.follow_checked (.start rfl) hs)
  exact ⟨s,hreach,hpositions,(stream_order_kept hreach "r").2.2.2⟩

def consumedPastEnd (s : State) : Bool :=
  match s.log, s.source with
  | [.finalize _ _,.consume r [a]], .ended e :: _ => r = "r" && e.streamRef = "r" && 0 < a.position
  | _, _ => false

theorem stream_order_broken : ∃ s earlier batch, Reachable blockingConfig (fun _ _ => True) [] s ∧
      s.log = earlier ++ [.consume "r" batch] ∧
      ∃ a ∈ batch, ∃ e, 0 < a.position ∧ s.source[0]? = some (.ended e) ∧ e.streamRef = "r" ∧
        ¬ SinkDone [] earlier "r" e.revision := by
  obtain ⟨s,hs,hpast⟩ : ∃ s ∈ Runs.follow (fun s a => s.step blockingConfig a)
      (State.initial []) failedHandoverRun, consumedPastEnd s = true := by
    decide +kernel
  have hreach : Reachable blockingConfig (fun _ _ => True) [] s :=
    Runs.Reach.follow (.start rfl) (fun _ _ _ => trivial) hs
  unfold consumedPastEnd at hpast
  split at hpast
  · rename_i p request r a e rest hlog hsource
    simp only [and_eq_true,decide_eq_true_eq] at hpast
    obtain ⟨⟨rfl,hstream⟩,hposition⟩ := hpast
    refine ⟨s,[.finalize p request],[a],hreach,hlog,a,mem_singleton_self a,e,hposition,
      by rw [hsource]; rfl,hstream,?_⟩
    rintro (hmem | ⟨intent,hintent,-⟩)
    · cases mem_singleton.mp hmem
    · cases hintent
  · cases hpast

end OpenSandbox.NodeAgent.Pipeline
