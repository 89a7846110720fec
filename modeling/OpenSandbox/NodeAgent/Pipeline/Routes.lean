import OpenSandbox.Library.KeyedLog
import OpenSandbox.Library.Runs
import OpenSandbox.NodeAgent.Pipeline.Turns

namespace OpenSandbox.NodeAgent.Pipeline

open List Option Function AList KeyedLog

namespace Worker

structure Fixed (w w' : Worker) : Prop where
  stream : w'.stream = w.stream
  sent : w'.sent = w.sent
  predecessor : w'.predecessor = w.predecessor
  inputClosed : w'.inputClosed = w.inputClosed
  calls : w'.calls = w.calls

theorem Turn.fixed {cfg : Config} {v : View} {w : Worker} {op : WorkerOp} {e : Effect}
    (h : w.Turn cfg v op e) : Fixed w e.worker := by
  cases h.change with
  | proceeded next hphase => cases next <;> exact ⟨rfl,rfl,rfl,rfl,rfl⟩
  | _ => exact ⟨rfl,rfl,rfl,rfl,rfl⟩

end Worker

def RunPhase.unsettled : RunPhase → Bool
  | .selecting | .retiring _ => false
  | _ => true

structure Routes where
  run : RunPhase
  route : Nat → Option (String × List Admitted)
  registry : GoMap Nat
  source : List Event

def State.routes (s : State) : Routes where
  run := s.run
  route i := s.workers[i]?.map fun w => (w.stream, w.sent)
  registry := s.registry
  source := s.source

namespace Routes

def Below (route : Nat → Option (String × List Admitted)) (n : Nat) : Prop :=
  ∀ i r sent, route i = some (r, sent) → ∀ a ∈ sent, a.position < n

structure Pending (g : Routes) (i : Nat) (e : Event) : Prop where
  nonempty : 0 < g.source.length
  event : g.source[g.source.length - 1]? = some e
  worker : g.registry.lookup e.stream = some i
  fresh : Below g.route (g.source.length - 1)

structure Ordered (g : Routes) : Prop where
  carried : ∀ i r sent, g.route i = some (r, sent) → ∀ a ∈ sent,
    a.event.stream = r ∧ g.source[a.position]? = some a.event
  sorted : ∀ i r sent, g.route i = some (r, sent) → sent.Pairwise (·.position < ·.position)
  ordered : ∀ i j r sent sent', i < j → g.route i = some (r, sent) → g.route j = some (r, sent') →
    ∀ a ∈ sent, ∀ b ∈ sent', a.position < b.position
  ends : ∀ i r sent, g.route i = some (r, sent) → ∀ x ∈ sent, State.isEnd x.event = true →
    ∀ b ∈ sent, b.position ≤ x.position
  admitting : ∀ i e, g.run = .admitting i e → g.Pending i e
  sending : ∀ i a, g.run = .sending i a → g.Pending i a.event ∧ a.position = g.source.length - 1
  covered : ∀ p e, g.source[p]? = some e →
    (∃ i r sent, g.route i = some (r, sent) ∧ ∃ a ∈ sent, a.position = p) ∨
      p + 1 = g.source.length ∧ g.run.unsettled = true
  registered : ∀ r i, g.registry.lookup r = some i → ∃ sent, g.route i = some (r, sent) ∧
    (∀ j sent', i < j → g.route j ≠ some (r, sent')) ∧
    (g.run ≠ .retiring i → ∀ x ∈ sent, State.isEnd x.event = false)
  retiring : ∀ i, g.run = .retiring i →
    ∃ r sent, g.route i = some (r, sent) ∧ ∃ x ∈ sent, State.isEnd x.event = true
  unregistered : ∀ i r sent, g.route i = some (r, sent) →
    g.registry.lookup r = some i ∨ ∃ x ∈ sent, State.isEnd x.event = true

variable {g : Routes}

theorem Ordered.below (h : g.Ordered) : Below g.route g.source.length := by
  intro i r sent hroute a ha
  obtain ⟨hlt,-⟩ := List.getElem?_eq_some_iff.mp (h.carried i r sent hroute a ha).2
  exact hlt

theorem Ordered.rephase {run : RunPhase} {source : List Event} (h : g.Ordered)
    (hsource : ∀ (p : Nat) e, g.source[p]? = some e → source[p]? = some e)
    (hadmitting : ∀ i e, run = .admitting i e → Pending { g with run, source } i e)
    (hsending : ∀ i a, run = .sending i a →
      Pending { g with run, source } i a.event ∧ a.position = source.length - 1)
    (hcovered : ∀ (p : Nat) e, source[p]? = some e →
      (∃ i r sent, g.route i = some (r, sent) ∧ ∃ a ∈ sent, a.position = p) ∨
        p + 1 = source.length ∧ run.unsettled = true)
    (hsettled : ∀ r i, g.registry.lookup r = some i → g.run ≠ .retiring i)
    (hretiring : ∀ i, run ≠ .retiring i) : Ordered { g with run, source } := by
  refine { h with
    carried := fun i r sent hroute a ha =>
      (h.carried i r sent hroute a ha).imp_right (hsource a.position a.event)
    admitting := hadmitting
    sending := hsending
    covered := hcovered
    registered := fun r i hr => ?_
    retiring := fun i hi => absurd hi (hretiring i) }
  obtain ⟨sent,hroute,hlater,hends⟩ := h.registered r i hr
  exact ⟨sent,hroute,hlater,fun _ => hends (hsettled r i hr)⟩

theorem Ordered.quit (h : g.Ordered) (hrun : ∀ i, g.run ≠ .retiring i) :
    Ordered { g with run := .returned } := by
  refine h.rephase (fun _ _ hp => hp) (fun _ _ h => nomatch h) (fun _ _ h => nomatch h)
    (fun p e hp => ?_) (fun _ i _ => hrun i) nofun
  exact (h.covered p e hp).imp_right fun hlast => ⟨hlast.1,rfl⟩

theorem getElem?_snoc {source : List Event} (event : Event) (p : Nat) (e : Event)
    (h : source[p]? = some e) : (source ++ [event])[p]? = some e := by
  obtain ⟨hlt,-⟩ := List.getElem?_eq_some_iff.mp h
  rwa [List.getElem?_append_left hlt]

theorem ne_retiring_of_selecting (hrun : g.run = .selecting) (r : String) (i : Nat)
    (_ : g.registry.lookup r = some i) : g.run ≠ .retiring i := by
  rw [hrun]
  nofun

section

variable (h : g.Ordered)

include h

section

variable (hrun : g.run = .selecting)

include hrun

theorem Ordered.covered_append (event : Event) {p : Nat} {e : Event}
    (hp : (g.source ++ [event])[p]? = some e) :
    (∃ i r sent, g.route i = some (r, sent) ∧ ∃ a ∈ sent, a.position = p) ∨
      p + 1 = (g.source ++ [event]).length := by
  obtain ⟨hlt,-⟩ := List.getElem?_eq_some_iff.mp hp
  rw [List.length_append,List.length_singleton] at hlt ⊢
  by_cases hold : p < g.source.length
  · rw [List.getElem?_append_left hold] at hp
    rcases h.covered p e hp with hsent | ⟨-,hunsettled⟩
    · exact .inl hsent
    · rw [hrun] at hunsettled
      cases hunsettled
  · exact .inr (by omega)

theorem Ordered.refuse (event : Event) :
    Ordered { g with source := g.source ++ [event], run := .returned } := by
  refine h.rephase (getElem?_snoc event) (fun _ _ h => nomatch h) (fun _ _ h => nomatch h)
    (fun p e hp => ?_) (ne_retiring_of_selecting hrun) nofun
  exact (h.covered_append hrun event hp).imp_right fun hlast => ⟨hlast,rfl⟩

theorem Ordered.join {event : Event} {i : Nat} (hworker : g.registry.lookup event.stream = some i) :
    Ordered { g with source := g.source ++ [event], run := .admitting i event } := by
  refine h.rephase (getElem?_snoc event) (fun j e he => ?_) (fun _ _ h => nomatch h)
    (fun p e hp => ?_) (ne_retiring_of_selecting hrun) nofun
  · cases he
    exact ⟨by simp,by simp,hworker,by simpa using h.below⟩
  · exact (h.covered_append hrun event hp).imp_right fun hlast => ⟨hlast,rfl⟩

theorem Ordered.open {event : Event} {n : Nat} (hfree : ∀ j, n ≤ j → g.route j = none)
    (hnone : g.registry.lookup event.stream = none) : Ordered {
      run := .admitting n event
      route := Function.update g.route n (some (event.stream, []))
      registry := g.registry.insert event.stream n
      source := g.source ++ [event] } := by
  have hold {i : Nat} {r : String} {sent : List Admitted} {a : Admitted}
      (hroute : update g.route n (some (event.stream, [])) i = some (r, sent))
      (ha : a ∈ sent) : g.route i = some (r, sent) := by
    rcases update_cases hroute with ⟨-,⟨⟩⟩ | ⟨-,hroute⟩
    · cases ha
    · exact hroute
  have hkept {i : Nat} {r : String} {sent : List Admitted} (hroute : g.route i = some (r, sent)) :
      i ≠ n := by
    rintro rfl
    rw [hfree i le_rfl] at hroute
    cases hroute
  refine ⟨?_,?_,?_,?_,?_,?_,?_,?_,?_,?_⟩
  · intro i r sent hroute a ha
    obtain ⟨hstream,hsource⟩ := h.carried i r sent (hold hroute ha) a ha
    exact ⟨hstream,getElem?_snoc event _ _ hsource⟩
  · intro i r sent hroute
    cases sent with
    | nil => exact List.Pairwise.nil
    | cons a sent => exact h.sorted i r _ (hold hroute mem_cons_self)
  · intro i j r sent sent' hij hi hj a ha b hb
    exact h.ordered i j r sent sent' hij (hold hi ha) (hold hj hb) a ha b hb
  · intro i r sent hroute x hx hend b hb
    exact h.ends i r sent (hold hroute hx) x hx hend b hb
  · intro j e he
    cases he
    refine ⟨by simp,by simp,lookup_insert _,?_⟩
    intro i r sent hroute a ha
    have hbelow := h.below i r sent (hold hroute ha) a ha
    simpa using hbelow
  · intro j a ha
    cases ha
  · intro p e hp
    refine (h.covered_append hrun event hp).imp ?_ fun hlast => ⟨hlast,rfl⟩
    rintro ⟨i,r,sent,hroute,ha⟩
    exact ⟨i,r,sent,(update_of_ne (hkept hroute) ..).trans hroute,ha⟩
  · intro r i hr
    by_cases hstream : r = event.stream
    · subst hstream
      rw [lookup_insert] at hr
      cases hr
      refine ⟨[],update_self ..,?_,fun _ x hx => by cases hx⟩
      intro j sent' hj hroute
      rcases update_cases hroute with ⟨rfl,-⟩ | ⟨-,hroute⟩
      · exact lt_irrefl _ hj
      · rw [hfree j hj.le] at hroute
        cases hroute
    rw [lookup_insert_ne hstream] at hr
    obtain ⟨sent,hroute,hlater,hends⟩ := h.registered r i hr
    refine ⟨sent,(update_of_ne (hkept hroute) ..).trans hroute,?_,
      fun _ => hends (by rw [hrun]; exact nofun)⟩
    intro j sent' hj hroute'
    rcases update_cases hroute' with ⟨-,⟨⟩⟩ | ⟨-,hroute'⟩
    · exact hstream rfl
    · exact hlater j sent' hj hroute'
  · exact nofun
  intro i r sent hroute
  rcases update_cases hroute with ⟨rfl,⟨⟩⟩ | ⟨-,hroute⟩
  · exact .inl (lookup_insert _)
  rcases h.unregistered i r sent hroute with hr | hend
  · left
    have hstream : r ≠ event.stream := by
      rintro rfl
      rw [hnone] at hr
      cases hr
    rwa [lookup_insert_ne hstream]
  · exact .inr hend

end

theorem Ordered.reserve {i : Nat} {a : Admitted} (hrun : g.run = .admitting i a.event)
    (hposition : a.position = g.source.length - 1) : Ordered { g with run := .sending i a } := by
  refine h.rephase (fun _ _ hp => hp) (fun _ _ h => nomatch h) (fun j b hb => ?_) (fun p e hp => ?_)
    (fun _ _ _ => by rw [hrun]; nofun) nofun
  · cases hb
    have hpending := h.admitting i a.event hrun
    exact ⟨{ hpending with },hposition⟩
  · exact (h.covered p e hp).imp_right fun hlast => ⟨hlast.1,rfl⟩

end

variable {sent : List Admitted}

theorem Ordered.send (h : g.Ordered) {i : Nat} {a : Admitted} (hrun : g.run = .sending i a)
    {r : String} (hroute : g.route i = some (r, sent)) : Ordered { g with
      route := Function.update g.route i (some (r, sent ++ [a]))
      run := if State.isEnd a.event then .retiring i else .selecting } := by
  obtain ⟨hpending,hposition⟩ := h.sending i a hrun
  obtain ⟨sent₀,hroute₀,hlater,hopen⟩ := h.registered _ i hpending.worker
  rw [hroute] at hroute₀
  cases hroute₀
  have hdeliveries := hopen (by rw [hrun]; exact nofun)
  have hnew : ∀ j q sent', g.route j = some (q, sent') → ∀ b ∈ sent', b.position < a.position := by
    intro j q sent' hj b hb
    rw [hposition]
    exact hpending.fresh j q sent' hj b hb
  have hsource : g.source[a.position]? = some a.event := by
    rw [hposition]
    exact hpending.event
  refine ⟨?_,?_,?_,?_,?_,?_,?_,?_,?_,?_⟩
  · intro j q sent' hj b hb
    rcases update_cases hj with ⟨rfl,⟨⟩⟩ | ⟨-,hj⟩
    · exact forall_mem_append.mpr ⟨h.carried j _ sent hroute,
        forall_mem_singleton.mpr ⟨rfl,hsource⟩⟩ b hb
    · exact h.carried j q sent' hj b hb
  · intro j q sent' hj
    rcases update_cases hj with ⟨rfl,⟨⟩⟩ | ⟨-,hj⟩
    · refine pairwise_append.mpr ⟨h.sorted j _ sent hroute,pairwise_singleton _ _,?_⟩
      exact fun b hb => forall_mem_singleton.mpr (hnew j _ sent hroute b hb)
    · exact h.sorted j q sent' hj
  · intro j k q sent₁ sent₂ hjk hj hk b hb c hc
    rcases update_cases hj with ⟨rfl,⟨⟩⟩ | ⟨-,hj₀⟩
    · rcases update_cases hk with ⟨rfl,-⟩ | ⟨-,hk₀⟩
      · exact absurd hjk (lt_irrefl _)
      · exact absurd hk₀ (hlater k sent₂ hjk)
    rcases update_cases hk with ⟨rfl,⟨⟩⟩ | ⟨-,hk₀⟩
    · exact forall_mem_append.mpr ⟨h.ordered j k _ sent₁ sent hjk hj₀ hroute b hb,
        forall_mem_singleton.mpr (hnew j _ sent₁ hj₀ b hb)⟩ c hc
    · exact h.ordered j k q sent₁ sent₂ hjk hj₀ hk₀ b hb c hc
  · intro j q sent' hj x hx hend b hb
    rcases update_cases hj with ⟨rfl,⟨⟩⟩ | ⟨-,hj⟩
    · rcases mem_append.mp hx with hx | hx
      · rw [hdeliveries x hx] at hend
        cases hend
      · rw [mem_singleton.mp hx]
        exact forall_mem_append.mpr ⟨fun b hb => (hnew j _ sent hroute b hb).le,
          forall_mem_singleton.mpr le_rfl⟩ b hb
    · exact h.ends j q sent' hj x hx hend b hb
  · intro j e he
    dsimp only at he
    split at he <;> cases he
  · intro j b hb
    dsimp only at hb
    split at hb <;> cases hb
  · intro p e hp
    left
    rcases h.covered p e hp with ⟨j,q,sent',hj,b,hb,hbp⟩ | ⟨hlast,-⟩
    · by_cases hji : j = i
      · subst hji
        rw [hroute] at hj
        cases hj
        exact ⟨j,_,sent ++ [a],update_self ..,b,mem_append_left _ hb,hbp⟩
      · exact ⟨j,q,sent',(update_of_ne hji ..).trans hj,b,hb,hbp⟩
    · refine ⟨i,_,sent ++ [a],update_self ..,a,by simp,?_⟩
      omega
  · intro q j hq
    obtain ⟨sent',hj,hlater',hends⟩ := h.registered q j hq
    have hlater'' : ∀ k sent₂, j < k →
        update g.route i (some (a.event.stream, sent ++ [a])) k ≠ some (q, sent₂) := by
      intro k sent₂ hk hroute'
      rcases update_cases hroute' with ⟨rfl,⟨⟩⟩ | ⟨-,hroute'⟩
      · exact hlater' k sent hk hroute
      · exact hlater' k sent₂ hk hroute'
    by_cases hji : j = i
    · subst hji
      rw [hroute] at hj
      cases hj
      refine ⟨sent ++ [a],update_self ..,hlater'',?_⟩
      intro hretiring x hx
      dsimp only at hretiring
      split_ifs at hretiring with hdelivery
      · exact absurd rfl hretiring
      exact forall_mem_append.mpr ⟨hdeliveries,
        forall_mem_singleton.mpr (Bool.eq_false_iff.mpr hdelivery)⟩ x hx
    · exact ⟨sent',(update_of_ne hji ..).trans hj,hlater'',
        fun _ => hends (by rw [hrun]; exact nofun)⟩
  · intro j hj
    dsimp only at hj
    split_ifs at hj with hend
    cases hj
    exact ⟨_,sent ++ [a],update_self ..,a,by simp,hend⟩
  · intro j q sent' hj
    rcases update_cases hj with ⟨rfl,⟨⟩⟩ | ⟨-,hj⟩
    · exact .inl hpending.worker
    · exact h.unregistered j q sent' hj

theorem Ordered.settle (h : g.Ordered) {i : Nat} (hrun : g.run = .retiring i) {p : Nat}
    {e : Event} (hp : g.source[p]? = some e) :
    ∃ j r sent, g.route j = some (r, sent) ∧ ∃ a ∈ sent, a.position = p := by
  rcases h.covered p e hp with hsent | ⟨-,hunsettled⟩
  · exact hsent
  · rw [hrun] at hunsettled
    cases hunsettled

theorem Ordered.retire {g : Routes} (h : g.Ordered) {i : Nat} (hrun : g.run = .retiring i)
    {r : String} (hroute : g.route i = some (r, sent)) (hworker : g.registry.lookup r = some i) :
    Ordered { g with run := .selecting, registry := g.registry.erase r } where
  carried := h.carried
  sorted := h.sorted
  ordered := h.ordered
  ends := h.ends
  admitting j e he := by cases he
  sending j a ha := by cases ha
  covered p e hp := .inl (h.settle hrun hp)
  registered q j hq := by
    have hqr : q ≠ r := by
      rintro rfl
      rw [lookup_erase] at hq
      cases hq
    rw [lookup_erase_ne hqr] at hq
    obtain ⟨sent',hj,hlater,hends⟩ := h.registered q j hq
    refine ⟨sent',hj,hlater,fun _ => hends ?_⟩
    rintro hretiring
    rw [hrun] at hretiring
    cases hretiring
    rw [hroute] at hj
    cases hj
    exact hqr rfl
  retiring j hj := by cases hj
  unregistered j q sent' hj := by
    rcases h.unregistered j q sent' hj with hq | hend
    · by_cases hqr : q = r
      · subst hqr
        rw [hworker] at hq
        cases hq
        obtain ⟨q',sent₀,hi,hend⟩ := h.retiring i hrun
        rw [hj] at hi
        cases hi
        exact .inr hend
      · left
        rwa [lookup_erase_ne hqr]
    · exact .inr hend

theorem Ordered.resume (h : g.Ordered) {i : Nat} (hrun : g.run = .retiring i) {r : String}
    (hroute : g.route i = some (r, sent)) (hworker : g.registry.lookup r ≠ some i) :
    Ordered { g with run := .selecting } := by
  refine h.rephase (fun _ _ hp => hp) (fun _ _ h => nomatch h) (fun _ _ h => nomatch h)
    (fun p e hp => .inl (h.settle hrun hp)) (fun q j hq hretiring => ?_) nofun
  obtain ⟨sent',hj,-⟩ := h.registered q j hq
  rw [hrun] at hretiring
  cases hretiring
  rw [hroute] at hj
  cases hj
  exact hworker hq

end Routes

namespace State

variable {s : State} {i : Nat} {w : Worker}

theorem routes_set {t : State} {w' : Worker} (hw : s.workers[i]? = some w)
    (hworkers : t.workers = s.workers.set i w') (hrun : t.run = s.run)
    (hregistry : t.registry = s.registry) (hsource : t.source = s.source)
    (hstream : w'.stream = w.stream) (hsent : w'.sent = w.sent) : t.routes = s.routes := by
  unfold routes
  rw [hworkers,hrun,hregistry,hsource]
  congr 1
  funext j
  by_cases hj : i = j
  · subst hj
    rw [List.getElem?_set_self (List.getElem?_eq_some_iff.mp hw).1,hw]
    simp only [map_some,hstream,hsent]
  · rw [getElem?_set_ne hj]

theorem routes_turned {cfg : Config} {v : View} {op : WorkerOp} {e : Effect}
    (hw : s.workers[i]? = some w) (hturn : w.Turn cfg v op e) :
    (s.apply i e).routes = s.routes := by
  obtain ⟨hframe,hworkers,-⟩ := apply_frame s i e
  exact routes_set hw hworkers hframe.run hframe.registry hframe.source hturn.fixed.stream
    hturn.fixed.sent

theorem routes_released (s : State) (a : Admitted) : (s.release a).routes = s.routes := by
  obtain ⟨hframe,hworkers,-⟩ := release_frame s a
  unfold routes
  rw [hworkers,hframe.run,hframe.registry,hframe.source]

theorem routes_opened (s : State) (w : Worker) :
    (fun i => (s.workers ++ [w])[i]?.map fun w => (w.stream, w.sent)) =
      Function.update s.routes.route s.workers.length (some (w.stream, w.sent)) := by
  funext i
  by_cases hi : i = s.workers.length
  · subst hi
    simp
  rw [update_of_ne hi]
  by_cases hlt : i < s.workers.length
  · rw [getElem?_append_left hlt]
    rfl
  · simp only [routes]
    rw [getElem?_eq_none (by simp; omega),getElem?_eq_none (by omega)]

theorem routes_sent {w' : Worker} (hw : s.workers[i]? = some w) :
    (fun j => (s.workers.set i w')[j]?.map fun w => (w.stream, w.sent)) =
      Function.update s.routes.route i (some (w'.stream, w'.sent)) := by
  funext j
  by_cases hj : j = i
  · subst hj
    rw [List.getElem?_set_self (List.getElem?_eq_some_iff.mp hw).1,Function.update_self]
    rfl
  · rw [getElem?_set_ne (Ne.symm hj),update_of_ne hj]
    rfl

def Routed (s : State) : Prop := s.routes.Ordered

theorem routed_initial (stored : List FinalizeIntent) : Routed (initial stored) := by
  have hnone {i : Nat} {entry : String × List Admitted}
      (hi : (initial stored).routes.route i = some entry) : False := nomatch hi
  exact ⟨fun _ _ _ hi => (hnone hi).elim,fun _ _ _ hi => (hnone hi).elim,
    fun _ _ _ _ _ _ hi => (hnone hi).elim,fun _ _ _ hi => (hnone hi).elim,(fun _ _ h => nomatch h),
    (fun _ _ h => nomatch h),nofun,nofun,nofun,fun _ _ _ hi => (hnone hi).elim⟩

theorem Routed.move {cfg : Config} {t : State} {a : Action} (h : Routed s)
    (hkeep : ∀ cause, a ≠ .drop cause) (hmove : Move cfg s a t) : Routed t := by
  cases hmove with
  | refused event hrun hclosed => exact Routes.Ordered.refuse h hrun event
  | joined event i hrun hopen hregistry => exact Routes.Ordered.join h hrun hregistry
  | opened event hrun hopen hregistry =>
    have hfree : ∀ j, s.workers.length ≤ j → s.routes.route j = none := by
      intro j hj
      simp only [routes]
      rw [getElem?_eq_none hj]
      rfl
    have hopened := Routes.Ordered.open h hrun hfree hregistry
    unfold Routed routes
    rwa [routes_opened s]
  | stopped hrun | gaveUp i d hrun =>
    exact Routes.Ordered.quit h fun i => by
      simp only [routes,hrun]
      exact nofun
  | ended i e hrun => exact Routes.Ordered.reserve (a := s.endOf e) h hrun rfl
  | reserved i d hrun hfits => exact Routes.Ordered.reserve (a := s.deliveryOf d) h hrun rfl
  | dropped cause i d w hrun hw hpolicy => exact absurd rfl (hkeep cause)
  | sent i x w hrun hw hinput hopen =>
    have hroute : s.routes.route i = some (w.stream, w.sent) := by
      simp only [routes,hw,map_some]
    have hsent := Routes.Ordered.send h hrun hroute
    unfold Routed routes setWorker
    rwa [routes_sent hw]
  | aborted i x hrun =>
    have hreleased : Routes.Ordered (s.release x).routes := by
      rwa [routes_released]
    exact Routes.Ordered.quit hreleased fun i => by
      rw [routes_released]
      simp only [routes,hrun]
      exact nofun
  | retired i w hrun hfree hw =>
    have hroute : s.routes.route i = some (w.stream, w.sent) := by
      simp only [routes,hw,map_some]
    unfold retire
    split
    · rename_i hworker
      exact Routes.Ordered.retire h hrun hroute hworker
    · rename_i hworker
      exact Routes.Ordered.resume h hrun hroute hworker
  | turned i op w e hw hop hturn =>
    unfold Routed
    rwa [routes_turned hw hturn]
  | cleared i w x hw hfree hphase =>
    have hturn : w.Turn cfg (s.view w) .clear _ := .cleared x hphase
    have hroutes : (s.clearHandoff i w.stream).routes = s.routes := by
      rw [clearHandoff_frame]
      rfl
    have hw₀ : (s.clearHandoff i w.stream).workers[i]? = some w := by
      rwa [clearHandoff_frame]
    unfold Routed
    rwa [routes_turned hw₀ hturn,hroutes]
  | inputClosed i left drain w hclose hmem hw =>
    unfold Routed
    rw [routes_set (t := { s.setWorker i { w with inputClosed := true } with close := _ }) hw rfl
      rfl rfl rfl rfl rfl]
    exact h
  | inputTaken i left w x rest hclose hw hinput =>
    unfold Routed
    rw [routes_set (t := { s.setWorker i { w with input := rest } with close := _ }) hw rfl
      rfl rfl rfl rfl rfl]
    exact h
  | inputReleased i left x hclose =>
    have hreleased : Routes.Ordered (s.release x).routes := by
      rwa [routes_released]
    exact hreleased
  | _ => exact h

end State

end OpenSandbox.NodeAgent.Pipeline
