import OpenSandbox.Library.Runs

namespace OpenSandbox.Server.Docker

open List Option Bool

inductive Creation
  | created (expires : Option Nat)
  | failed
  | started (expires : Option Nat)
  | finished
  deriving DecidableEq

inductive Task
  | firing
  | failed
  | comparing (tracked : Option Nat)
  | retrying (due : Nat)
  | checking (label : Option Nat)
  | reading (label : Option Nat)
  | judging (expires : Option Nat)
  | renewed (expires : Nat)
  | killing
  | deleting
  | removing
  | untracking
  | unlinking
  | finished
  deriving DecidableEq

inductive Stage
  | querying
  | scheduling
  | persisting
  | labelling
  | returned
  | refused
  deriving DecidableEq

def Stage.active : Stage → Bool
  | .returned | .refused => false
  | _ => true

structure Renewal where
  asked : Nat
  seen : Option Nat
  stage : Stage
  extended : seen.all (· ≤ asked) = true
  deriving DecidableEq

structure State where
  now : Nat
  container : Bool
  label : Option Nat
  override : Option Nat
  tracked : Option Nat
  timer : Option Nat
  creation : Creation
  tasks : List Task
  fetched : List Nat
  renewals : List Renewal

def retryDelay : Nat := 30000000

namespace State

variable (s : State)

def scheduleExpiration (expires : Nat) (update : Bool) : State :=
  { s with
    timer := some expires
    tracked := if update then some expires else s.tracked }

def removeExpirationTracking : State := { s with timer := none, tracked := none }

def persisted (readable : Bool) (label : Option Nat) : Option Nat :=
  (if readable then s.override else none) <|> label

def getTrackedExpiration (readable : Bool) : Option Nat :=
  s.tracked <|> s.persisted readable s.label

def provision (ok : Bool) : Option State :=
  match s.creation with
  | .created expires => some { s with creation := if ok then .started expires else .failed }
  | .failed => some { s with creation := .finished, container := s.container && !ok }
  | .started (some expires) =>
    some { s.scheduleExpiration expires true with creation := .finished }
  | .started none => some { s with creation := .finished }
  | .finished => none

def runTask (ok : Bool) : Task → Option (State × Task)
  | .firing =>
    some (s, if !ok then .failed else if s.container then .checking s.label else .untracking)
  | .failed => some (s, .comparing s.tracked)
  | .comparing tracked =>
    some (s, if tracked.any (s.now < ·) then .finished else .retrying (s.now + retryDelay))
  | .retrying due => some (s.scheduleExpiration due false, .finished)
  | .checking label => some (s, if s.tracked = none then .reading label else .judging s.tracked)
  | .reading label => some (s, .judging (s.persisted ok label))
  | .judging none => some (s, .killing)
  | .judging (some expires) => some (s, if s.now < expires then .renewed expires else .killing)
  | .renewed expires => some (s.scheduleExpiration expires false, .finished)
  | .killing => some (s, .removing)
  | .deleting => some (s, if ok then .removing else .untracking)
  | .removing => some ({ s with container := s.container && !ok }, .untracking)
  | .untracking => some (s.removeExpirationTracking, .unlinking)
  | .unlinking => some ({ s with override := if ok then none else s.override }, .finished)
  | .finished => none

def renewExpiration (ok : Bool) (r : Renewal) : Option (State × Stage) :=
  match r.stage with
  | .querying =>
    some (s, if ok && s.container && s.now < r.asked && s.label.isSome &&
      (s.getTrackedExpiration true).isSome then .scheduling else .refused)
  | .scheduling => some (s.scheduleExpiration r.asked true, .persisting)
  | .persisting => some ({ s with override := if ok then some r.asked else s.override }, .labelling)
  | .labelling =>
    some ({ s with label := if ok && s.container then some r.asked else s.label }, .returned)
  | .returned | .refused => none

def request (asked : Nat) (seen : Option Nat) (h : seen.all (· ≤ asked) = true) : State :=
  { s with renewals := s.renewals ++ [⟨asked,seen,.querying,h⟩] }

def restoreExistingSandboxes (readable : Bool) : State :=
  if s.container then
    match s.persisted readable s.label with
    | some expires =>
      if s.now < expires then s.scheduleExpiration expires true else { s with tasks := [.firing] }
    | none => s
  else s

def crash : State :=
  { s with
    tracked := none
    timer := none
    tasks := []
    fetched := []
    renewals := s.renewals.map fun r =>
      { r with stage := if r.stage.active then .refused else r.stage } }

end State

inductive Action
  | tick
  | provision (ok : Bool)
  | fire
  | delete
  | task (i : Nat) (ok : Bool)
  | fetch (readable : Bool)
  | access (i : Nat) (extend : Nat)
  | renew (expires : Nat)
  | renewal (i : Nat) (ok : Bool)
  | garble
  | restart (listed readable : Bool)

def step (s : State) : Action → Option State
  | .tick => some { s with now := s.now + 1 }
  | .provision ok => s.provision ok
  | .fire =>
    if s.timer.any (· ≤ s.now) then some { s with timer := none, tasks := s.tasks ++ [.firing] }
    else none
  | .delete => if s.container then some { s with tasks := s.tasks ++ [.deleting] } else none
  | .task i ok =>
    (s.tasks[i]?).bind fun task => (s.runTask ok task).map fun (t, task) =>
      { t with tasks := t.tasks.set i task }
  | .fetch readable =>
    if s.container then
      (s.getTrackedExpiration readable).map fun e => { s with fetched := s.fetched ++ [e] }
    else none
  | .access i extend =>
    (s.fetched[i]?).map fun current =>
      { s.request (max (s.now + extend) current) (some current) (by simp) with
        fetched := s.fetched.eraseIdx i }
  | .renew expires => some (s.request expires none rfl)
  | .renewal i ok =>
    (s.renewals[i]?).bind fun r => (s.renewExpiration ok r).map fun (t, stage) =>
      { t with renewals := t.renewals.set i { r with stage } }
  | .garble =>
    if 2 ≤ (s.renewals.filter (·.stage = .persisting)).length then some { s with override := none }
    else none
  | .restart listed readable =>
    some (if listed then s.crash.restoreExistingSandboxes readable else s.crash)

def State.born (expires : Option Nat) : State :=
  ⟨0,true,expires,none,none,none,.created expires,[],[],[]⟩

def Reachable (ok : State → Action → Bool) : State → Prop :=
  Runs.Reach (fun s a t => step s a = some t) (fun s a => ok s a = true)
    fun s => ∃ expires, s = .born expires

def run (ok : State → Action → Bool) : State → List Action → Option State :=
  Runs.follow fun s a => if ok s a then step s a else none

theorem run_reachable {ok : State → Action → Bool} {expires : Option Nat} {as : List Action}
    {β : Type} {observe : State → β} {v : β}
    (h : (run ok (.born expires) as).map observe = some v) :
    ∃ t, Reachable ok t ∧ observe t = v :=
  Runs.Reach.observed ⟨expires,rfl⟩ h

def Action.serving : Action → Bool
  | .restart _ _ => false
  | _ => true

def reliable (s : State) : Action → Bool
  | .provision ok => s.creation ≠ .failed || ok || !s.container
  | .task i ok =>
    match s.tasks[i]? with
    | some .deleting | some .removing => ok || !s.container
    | some (.comparing tracked) => tracked.all (· ≤ s.now)
    | _ => true
  | _ => true

def Task.watching : Task → Bool
  | .deleting | .untracking | .unlinking | .finished => false
  | _ => true

def Task.forgetting : Task → Bool
  | .untracking | .unlinking => true
  | _ => false

def Stage.writing : Stage → Bool
  | .scheduling | .persisting | .labelling => true
  | _ => false

structure Watched (s : State) : Prop where
  gone : ∀ task ∈ s.tasks, task.forgetting = true → s.container = false
  plain : ∀ expires, s.creation = .created expires ∨ s.creation = .started expires →
    s.label.isSome = expires.isSome
  manual : s.container = true → s.label = none →
    s.tracked = none ∧ s.override = none ∧ ∀ r ∈ s.renewals, r.stage.writing = false
  guarded : s.container = true → s.label.isSome → s.timer.isSome ∨ s.creation ≠ .finished ∨
    ∃ task ∈ s.tasks, task.watching = true

theorem forall_mem_set {α : Type} {p : α → Prop} {xs : List α} {i : Nat} {x : α}
    (h : ∀ y ∈ xs, p y) (hx : p x) : ∀ y ∈ xs.set i x, p y := by
  intro y hy
  rcases mem_or_eq_of_mem_set hy with hy | rfl
  · exact h y hy
  · exact hx

namespace Watched

variable {s t : State}

theorem of_gone (hgone : t.container = false)
    (hplain : ∀ expires, t.creation = .created expires ∨ t.creation = .started expires →
      t.label.isSome = expires.isSome) : Watched t where
  gone _ _ _ := hgone
  plain := hplain
  manual hc := by simp [hgone] at hc
  guarded hc := by simp [hgone] at hc

section

variable (h : Watched s)

include h

theorem advance {i : Nat} {old new : Task} (hold : s.tasks[i]? = some old)
    (hgone : new.forgetting = true → s.container = false)
    (hwatch : s.container = true → old.watching = true → new.watching = true) :
    Watched { s with tasks := s.tasks.set i new } where
  gone := forall_mem_set h.gone hgone
  plain := h.plain
  manual := h.manual
  guarded hc hl := by
    obtain ⟨hi,rfl⟩ := List.getElem?_eq_some_iff.mp hold
    rcases h.guarded hc hl with ht | hcr | ⟨task,hmem,hw⟩
    · exact .inl ht
    · exact .inr (.inl hcr)
    obtain ⟨j,hj,rfl⟩ := List.getElem_of_mem hmem
    refine .inr (.inr ?_)
    by_cases hij : i = j
    · subst hij
      exact ⟨new,List.mem_set hi new,hwatch hc hw⟩
    · exact ⟨s.tasks[j],List.mem_iff_getElem.mpr ⟨j,by simpa using hj,by simp [hij]⟩,hw⟩

theorem schedule (i expires : Nat) :
    Watched { s.scheduleExpiration expires false with tasks := s.tasks.set i .finished } where
  gone := forall_mem_set h.gone (by simp [Task.forgetting])
  plain := h.plain
  manual := h.manual
  guarded _ _ := .inl rfl

theorem task {i : Nat} {ok : Bool} {old new : Task} (hold : s.tasks[i]? = some old)
    (hrel : reliable s (.task i ok) = true) (hrun : s.runTask ok old = some (t, new))
    : Watched { t with tasks := t.tasks.set i new } := by
  have hmem := mem_of_getElem? hold
  simp only [reliable,hold] at hrel
  cases old with
  | firing =>
    cases hrun
    refine h.advance hold ?_ ?_ <;> cases ok <;> cases hc : s.container <;>
      simp [Task.forgetting,Task.watching]
  | failed | reading | killing => cases hrun; exact h.advance hold nofun fun _ _ => rfl
  | comparing tracked =>
    have hpast : tracked.any (s.now < ·) = false := by
      cases tracked <;> simp_all
    cases hrun
    exact h.advance hold (by simp [hpast,Task.forgetting]) (by simp [hpast,Task.watching])
  | retrying due => cases hrun; exact h.schedule i due
  | checking label =>
    cases hrun
    refine h.advance hold ?_ ?_ <;> split <;> simp [Task.forgetting,Task.watching]
  | judging expires =>
    cases expires with
    | none => cases hrun; exact h.advance hold nofun fun _ _ => rfl
    | some expires =>
      cases hrun
      exact h.advance hold (by split <;> simp [Task.forgetting]) (by split <;> simp [Task.watching])
  | renewed expires => cases hrun; exact h.schedule i expires
  | deleting =>
    cases hrun
    exact h.advance hold (by cases ok <;> simp_all [Task.forgetting]) (by simp [Task.watching])
  | removing => cases hrun; exact of_gone (by cases ok <;> simp_all) h.plain
  | untracking | unlinking => cases hrun; exact of_gone (h.gone _ hmem rfl) h.plain
  | finished => cases hrun

theorem renewal {i : Nat} {ok : Bool} {r : Renewal} {stage : Stage} (hr : s.renewals[i]? = some r)
    (hrun : s.renewExpiration ok r = some (t, stage)) :
    Watched { t with renewals := t.renewals.set i { r with stage } } := by
  have hmem := mem_of_getElem? hr
  have hwriting (hc : s.container = true) (hw : r.stage.writing = true) : s.label ≠ none :=
    fun hl => by simp [(h.manual hc hl).2.2 r hmem] at hw
  revert hrun
  fun_cases State.renewExpiration s ok r <;> intro hrun <;> cases hrun <;> rename_i hstage
  · refine ⟨h.gone,h.plain,fun hc hl => ?_,h.guarded⟩
    obtain ⟨ht,ho,hw⟩ := h.manual hc hl
    exact ⟨ht,ho,forall_mem_set hw (by simp [show s.label = none from hl,Stage.writing])⟩
  · exact ⟨h.gone,h.plain,fun hc hl => absurd hl (hwriting hc (by simp [hstage,Stage.writing])),
      fun _ _ => .inl rfl⟩
  · exact ⟨h.gone,h.plain,fun hc hl => absurd hl (hwriting hc (by simp [hstage,Stage.writing])),
      h.guarded⟩
  have hlabel (hc : s.container = true) := hwriting hc (by simp [hstage,Stage.writing])
  refine ⟨h.gone,fun e hcr => ?_,fun hc hl => absurd hl ?_,fun hc _ => h.guarded hc ?_⟩
  · rw [← h.plain e hcr]
    cases ok <;> cases hc : s.container <;> simp [isSome_iff_ne_none,hlabel,hc]
  · have hn := hlabel hc
    simp only [show s.container = true from hc]
    cases ok <;> simp [hn]
  · exact isSome_iff_ne_none.mpr (hlabel hc)

theorem request {asked : Nat} {seen : Option Nat} (hseen : seen.all (· ≤ asked) = true)
    : Watched (s.request asked seen hseen) := by
  refine ⟨h.gone,h.plain,fun hc hl => ?_,h.guarded⟩
  obtain ⟨ht,ho,hw⟩ := h.manual hc hl
  refine ⟨ht,ho,?_⟩
  simpa [State.request,or_imp,forall_and,Stage.writing] using hw

theorem provision {ok : Bool} (hrel : reliable s (.provision ok) = true)
    (hrun : s.provision ok = some t) : Watched t := by
  simp only [reliable] at hrel
  revert hrun
  fun_cases State.provision s ok <;> intro hrun <;> cases hrun
  · rename_i expires hcr
    refine ⟨h.gone,fun e hp => h.plain e ?_,h.manual,fun _ _ => .inr (.inl ?_)⟩
    · cases ok <;> simp_all
    · cases ok <;> simp
  · rename_i hcr
    exact of_gone (by cases ok <;> simp_all) (by simp)
  · rename_i expires hcr
    have hl := h.plain _ (.inr hcr)
    exact ⟨h.gone,by simp,fun _ hn => by simp [show s.label = none from hn] at hl,
      fun _ _ => .inl rfl⟩
  · rename_i hcr
    have hl := h.plain _ (.inr hcr)
    exact ⟨h.gone,by simp,h.manual,fun _ hn => by simp [show s.label.isSome from hn] at hl⟩

theorem fire : Watched { s with timer := none, tasks := s.tasks ++ [.firing] } where
  gone := by simpa [or_imp,forall_and,Task.forgetting] using h.gone
  plain := h.plain
  manual := h.manual
  guarded _ _ := .inr (.inr ⟨.firing,by simp,rfl⟩)

theorem delete : Watched { s with tasks := s.tasks ++ [.deleting] } where
  gone := by simpa [or_imp,forall_and,Task.forgetting] using h.gone
  plain := h.plain
  manual := h.manual
  guarded hc hl := by simpa [Task.watching] using h.guarded hc hl

theorem step {a : Action} (hserving : a.serving = true) (hrel : reliable s a = true)
    (hstep : Docker.step s a = some t) : Watched t := by
  cases a with
  | tick => cases hstep; exact { h with }
  | provision ok => exact h.provision hrel hstep
  | fire =>
    obtain ⟨-,⟨⟩⟩ := ite_none_right_eq_some.mp hstep
    exact h.fire
  | delete =>
    obtain ⟨-,⟨⟩⟩ := ite_none_right_eq_some.mp hstep
    exact h.delete
  | task i ok =>
    obtain ⟨old,hold,hmap⟩ := bind_eq_some_iff.mp hstep
    obtain ⟨⟨t,new⟩,hrun,rfl⟩ := map_eq_some_iff.mp hmap
    exact h.task hold hrel hrun
  | fetch readable =>
    obtain ⟨-,hmap⟩ := ite_none_right_eq_some.mp hstep
    obtain ⟨e,-,rfl⟩ := map_eq_some_iff.mp hmap
    exact { h with }
  | access i extend =>
    obtain ⟨current,-,rfl⟩ := map_eq_some_iff.mp hstep
    have hle : (some current).all (· ≤ max (s.now + extend) current) = true := by simp
    have hreq := h.request hle
    exact { hreq with }
  | renew expires => cases hstep; exact h.request rfl
  | renewal i ok =>
    obtain ⟨r,hr,hmap⟩ := bind_eq_some_iff.mp hstep
    obtain ⟨⟨t,stage⟩,hrun,rfl⟩ := map_eq_some_iff.mp hmap
    exact h.renewal hr hrun
  | garble =>
    obtain ⟨-,⟨⟩⟩ := ite_none_right_eq_some.mp hstep
    exact ⟨h.gone,h.plain,fun hc hl => ⟨(h.manual hc hl).1,rfl,(h.manual hc hl).2.2⟩,h.guarded⟩
  | restart listed readable => cases hserving

end

theorem born (expires : Option Nat) : Watched (.born expires) where
  gone _ hmem := absurd hmem not_mem_nil
  plain e he := by simp_all [State.born]
  manual _ _ := ⟨rfl,rfl,fun _ hmem => absurd hmem not_mem_nil⟩
  guarded _ _ := .inr (.inl Creation.noConfusion)

end Watched

def State.quiet (s : State) : Bool :=
  s.creation = .finished && s.tasks.all (· = .finished) && s.renewals.all (!·.stage.active)

end OpenSandbox.Server.Docker
