import OpenSandbox.Server.Docker.Expiration

namespace OpenSandbox.Server.Docker

open List Option Bool

inductive Place
  | tracked
  | override
  | label

def State.at (s : State) : Place → Option Nat
  | .tracked => s.tracked
  | .override => s.override
  | .label => s.label

def Stage.place : Stage → Option Place
  | .scheduling => some .tracked
  | .persisting => some .override
  | .labelling => some .label
  | .querying | .returned | .refused => none

def Stage.ahead : Stage → Place → Bool
  | .querying, _ | .scheduling, _ | .persisting, .override | .persisting, .label
  | .labelling, .label => true
  | _, _ => false

theorem Stage.ahead_place {stage : Stage} {p : Place} (h : stage.place = some p) :
    stage.ahead p = true := by
  cases stage <;> cases h <;> rfl

def Renewal.place (r : Renewal) (s : State) : Option Nat := r.stage.place.bind s.at

theorem renewal_writes {s t : State} {i : Nat} {ok : Bool} {r : Renewal}
    (hr : s.renewals[i]? = some r) (hstep : step s (.renewal i ok) = some t) :
    r.place t = some r.asked ∨ r.place t = r.place s := by
  obtain ⟨_,hr',hmap⟩ := bind_eq_some_iff.mp hstep
  cases hr.symm.trans hr'
  obtain ⟨⟨u,stage⟩,hrun,rfl⟩ := map_eq_some_iff.mp hmap
  revert hrun
  fun_cases State.renewExpiration s ok r <;> intro hrun <;> cases hrun <;> rename_i hstage <;>
    simp only [Renewal.place,hstage,Stage.place,bind_some,bind_none,State.at]
  · exact .inr trivial
  · exact .inl rfl
  · cases ok <;> simp
  · cases ok <;> cases s.container <;> simp

def State.spared (s : State) (p : Place) (expires : Nat) : Bool :=
  s.renewals.all fun r => r.seen.isNone || !r.stage.ahead p || expires ≤ r.asked

def unbeaten (s : State) : Action → Bool
  | .provision _ =>
    match s.creation with
    | .started (some expires) => s.spared .tracked expires
    | _ => true
  | .access i extend =>
    (s.fetched[i]?).all fun current => [s.tracked,s.override,s.label].all fun stored =>
      stored.all (· ≤ max (s.now + extend) current)
  | .renewal i _ => (s.renewals[i]?).all fun r => r.stage.place.all fun p => s.spared p r.asked
  | _ => true

def Covered (s : State) : Prop :=
  ∀ r ∈ s.renewals, r.seen.isSome → ∀ p, r.stage.ahead p = true →
    ∀ e, s.at p = some e → e ≤ r.asked

namespace Covered

variable {s t : State}

section

variable (h : Covered s)

include h

theorem follow
    (hrenewals : ∀ r ∈ t.renewals, ∀ p, r.stage.ahead p = true → ∃ old ∈ s.renewals,
      old.seen = r.seen ∧ old.asked = r.asked ∧ old.stage.ahead p = true)
    (hat : ∀ p e, t.at p = some e → s.at p = some e ∨ s.spared p e = true) : Covered t := by
  intro r hr hseen p hahead e he
  obtain ⟨old,hold,hsame,hasked,hbefore⟩ := hrenewals r hr p hahead
  rw [← hsame] at hseen
  rw [← hasked]
  rcases hat p e he with hkept | hspared
  · exact h old hold hseen p hbefore e hkept
  · have hall := all_eq_true.mp hspared old hold
    simpa [isSome_iff_ne_none.mp hseen,hbefore] using hall

theorem kept (hrenewals : t.renewals = s.renewals)
    (hat : ∀ p e, t.at p = some e → s.at p = some e ∨ s.spared p e = true) : Covered t :=
  h.follow (fun r hr _ hahead => ⟨r,hrenewals ▸ hr,rfl,rfl,hahead⟩) hat

theorem same (hrenewals : t.renewals = s.renewals) (hat : t.at = s.at) :
    Covered t :=
  h.kept hrenewals fun p e he => .inl (by rwa [← hat])

theorem provision {ok : Bool} (hok : unbeaten s (.provision ok) = true)
    (hstep : s.provision ok = some t) : Covered t := by
  revert hstep
  fun_cases State.provision s ok <;> intro hstep <;> cases hstep
  · exact h.same rfl rfl
  · exact h.same rfl rfl
  · next expires hcreation =>
    simp only [unbeaten,hcreation] at hok
    refine h.kept rfl fun p e he => ?_
    cases p with
    | tracked =>
      cases he
      exact .inr hok
    | override | label => exact .inl he
  · exact h.same rfl rfl

theorem task {ok : Bool} {old new : Task} {i : Nat} (hrun : s.runTask ok old = some (t, new)) :
    Covered { t with tasks := t.tasks.set i new } := by
  cases old with
  | untracking =>
    cases hrun
    refine h.kept rfl fun p e he => ?_
    cases p with
    | tracked => cases he
    | override | label => exact .inl he
  | unlinking =>
    cases hrun
    refine h.kept rfl fun p e he => ?_
    cases p with
    | override => cases ok <;> simp_all [State.at]
    | tracked | label => exact .inl he
  | judging expires => cases expires <;> cases hrun <;> exact h.same rfl rfl
  | finished => cases hrun
  | _ => cases hrun; exact h.same rfl rfl

theorem request {asked : Nat} {seen : Option Nat} (hext : seen.all (· ≤ asked) = true)
    (hnew : seen.isSome → ∀ p e, s.at p = some e → e ≤ asked) :
    Covered (s.request asked seen hext) := by
  intro r hr hseen p hahead e he
  have hat : s.at p = some e := by cases p <;> exact he
  rcases mem_append.mp hr with hr | hr
  · exact h r hr hseen p hahead e hat
  · cases mem_singleton.mp hr
    exact hnew hseen p e hat

theorem renewal {i : Nat} {ok : Bool} {r : Renewal} {stage : Stage} (hr : s.renewals[i]? = some r)
    (hok : unbeaten s (.renewal i ok) = true) (hrun : s.renewExpiration ok r = some (t, stage)) :
    Covered { t with renewals := t.renewals.set i { r with stage } } := by
  have hspared : ∀ p ∈ r.stage.place, s.spared p r.asked = true := by
    simpa [unbeaten,hr,Option.all_eq_true] using hok
  have hstored : t.renewals = s.renewals ∧ (∀ p, stage.ahead p = true → r.stage.ahead p = true) ∧
      ∀ p e, t.at p = some e → s.at p = some e ∨ p ∈ r.stage.place ∧ e = r.asked := by
    revert hrun
    fun_cases State.renewExpiration s ok r <;> intro hrun <;> cases hrun <;> rename_i hstage <;>
      rw [hstage] <;> refine ⟨rfl,fun p => ?_,fun p e => ?_⟩
    · exact fun _ => rfl
    · exact .inl
    all_goals cases p <;> simp [Stage.ahead,Stage.place,State.at,State.scheduleExpiration]
    all_goals grind
  obtain ⟨hrenewals,hshrink,hat⟩ := hstored
  refine h.follow (fun r' hr' p hahead => ?_) fun p e he => ?_
  · rcases mem_or_eq_of_mem_set hr' with hr' | rfl
    · exact ⟨r',hrenewals ▸ hr',rfl,rfl,hahead⟩
    · exact ⟨r,mem_of_getElem? hr,rfl,rfl,hshrink p hahead⟩
  · rcases hat p e he with hkept | ⟨hp,rfl⟩
    · exact .inl hkept
    · exact .inr (hspared p hp)

end

theorem crash (hrenewals : t.renewals = s.crash.renewals) : Covered t := by
  intro r hr hseen p hahead
  rw [hrenewals] at hr
  obtain ⟨old,-,rfl⟩ := mem_map.mp hr
  revert hahead
  cases old.stage <;> cases p <;> simp [Stage.ahead,Stage.active]

theorem step {a : Action} (h : Covered s) (hok : unbeaten s a = true)
    (hstep : step s a = some t) : Covered t := by
  cases a with
  | tick =>
    cases hstep
    exact h.same rfl rfl
  | provision ok => exact h.provision hok hstep
  | fire =>
    obtain ⟨-,⟨⟩⟩ := ite_none_right_eq_some.mp hstep
    exact h.same rfl rfl
  | delete =>
    obtain ⟨-,⟨⟩⟩ := ite_none_right_eq_some.mp hstep
    exact h.same rfl rfl
  | task i ok =>
    obtain ⟨old,-,hmap⟩ := bind_eq_some_iff.mp hstep
    obtain ⟨⟨u,new⟩,hrun,rfl⟩ := map_eq_some_iff.mp hmap
    exact h.task hrun
  | fetch readable =>
    obtain ⟨-,hmap⟩ := ite_none_right_eq_some.mp hstep
    obtain ⟨e,-,rfl⟩ := map_eq_some_iff.mp hmap
    exact h.same rfl rfl
  | access i extend =>
    obtain ⟨current,hcurrent,rfl⟩ := map_eq_some_iff.mp hstep
    refine (h.request (by simp) fun _ p e he => ?_).same rfl rfl
    simp only [unbeaten,hcurrent,all_some,all_cons,all_nil,Bool.and_true,
      and_eq_true,Option.all_eq_true,decide_eq_true_eq] at hok
    cases p with
    | tracked => exact hok.1 e he
    | override => exact hok.2.1 e he
    | label => exact hok.2.2 e he
  | renew expires =>
    cases hstep
    exact h.request rfl nofun
  | renewal i ok =>
    obtain ⟨r,hr,hmap⟩ := bind_eq_some_iff.mp hstep
    obtain ⟨⟨u,stage⟩,hrun,rfl⟩ := map_eq_some_iff.mp hmap
    exact h.renewal hr hok hrun
  | garble =>
    obtain ⟨-,⟨⟩⟩ := ite_none_right_eq_some.mp hstep
    refine h.kept rfl fun p e he => ?_
    cases p with
    | override => cases he
    | tracked | label => exact .inl he
  | restart listed readable =>
    cases hstep
    refine crash (s := s) ?_
    unfold State.restoreExistingSandboxes
    split_ifs <;> [split; rfl; rfl]
    · split_ifs <;> rfl
    · rfl

end Covered

theorem Reachable.covered {s : State} (h : Reachable unbeaten s) : Covered s := by
  refine Runs.Reach.invariant ?_ ?_ h
  · rintro _ ⟨expires,rfl⟩ r hr
    cases hr
  · exact fun s a t hs hok hstep => hs.step hok hstep

end OpenSandbox.Server.Docker

namespace OpenSandbox.Server.Kubernetes

open List Option Bool

structure Renewal where
  asked : Nat
  seen : Option Nat
  checked : Bool
  extended : seen.all (· ≤ asked) = true

structure State where
  now : Nat
  expireTime : Option Nat
  versions : List (Option Nat)
  fetched : List Nat
  renewals : List Renewal

inductive Action
  | tick
  | fetch (version : Nat)
  | access (i : Nat) (extend : Nat)
  | renew (expires : Nat)
  | check (i version : Nat)
  | update (i : Nat) (ok : Bool)

def State.updateExpiration (s : State) (expires : Nat) : State :=
  { s with expireTime := some expires, versions := s.versions ++ [some expires] }

def step (s : State) : Action → Option State
  | .tick => some { s with now := s.now + 1 }
  | .fetch version =>
    (s.versions[version]?).bind fun seen => seen.map fun e => { s with fetched := s.fetched ++ [e] }
  | .access i extend =>
    (s.fetched[i]?).map fun current =>
      { s with
        fetched := s.fetched.eraseIdx i
        renewals := s.renewals ++ [⟨max (s.now + extend) current,some current,false,by simp⟩] }
  | .renew expires => some { s with renewals := s.renewals ++ [⟨expires,none,false,.symm rfl⟩] }
  | .check i version =>
    (s.renewals[i]?).bind fun r => (s.versions[version]?).map fun seen =>
      if s.now < r.asked && seen.isSome then
        { s with renewals := s.renewals.set i { r with checked := true } }
      else { s with renewals := s.renewals.eraseIdx i }
  | .update i ok =>
    (s.renewals[i]?).bind fun r =>
      if r.checked then
        some { (if ok then s.updateExpiration r.asked else s) with
          renewals := s.renewals.eraseIdx i }
      else none

def State.created (expires : Option Nat) : State := ⟨0,expires,[expires],[],[]⟩

def Reachable (ok : State → Action → Bool) : State → Prop :=
  Runs.Reach (fun s a t => step s a = some t) (fun s a => ok s a = true) fun s => ∃ e, s = .created e

theorem update_writes {s t : State} {i : Nat} {ok : Bool} {r : Renewal}
    (hr : s.renewals[i]? = some r) (hstep : step s (.update i ok) = some t) :
    t.expireTime = some r.asked ∨ t.expireTime = s.expireTime := by
  obtain ⟨_,hr',hif⟩ := bind_eq_some_iff.mp hstep
  cases hr.symm.trans hr'
  obtain ⟨-,⟨⟩⟩ := ite_none_right_eq_some.mp hif
  cases ok
  · exact .inr rfl
  · exact .inl rfl

def unbeaten (s : State) : Action → Bool
  | .access i extend =>
    (s.fetched[i]?).all fun current => s.expireTime.all (· ≤ max (s.now + extend) current)
  | .update i _ =>
    (s.renewals[i]?).all fun r => s.renewals.all fun r' => r'.seen.isNone || r.asked ≤ r'.asked
  | _ => true

def Covered (s : State) : Prop :=
  ∀ r ∈ s.renewals, r.seen.isSome → ∀ e, s.expireTime = some e → e ≤ r.asked

theorem Covered.update {s : State} {i : Nat} {r : Renewal} (h : Covered s)
    (hr : s.renewals[i]? = some r) {ok : Bool} (hok : unbeaten s (.update i ok) = true) :
    Covered { (if ok then s.updateExpiration r.asked else s) with
      renewals := s.renewals.eraseIdx i } := by
  intro r' hr' hseen e he
  have hmem := mem_of_mem_eraseIdx hr'
  cases ok with
  | false => exact h r' hmem hseen e he
  | true =>
    cases he
    simp only [unbeaten,hr,all_some,List.all_eq_true] at hok
    simpa [isSome_iff_ne_none.mp hseen] using hok r' hmem

theorem Covered.request {s t : State} {r : Renewal} (h : Covered s)
    (hrenewals : t.renewals = s.renewals ++ [r]) (hsame : t.expireTime = s.expireTime)
    (hnew : r.seen.isSome → ∀ e, s.expireTime = some e → e ≤ r.asked) : Covered t := by
  intro r' hr' hseen e he
  rw [hsame] at he
  rw [hrenewals] at hr'
  rcases mem_append.mp hr' with hr' | hr'
  · exact h r' hr' hseen e he
  · cases mem_singleton.mp hr'
    exact hnew hseen e he

theorem Covered.step {s t : State} {a : Action} (h : Covered s) (hok : unbeaten s a = true)
    (hstep : step s a = some t) : Covered t := by
  cases a with
  | tick =>
    cases hstep
    exact h
  | fetch version =>
    obtain ⟨seen,-,hmap⟩ := bind_eq_some_iff.mp hstep
    obtain ⟨e,-,rfl⟩ := map_eq_some_iff.mp hmap
    exact h
  | access i extend =>
    obtain ⟨current,hcurrent,rfl⟩ := map_eq_some_iff.mp hstep
    refine h.request rfl rfl fun _ e he => ?_
    simp only [unbeaten,hcurrent,all_some,Option.all_eq_true,decide_eq_true_eq] at hok
    exact hok e he
  | renew expires =>
    cases hstep
    exact h.request rfl rfl nofun
  | check i version =>
    obtain ⟨r,hr,hmap⟩ := bind_eq_some_iff.mp hstep
    obtain ⟨seen,-,rfl⟩ := map_eq_some_iff.mp hmap
    split_ifs
    · intro r' hr' hseen e he
      rcases mem_or_eq_of_mem_set hr' with hr' | rfl
      · exact h r' hr' hseen e he
      · exact h r (mem_of_getElem? hr) hseen e he
    · exact fun r' hr' => h r' (mem_of_mem_eraseIdx hr')
  | update i ok =>
    obtain ⟨r,hr,hif⟩ := bind_eq_some_iff.mp hstep
    obtain ⟨-,⟨⟩⟩ := ite_none_right_eq_some.mp hif
    exact h.update hr hok

theorem Reachable.covered {s : State} (h : Reachable unbeaten s) : Covered s := by
  refine Runs.Reach.invariant ?_ ?_ h
  · rintro _ ⟨e,rfl⟩ r hr
    cases hr
  · exact fun s a t hs hok hstep => hs.step hok hstep

end OpenSandbox.Server.Kubernetes

namespace OpenSandbox.Server

def NotEarlier (old new : Option Nat) : Prop := ∀ e, old = some e → ∃ e', new = some e' ∧ e ≤ e'

theorem notEarlier_of_le {old new : Option Nat} {asked : Nat}
    (hle : ∀ e, old = some e → e ≤ asked) (hnew : new = some asked ∨ new = old) :
    NotEarlier old new := by
  intro e he
  rcases hnew with hnew | hnew
  · exact ⟨asked,hnew,hle e he⟩
  · exact ⟨e,hnew.trans he,le_rfl⟩

inductive Stores (docker : Docker.State → Docker.Action → Bool)
    (kubernetes : Kubernetes.State → Kubernetes.Action → Bool) : Option Nat → Option Nat → Prop
  | docker {s t : Docker.State} {i : Nat} {ok : Bool} {r : Docker.Renewal} :
      Docker.Reachable docker s → s.renewals[i]? = some r → r.seen.isSome →
      Docker.step s (.renewal i ok) = some t → Stores docker kubernetes (r.place s) (r.place t)
  | kubernetes {s t : Kubernetes.State} {i : Nat} {ok : Bool} {r : Kubernetes.Renewal} :
      Kubernetes.Reachable kubernetes s → s.renewals[i]? = some r → r.seen.isSome →
      Kubernetes.step s (.update i ok) = some t →
      Stores docker kubernetes s.expireTime t.expireTime

theorem access_renewal_never_shortens {old new : Option Nat}
    (h : Stores Docker.unbeaten Kubernetes.unbeaten old new) : NotEarlier old new := by
  cases h with
  | docker hs hr hseen hstep =>
    refine notEarlier_of_le (fun e he => ?_) (Docker.renewal_writes hr hstep)
    obtain ⟨p,hp,hat⟩ := Option.bind_eq_some_iff.mp he
    exact hs.covered _ (List.mem_of_getElem? hr) hseen p (Docker.Stage.ahead_place hp) e hat
  | kubernetes hs hr hseen hstep =>
    exact notEarlier_of_le (hs.covered _ (List.mem_of_getElem? hr) hseen)
      (Kubernetes.update_writes hr hstep)

def tracked (s : Docker.State) : Option Docker.Renewal × Option Nat × Option (Option Nat) :=
  (s.renewals[0]?, s.tracked, (Docker.step s (.renewal 0 true)).map Docker.State.tracked)

theorem stores_tracked {docker : Docker.State → Docker.Action → Bool}
    {kubernetes : Kubernetes.State → Kubernetes.Action → Bool} {moves : List Docker.Action}
    {asked seen : Nat} {hext : (some seen).all (· ≤ asked) = true} {old new : Option Nat}
    (hrun : (Docker.run docker (.born (some 10)) moves).map tracked =
      some (some ⟨asked,some seen,.scheduling,hext⟩, old, some new)) :
    Stores docker kubernetes old new := by
  obtain ⟨s,hs,hfacts⟩ := Docker.run_reachable hrun
  simp only [tracked,Prod.mk.injEq] at hfacts
  obtain ⟨hr,rfl,hstep⟩ := hfacts
  obtain ⟨t,ht,rfl⟩ := Option.map_eq_some_iff.mp hstep
  exact .docker hs hr rfl ht

theorem access_renewal_extends :
    Stores Docker.unbeaten Kubernetes.unbeaten (some 12) (some 15) ∧
      NotEarlier (some 12) (some 15) := by
  have hrun : (Docker.run Docker.unbeaten (.born (some 10)) [.provision true,.provision true,
      .fetch true,.access 0 15,.renew 12,.renewal 1 true,.renewal 1 true,.renewal 0 true]).map
      tracked = some (some ⟨15,some 10,.scheduling,rfl⟩, some 12, some (some 15)) := by
    decide +kernel
  exact ⟨stores_tracked hrun,access_renewal_never_shortens (stores_tracked hrun)⟩

theorem access_renewal_shortens :
    ∃ old new, Stores (fun _ _ => true) (fun _ _ => true) old new ∧ ¬ NotEarlier old new := by
  have hrun : (Docker.run (fun _ _ => true) (.born (some 10)) [.provision true,.provision true,
      .fetch true,.access 0 5,.renew 100,.renewal 1 true,.renewal 1 true,.renewal 0 true]).map
      tracked = some (some ⟨10,some 10,.scheduling,rfl⟩, some 100, some (some 10)) := by
    decide +kernel
  refine ⟨_,_,stores_tracked hrun,fun h => ?_⟩
  obtain ⟨_,⟨⟩,hle⟩ := h 100 rfl
  exact absurd hle (by decide)

end OpenSandbox.Server
