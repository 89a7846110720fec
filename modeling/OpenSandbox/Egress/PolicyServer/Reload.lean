import OpenSandbox.Library.Runs
import OpenSandbox.Egress.AlwaysRules
import OpenSandbox.Egress.PolicyServer.Handlers

namespace OpenSandbox.PolicyServer

open Policy

structure Overlay where
  loader : AlwaysRuleLoader
  proxy : AlwaysRules
  deriving DecidableEq

def currentAlwaysRules (o : Overlay) : AlwaysRules :=
  ⟨o.loader.denyState.rules,o.loader.allowState.rules⟩

def withTelemetryAllow (telemetry allow : List EgressRule) : List EgressRule := allow ++ telemetry

def reloadAlwaysRules (telemetry : List EgressRule) (o : Overlay) (f : Refresh) :
    Except RuleFileError Bool × Overlay :=
  match refreshIfDue o.loader f with
  | (.error e, l) => (.error e, { o with loader := l })
  | (.ok false, l) => (.ok false, { o with loader := l })
  | (.ok true, l) =>
      let deny := l.denyState.rules
      let allow := withTelemetryAllow telemetry l.allowState.rules
      (.ok true, ⟨l.setCurrentRules deny allow,⟨deny,allow⟩⟩)

def startOverlay (interval : Int) (telemetry deny allow : List EgressRule) : Overlay :=
  let allow := withTelemetryAllow telemetry allow
  ⟨(newAlwaysRuleLoader interval).setCurrentRules deny allow,⟨deny,allow⟩⟩

def StartedOverlay (telemetry : List EgressRule) (o : Overlay) : Prop :=
  ∃ interval denyFile allowFile deny allow, loadAlwaysRuleFile actionDeny denyFile = .ok deny ∧
    loadAlwaysRuleFile actionAllow allowFile = .ok allow ∧
    o = startOverlay interval telemetry deny allow

def Reloads (telemetry : List EgressRule) (o : Overlay) (f : Refresh) (o' : Overlay) : Prop :=
  o' = (reloadAlwaysRules telemetry o f).2

def Published (o : Overlay) : Prop :=
  o.proxy.deny = o.loader.denyState.rules ∧ o.proxy.allow = o.loader.allowState.rules

def PublishedUnlessError (telemetry : List EgressRule) (o : Overlay) (f : Refresh)
    (o' : Overlay) : Prop :=
  (∃ changed, (reloadAlwaysRules telemetry o f).1 = .ok changed) → Published o'

def Swallows (o : Overlay) (f : Refresh) : Prop :=
  o.loader.due f.now = true ∧
    (refreshOne o.loader.denyState f.denyFile).1 = .ok true ∧
    (refreshOne o.loader.denyState f.denyFile).2.rules ≠ o.loader.denyState.rules ∧
    ∃ e, (refreshOne o.loader.allowState f.allowFile).1 = .error e

variable {telemetry : List EgressRule} {o : Overlay} {f : Refresh}

theorem StartedOverlay.published (h : StartedOverlay telemetry o) : Published o := by
  obtain ⟨interval,_,_,deny,allow,_,_,rfl⟩ := h
  exact ⟨rfl,rfl⟩

theorem refreshIfDue_rules {r : Except RuleFileError Bool} {l : AlwaysRuleLoader}
    (hf : ¬ Swallows o f) (h : refreshIfDue o.loader f = (r, l)) (hr : r ≠ .ok true) :
    l.denyState.rules = o.loader.denyState.rules ∧
      l.allowState.rules = o.loader.allowState.rules := by
  rcases refreshIfDue_cases o.loader f with
    ⟨_,hc⟩ | ⟨hdue,e,he,hallow,hdeny⟩ | ⟨_,_,hdeny,hallow⟩ | ⟨_,hc⟩
  · rw [h] at hc
    cases hc
    exact ⟨rfl,rfl⟩
  · rw [h] at hallow hdeny
    refine ⟨?_,congrArg FileState.rules hallow⟩
    rcases hdeny with hdeny | ⟨hchanged,hfail,hdeny⟩
    · exact congrArg FileState.rules hdeny
    by_contra hne
    refine hf ⟨hdue,hchanged,?_,e,hfail⟩
    rwa [← hdeny]
  · rw [h] at hdeny hallow
    exact ⟨congrArg FileState.rules hdeny,congrArg FileState.rules hallow⟩
  · rw [h] at hc
    exact absurd hc hr

theorem published_step (ho : Published o) (hf : ¬ Swallows o f) :
    Published (reloadAlwaysRules telemetry o f).2 := by
  unfold reloadAlwaysRules
  split
  · next h =>
    obtain ⟨hdeny,hallow⟩ := refreshIfDue_rules hf h (by simp)
    exact ⟨ho.1.trans hdeny.symm,ho.2.trans hallow.symm⟩
  · next h =>
    obtain ⟨hdeny,hallow⟩ := refreshIfDue_rules hf h (by simp)
    exact ⟨ho.1.trans hdeny.symm,ho.2.trans hallow.symm⟩
  · exact ⟨rfl,rfl⟩

theorem reloads_publish_every_change {telemetry : List EgressRule} {o : Overlay}
    (h : StartedOverlay telemetry o) (calls : List Refresh)
    (hcalls : Runs.Guarded (Reloads telemetry) (fun o f => ¬ Swallows o f) o calls) :
    Runs.EachStep (Reloads telemetry) (PublishedUnlessError telemetry) o calls := by
  have ho := h.published
  clear h
  induction calls generalizing o with
  | nil => trivial
  | cons f calls ih =>
    rintro _ rfl
    obtain ⟨hno,hrest⟩ := hcalls _ rfl
    have hnext : Published (reloadAlwaysRules telemetry o f).2 := published_step ho hno
    exact ⟨fun _ => hnext,ih hrest hnext⟩

def quietView (state : FileState) : FileView :=
  if state.present then ⟨.info state.modTime state.size,.failed⟩ else ⟨.notExist,.notExist⟩

theorem refreshOne_quietView (state : FileState) :
    refreshOne state (quietView state) = (.ok false, state) := by
  unfold quietView
  split_ifs with h
  · simp [refreshOne,h]
  · simp [refreshOne,h]

theorem exists_due (l : AlwaysRuleLoader) : ∃ now, l.due now = true := by
  cases h : l.lastCheck with
  | none => exact ⟨0,by rw [AlwaysRuleLoader.due,h]⟩
  | some last => exact ⟨last + l.refreshInterval,by rw [AlwaysRuleLoader.due,h]; simp⟩

theorem Swallows.refreshes (hf : Swallows o f) : ∃ e, (refreshIfDue o.loader f).1 = .error e ∧
      (refreshIfDue o.loader f).2.denyState = (refreshOne o.loader.denyState f.denyFile).2 := by
  obtain ⟨hdue,hchanged,_,e,hfail⟩ := hf
  rw [refreshIfDue,if_pos hdue]
  cases hd : refreshOne o.loader.denyState f.denyFile with
  | mk deny denyState =>
    cases ha : refreshOne o.loader.allowState f.allowFile with
    | mk allow allowState =>
      rw [hd] at hchanged
      rw [ha] at hfail
      cases hchanged
      cases hfail
      simp [ha]

theorem Swallows.breaks (ho : Published o) (hf : Swallows o f) :
    ∃ f', let out := reloadAlwaysRules telemetry (reloadAlwaysRules telemetry o f).2 f'
      out.1 = .ok false ∧ out.2.proxy.deny = o.loader.denyState.rules ∧
        out.2.loader.denyState.rules = (refreshOne o.loader.denyState f.denyFile).2.rules ∧
        out.2.loader.denyState.rules ≠ out.2.proxy.deny := by
  obtain ⟨e,he,hl⟩ := hf.refreshes
  obtain ⟨_,_,hne,_⟩ := hf
  cases hr : refreshIfDue o.loader f with
  | mk r l =>
    rw [hr] at he hl
    cases he
    obtain ⟨now,hnow⟩ := exists_due l
    have hfirst : (reloadAlwaysRules telemetry o f).2 = { o with loader := l } := by
      rw [reloadAlwaysRules,hr]
    have hsecond : reloadAlwaysRules telemetry { o with loader := l }
        ⟨now,quietView l.denyState,quietView l.allowState⟩ =
        (.ok false, { o with loader := { l with lastCheck := some now } }) := by
      rw [reloadAlwaysRules,refreshIfDue,if_pos hnow]
      simp [refreshOne_quietView]
    refine ⟨⟨now,quietView l.denyState,quietView l.allowState⟩,?_⟩
    rw [hfirst,hsecond]
    refine ⟨rfl,ho.1,congrArg _ hl,fun hsame => hne ?_⟩
    exact (congrArg _ hl.symm).trans (hsame.trans ho.1)

def bareOverlay : Overlay := startOverlay 60000000000 [] [] []

theorem startedOverlay_bare : StartedOverlay [] bareOverlay :=
  ⟨60000000000,.notExist,.notExist,[],[],rfl,rfl,rfl⟩

def denyAdded (now : Int) (allowFile : FileView) : Refresh :=
  ⟨now,⟨.info 1 13,.data "blocked.test\n"⟩,allowFile⟩

def blockedRule : EgressRule := classify actionDeny "blocked.test"

theorem reloads_publish_rewritten : StartedOverlay [] bareOverlay ∧
      Runs.EachStep (Reloads []) (PublishedUnlessError []) bareOverlay
        [denyAdded 0 ⟨.notExist,.notExist⟩,⟨60000000000,⟨.info 2 11,.data "later.test\n"⟩,
          ⟨.info 2 8,.data "ok.test\n"⟩⟩,denyAdded 120000000000 ⟨.notExist,.notExist⟩] := by
  have hkept {o : Overlay} {f : Refresh} (h : (refreshOne o.loader.allowState f.allowFile).1 = .ok true ∨
      (refreshOne o.loader.allowState f.allowFile).1 = .ok false) : ¬ Swallows o f := by
    rintro ⟨_,_,_,e,he⟩
    rw [he] at h
    simp at h
  refine ⟨startedOverlay_bare,reloads_publish_every_change startedOverlay_bare _ ?_⟩
  rintro _ rfl
  refine ⟨hkept (by decide +kernel),?_⟩
  rintro _ rfl
  refine ⟨hkept (by decide +kernel),?_⟩
  rintro _ rfl
  exact ⟨hkept (by decide +kernel),trivial⟩

theorem denied_rule_swallowed : StartedOverlay [] bareOverlay ∧
      (let first := denyAdded 0 ⟨.failed,.failed⟩
      let second := denyAdded 60000000000 ⟨.notExist,.notExist⟩
      let o₁ := (reloadAlwaysRules [] bareOverlay first).2
      let o₂ := (reloadAlwaysRules [] o₁ second).2
      (reloadAlwaysRules [] bareOverlay first).1 = .error .unreadable ∧
        (reloadAlwaysRules [] o₁ second).1 = .ok false ∧
        o₂.loader.denyState.rules = [blockedRule] ∧ o₂.proxy.deny = []) := by
  refine ⟨startedOverlay_bare,?_⟩
  decide +kernel

theorem breaks_denyAdded :
    let first := denyAdded 0 ⟨.failed,.failed⟩
    Swallows bareOverlay first ∧ ∃ f',
      let out := reloadAlwaysRules [] (reloadAlwaysRules [] bareOverlay first).2 f'
      out.1 = .ok false ∧ out.2.proxy.deny = [] ∧ out.2.loader.denyState.rules = [blockedRule] := by
  have hf : Swallows bareOverlay (denyAdded 0 ⟨.failed,.failed⟩) :=
    ⟨rfl,by decide +kernel,by decide +kernel,.unreadable,rfl⟩
  obtain ⟨f',hok,hdeny,hrules,-⟩ := hf.breaks startedOverlay_bare.published
  exact ⟨hf,f',hok,hdeny,hrules.trans (by decide +kernel)⟩

end OpenSandbox.PolicyServer
