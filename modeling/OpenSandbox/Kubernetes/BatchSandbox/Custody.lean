import OpenSandbox.Kubernetes.BatchSandbox.Requests

namespace OpenSandbox.Kubernetes.BatchSandbox

open List Option Function

structure Fleet where
  poolRef : String
  template : Option (List Container)
  replicas : Option Nat
  alloc : List String
  pods : List Pod
  nextUid : Nat

def Fleet.Own (f : Fleet) (p : Pod) : Prop :=
  f.poolRef ≠ "" ∧ p.name ∈ f.alloc ∨ f.poolRef = "" ∧ p.owned = true

structure Pooled (f : Fleet) : Prop where
  template : f.template = none
  unowned : ∀ p ∈ f.pods, p.owned = false
  alloc : f.alloc.length ≤ 1
  present : ∀ name ∈ f.alloc, ∃ p ∈ f.pods, p.name = name ∧ p.deleting = false
  names : ∀ p ∈ f.pods, ∀ q ∈ f.pods, p.name = q.name → p = q

structure Plain (f : Fleet) : Prop where
  index : ∀ p ∈ f.pods, p.owned = true → p.index = 0 ∧ f.template ≠ none
  template : f.template ≠ some []

structure FleetOk (f : Fleet) : Prop where
  single : f.replicas = some 1
  uids : ∀ p ∈ f.pods, ∀ q ∈ f.pods, p.uid = q.uid → p = q
  fresh : ∀ p ∈ f.pods, p.uid < f.nextUid
  sane : ∀ p ∈ f.pods, (p.running = true → p.started = true) ∧ p.containers ≠ []
  unique : ∀ p ∈ f.pods, ∀ q ∈ f.pods, f.Own p → f.Own q → p = q
  pooled : f.poolRef ≠ "" → Pooled f
  plain : f.poolRef = "" → Plain f

structure Core where
  fleet : Fleet
  phase : Phase
  snapshot : Option Snapshot
  history : List Nat
  lineage : Nat → List Nat

def carried (lineage : Nat → List Nat) (p : Pod) : List Nat :=
  p.uid :: if p.started then ((restoredFrom p.containers).map lineage).getD [] else []

def Core.Alive (c : Core) : Prop :=
  ∃ p ∈ c.fleet.pods, c.fleet.Own p ∧ p.deleting = false ∧ p.started = true

def Core.Restores (c : Core) : Prop :=
  ∀ snap, c.snapshot = some snap → snap.phase = .succeed → snap.deleting = false →
    ∃ t, c.fleet.template = some t ∧ restoredFrom t = some snap.uid

def Named (f : Fleet) (names : List String) : Prop :=
  (f.poolRef = "" → ∃ t, f.template = some t ∧ ∀ x ∈ t, x.name ∈ names) ∧
    (f.poolRef ≠ "" → f.alloc ≠ [] ∧ ∀ p ∈ f.pods, f.Own p → ∀ x ∈ p.containers, x.name ∈ names)

structure Shot (c : Core) (snap : Snapshot) : Prop where
  active : snap.phase ≠ .succeed → snap.phase ≠ .failed → c.phase = .pausing
  kept : c.phase = .pausing → snap.deleting = false
  attached : c.fleet.poolRef ≠ "" → snap.phase = .succeed → c.phase = .pausing
  source : snap.phase = .committing → ∀ uid, snap.source = some uid →
    uid < c.fleet.nextUid ∧ ∀ p ∈ c.fleet.pods, p.uid = uid → c.fleet.Own p
  named : snap.phase = .committing ∨ snap.phase = .succeed → Named c.fleet snap.containers
  taken : c.phase = .pausing → snap.phase = .succeed →
    (∀ d ∈ c.history, d ∈ c.lineage snap.uid) ∧
      ∀ p ∈ c.fleet.pods, c.fleet.Own p → p.uid ∈ c.lineage snap.uid
  restored : c.phase ≠ .pausing → snap.phase = .succeed → snap.deleting = false →
    ∀ p ∈ c.fleet.pods, c.fleet.Own p → p.deleting = false →
      restoredFrom p.containers = some snap.uid

inductive Anchored (c : Core) : Prop
  | pod {p : Pod} : p ∈ c.fleet.pods → c.fleet.Own p → p.deleting = false → p.started = true →
      (∀ d ∈ c.history, d ∈ carried c.lineage p) → Anchored c
  | snapshot {snap : Snapshot} : c.snapshot = some snap → snap.phase = .succeed →
      snap.deleting = false → (∀ d ∈ c.history, d ∈ c.lineage snap.uid) → Anchored c
  | empty : c.history = [] → Anchored c

structure Custody (c : Core) : Prop where
  fleet : FleetOk c.fleet
  shot : ∀ snap, c.snapshot = some snap → Shot c snap
  template : c.phase ≠ .pausing → c.phase ≠ .paused → c.phase ≠ .resuming → c.Restores
  anchored : Anchored c

structure Preserves (g : Pod → Pod) : Prop where
  uid : ∀ p, (g p).uid = p.uid
  name : ∀ p, (g p).name = p.name
  owned : ∀ p, (g p).owned = p.owned
  index : ∀ p, (g p).index = p.index
  containers : ∀ p, (g p).containers = p.containers
  started : ∀ p, p.started = true → (g p).started = true
  running : ∀ p, (p.running = true → p.started = true) →
    (g p).running = true → (g p).started = true
  deleting : ∀ p, (g p).deleting = false → p.deleting = false

def Fleet.withPods (f : Fleet) (pods : List Pod) : Fleet := { f with pods }

def From (g : Pod → Pod) (old new : List Pod) : Prop := ∀ p' ∈ new, ∃ p ∈ old, p' = g p

def Survives (f : Fleet) (g : Pod → Pod) (new : List Pod) : Prop :=
  ∀ p ∈ f.pods, f.Own p → p.deleting = false → g p ∈ new ∧ (g p).deleting = false

theorem Preserves.own {g : Pod → Pod} (hg : Preserves g) {f : Fleet} {new : List Pod} {p : Pod} :
    (f.withPods new).Own (g p) ↔ f.Own p := by
  rw [Fleet.Own,hg.name,hg.owned]
  rfl

theorem Pooled.own {f : Fleet} (hpool : f.poolRef ≠ "") {p : Pod} : f.Own p ↔ p.name ∈ f.alloc := by
  rw [Fleet.Own]
  constructor
  · rintro (⟨_,h⟩ | ⟨h,_⟩)
    · exact h
    · exact absurd h hpool
  · exact fun h => .inl ⟨hpool,h⟩

theorem Plain.own {f : Fleet} (hpool : f.poolRef = "") {p : Pod} : f.Own p ↔ p.owned = true := by
  rw [Fleet.Own]
  constructor
  · rintro (⟨h,_⟩ | ⟨_,h⟩)
    · exact absurd hpool h
    · exact h
  · exact fun h => .inr ⟨hpool,h⟩

variable {f : Fleet} {g : Pod → Pod} {new : List Pod}

theorem FleetOk.withPods (h : FleetOk f) (hg : Preserves g) (hfrom : From g f.pods new)
    (hkeep : f.poolRef ≠ "" → Survives f g new) : FleetOk (f.withPods new) := by
  refine ⟨h.single,?_,?_,?_,?_,fun hpool => ?_,fun hpool => ?_⟩
  · intro p' hp' q' hq' heq
    obtain ⟨p,hp,rfl⟩ := hfrom p' hp'
    obtain ⟨q,hq,rfl⟩ := hfrom q' hq'
    rw [hg.uid,hg.uid] at heq
    rw [h.uids p hp q hq heq]
  · intro p' hp'
    obtain ⟨p,hp,rfl⟩ := hfrom p' hp'
    rw [hg.uid]
    exact h.fresh p hp
  · intro p' hp'
    obtain ⟨p,hp,rfl⟩ := hfrom p' hp'
    rw [hg.containers]
    exact ⟨hg.running p (h.sane p hp).1,(h.sane p hp).2⟩
  · intro p' hp' q' hq' hownp hownq
    obtain ⟨p,hp,rfl⟩ := hfrom p' hp'
    obtain ⟨q,hq,rfl⟩ := hfrom q' hq'
    rw [h.unique p hp q hq (hg.own.mp hownp) (hg.own.mp hownq)]
  · have hp := h.pooled hpool
    refine ⟨hp.template,fun p' hp' => ?_,hp.alloc,fun name hname => ?_,?_⟩
    · obtain ⟨p,hmem,rfl⟩ := hfrom p' hp'
      rw [hg.owned]
      exact hp.unowned p hmem
    · obtain ⟨p,hmem,rfl,hdel⟩ := hp.present name hname
      obtain ⟨hnew,hlive⟩ := hkeep hpool p hmem ((Pooled.own hpool).mpr hname) hdel
      exact ⟨g p,hnew,hg.name p,hlive⟩
    intro p' hp' q' hq' heq
    obtain ⟨p,hmem,rfl⟩ := hfrom p' hp'
    obtain ⟨q,hq,rfl⟩ := hfrom q' hq'
    rw [hg.name,hg.name] at heq
    rw [hp.names p hmem q hq heq]
  · have hp := h.plain hpool
    refine ⟨fun p' hp' howned => ?_,hp.template⟩
    obtain ⟨p,hmem,rfl⟩ := hfrom p' hp'
    rw [hg.index]
    rw [hg.owned] at howned
    exact hp.index p hmem howned

variable {names : List String}

theorem Named.withPods (h : Named f names) (hg : Preserves g) (hfrom : From g f.pods new) :
    Named (f.withPods new) names := by
  refine ⟨h.1,fun hpool => ⟨(h.2 hpool).1,fun p' hp' hown => ?_⟩⟩
  obtain ⟨p,hp,rfl⟩ := hfrom p' hp'
  rw [hg.containers]
  exact (h.2 hpool).2 p hp (hg.own.mp hown)

def Core.withPods (c : Core) (pods : List Pod) : Core := { c with fleet := c.fleet.withPods pods }

variable {c : Core} {snap : Snapshot}

theorem Shot.withPods (h : Shot c snap) (hg : Preserves g) (hfrom : From g c.fleet.pods new) :
    Shot (c.withPods new) snap := by
  refine ⟨h.active,h.kept,h.attached,fun hphase uid hsource => ?_,
    fun hphase => (h.named hphase).withPods hg hfrom,fun hphase hsucceed => ?_,
    fun hphase hsucceed hdel => ?_⟩
  · obtain ⟨hlt,hown⟩ := h.source hphase uid hsource
    refine ⟨hlt,fun p' hp' huid => ?_⟩
    obtain ⟨p,hp,rfl⟩ := hfrom p' hp'
    rw [hg.uid] at huid
    exact hg.own.mpr (hown p hp huid)
  · obtain ⟨hhistory,huids⟩ := h.taken hphase hsucceed
    refine ⟨hhistory,fun p' hp' hown => ?_⟩
    obtain ⟨p,hp,rfl⟩ := hfrom p' hp'
    rw [hg.uid]
    exact huids p hp (hg.own.mp hown)
  · intro p' hp' hown hlive
    obtain ⟨p,hp,rfl⟩ := hfrom p' hp'
    rw [hg.containers]
    exact h.restored hphase hsucceed hdel p hp (hg.own.mp hown) (hg.deleting p hlive)

variable {p : Pod}

theorem Preserves.carried (hg : Preserves g) {lineage : Nat → List Nat} {d : Nat}
    (h : d ∈ carried lineage p) : d ∈ carried lineage (g p) := by
  rw [BatchSandbox.carried,hg.uid,hg.containers]
  rcases mem_cons.mp h with rfl | hrest
  · exact mem_cons_self
  by_cases hstarted : p.started = true
  · rw [if_pos hstarted] at hrest
    rw [if_pos (hg.started p hstarted)]
    exact mem_cons_of_mem _ hrest
  · rw [if_neg hstarted] at hrest
    cases hrest

theorem Anchored.withPods (h : Anchored c) (hg : Preserves g) (hlive : Survives c.fleet g new) :
    Anchored (c.withPods new) := by
  cases h with
  | @pod p hp hown hdel hstarted hdata =>
    obtain ⟨hnew,hdel'⟩ := hlive p hp hown hdel
    exact .pod hnew (hg.own.mpr hown) hdel' (hg.started p hstarted)
      fun d hd => hg.carried (hdata d hd)
  | snapshot hsnap hphase hdel hdata => exact .snapshot hsnap hphase hdel hdata
  | empty hnil => exact .empty hnil

theorem Core.Alive.withPods (h : c.Alive) (hg : Preserves g) (hlive : Survives c.fleet g new) :
    (c.withPods new).Alive := by
  obtain ⟨p,hp,hown,hdel,hstarted⟩ := h
  obtain ⟨hnew,hdel'⟩ := hlive p hp hown hdel
  exact ⟨g p,hnew,hg.own.mpr hown,hdel',hg.started p hstarted⟩

theorem Custody.withPods (h : Custody c) (hg : Preserves g) (hfrom : From g c.fleet.pods new)
    (hlive : Survives c.fleet g new) : Custody (c.withPods new) :=
  ⟨h.fleet.withPods hg hfrom fun _ => hlive,fun snap hsnap => (h.shot snap hsnap).withPods hg hfrom,
    h.template,h.anchored.withPods hg hlive⟩

variable {c' : Core}

theorem Anchored.transfer (h : Anchored c) (hhistory : c'.history = c.history)
    (hlineage : c'.lineage = c.lineage)
    (hpods : ∀ p ∈ c.fleet.pods, c.fleet.Own p → p ∈ c'.fleet.pods ∧ c'.fleet.Own p)
    (hsnap : ∀ snap, c.snapshot = some snap → snap.phase = .succeed → snap.deleting = false →
      c'.snapshot = some snap) : Anchored c' := by
  cases h with
  | pod hp hown hdel hstarted hdata =>
    obtain ⟨hp',hown'⟩ := hpods _ hp hown
    exact .pod hp' hown' hdel hstarted (hhistory ▸ hlineage ▸ hdata)
  | snapshot hfound hsucceed hdel hdata =>
    exact .snapshot (hsnap _ hfound hsucceed hdel) hsucceed hdel (hhistory ▸ hlineage ▸ hdata)
  | empty hnil => exact .empty (hhistory.trans hnil)

variable {phase : Phase}

theorem Anchored.reshoot {snapshot : Option Snapshot} (h : Anchored c)
    (hsnap : ∀ snap, c.snapshot = some snap → snap.phase = .succeed → snap.deleting = false →
      snapshot = some snap) :
    Anchored { c with snapshot, phase } :=
  h.transfer rfl rfl (fun _ hp hown => ⟨hp,hown⟩) hsnap

theorem Shot.blank (hsucceed : snap.phase ≠ .succeed) (hcommitting : snap.phase ≠ .committing)
    (hactive : snap.phase ≠ .failed → c.phase = .pausing)
    (hkept : c.phase = .pausing → snap.deleting = false) : Shot c snap :=
  ⟨fun _ => hactive,hkept,fun _ hp => absurd hp hsucceed,fun hp => absurd hp hcommitting,
    fun hp => absurd hp (not_or.mpr ⟨hcommitting,hsucceed⟩),fun _ hp => absurd hp hsucceed,
    fun _ hp => absurd hp hsucceed⟩

variable {uid : Nat}

theorem Custody.anchored_alive (h : Custody c) (hphase : c.phase ≠ .pausing) (halive : c.Alive) :
    ∃ p ∈ c.fleet.pods, c.fleet.Own p ∧ p.deleting = false ∧ p.started = true ∧
      ∀ d ∈ c.history, d ∈ carried c.lineage p := by
  obtain ⟨p,hp,hown,hdel,hstarted⟩ := halive
  refine ⟨p,hp,hown,hdel,hstarted,fun d hd => ?_⟩
  cases h.anchored with
  | @pod q hq hownq _ _ hdata =>
    rw [h.fleet.unique p hp q hq hown hownq]
    exact hdata d hd
  | @snapshot snap hsnap hsucceed hkept hdata =>
    have hrestored := (h.shot snap hsnap).restored hphase hsucceed hkept p hp hown hdel
    rw [carried,if_pos hstarted,hrestored]
    exact mem_cons_of_mem _ (hdata d hd)
  | empty hnil =>
    rw [hnil] at hd
    cases hd

def Core.dropSnapshot (c : Core) : Core :=
  { c with snapshot := c.snapshot.map fun snap => { snap with deleting := true } }

theorem Custody.dropSnapshot (h : Custody c) (hphase : c.phase ≠ .pausing)
    (hsafe : ∀ snap, c.snapshot = some snap → snap.phase = .succeed → c.Alive) :
    Custody c.dropSnapshot := by
  refine ⟨h.fleet,fun snap hsnap => ?_,fun _ _ _ snap hsnap _ hdel => ?_,?_⟩
  · obtain ⟨old,hold,rfl⟩ := map_eq_some_iff.mp hsnap
    have hs := h.shot old hold
    exact ⟨hs.active,fun hp => absurd hp hphase,hs.attached,hs.source,hs.named,hs.taken,nofun⟩
  · obtain ⟨old,_,rfl⟩ := map_eq_some_iff.mp hsnap
    cases hdel
  · have hpod (halive : c.Alive) : Anchored c.dropSnapshot := by
      obtain ⟨p,hp,hown,hdel,hstarted,hdata⟩ := h.anchored_alive hphase halive
      exact .pod hp hown hdel hstarted hdata
    cases h.anchored with
    | pod hp hown hdel hstarted hdata => exact .pod hp hown hdel hstarted hdata
    | snapshot hsnap hsucceed _ _ => exact hpod (hsafe _ hsnap hsucceed)
    | empty hnil => exact .empty hnil

def Core.rephase (c : Core) (phase : Phase) : Core := { c with phase }

theorem Custody.rephase (h : Custody c) (hold : c.phase ≠ .pausing) (hnew : phase ≠ .pausing)
    (htemplate : phase ≠ .paused → phase ≠ .resuming → c.Restores) : Custody (c.rephase phase) := by
  refine ⟨h.fleet,fun snap hsnap => ?_,fun _ => htemplate,?_⟩
  · have hs := h.shot snap hsnap
    exact ⟨fun h₁ h₂ => absurd (hs.active h₁ h₂) hold,fun hp => absurd hp hnew,
      fun hpool hsucceed => absurd (hs.attached hpool hsucceed) hold,hs.source,hs.named,
      fun hp => absurd hp hnew,fun _ => hs.restored hold⟩
  · exact h.anchored.reshoot fun _ hsnap _ _ => hsnap

theorem Custody.beginPause (h : Custody c) (hnone : c.snapshot = none) :
    Custody (c.rephase .pausing) := by
  refine ⟨h.fleet,fun snap hsnap => ?_,absurd rfl,?_⟩
  · cases hnone.symm.trans hsnap
  · exact h.anchored.reshoot fun _ hsnap _ _ => hsnap

theorem Custody.failPause (h : Custody c) (hsnap : c.snapshot = some snap)
    (hfailed : snap.phase = .failed) (hnew : phase ≠ .pausing) : Custody (c.rephase phase) := by
  have hsucceed : snap.phase ≠ .succeed := by
    rw [hfailed]
    decide
  refine ⟨h.fleet,fun found hfound => ?_,fun _ _ _ found hfound hdone => ?_,
    h.anchored.reshoot fun _ hfound _ _ => hfound⟩
  · cases hsnap.symm.trans hfound
    exact .blank hsucceed (by rw [hfailed]; decide) (absurd hfailed) fun hp => absurd hp hnew
  · cases hsnap.symm.trans hfound
    exact absurd hdone hsucceed

theorem Custody.finishPause (h : Custody c) (hsnap : c.snapshot = some snap)
    (hsucceed : snap.phase = .succeed) (hphase : c.phase = .pausing)
    (hpool : c.fleet.poolRef = "") (hgone : ∀ p ∈ c.fleet.pods, c.fleet.Own p → p.deleting = true) :
    Custody (c.rephase .paused) := by
  have hs := h.shot snap hsnap
  refine ⟨h.fleet,fun found hfound => ?_,fun _ hp => absurd rfl hp,?_⟩
  · cases hsnap.symm.trans hfound
    refine ⟨absurd hsucceed,nofun,absurd hpool,
      hs.source,hs.named,nofun,fun _ _ _ p hp hown hlive => ?_⟩
    cases (hgone p hp hown).symm.trans hlive
  · exact .snapshot hsnap hsucceed (hs.kept hphase) (hs.taken hphase hsucceed).1

def Core.note (c : Core) (uids : List Nat) : Core := { c with history := c.history ++ uids }

theorem Custody.note (h : Custody c) {uids : List Nat}
    (hready : ∀ uid ∈ uids, ∃ p ∈ c.fleet.pods, c.fleet.Own p ∧ p.uid = uid ∧
      p.deleting = false ∧ p.started = true) : Custody (c.note uids) := by
  refine ⟨h.fleet,fun snap hsnap => ?_,h.template,?_⟩
  · have hs := h.shot snap hsnap
    refine { hs with taken := fun hphase hsucceed => ?_ }
    obtain ⟨hdata,hown⟩ := hs.taken hphase hsucceed
    refine ⟨forall_mem_append.mpr ⟨hdata,fun d hnew => ?_⟩,hown⟩
    obtain ⟨p,hp,hownp,rfl,_⟩ := hready d hnew
    exact hown p hp hownp
  cases uids with
  | nil =>
    have hsame : c.note [] = c := by
      rw [Core.note,append_nil]
    rw [hsame]
    exact h.anchored
  | cons uid rest =>
    obtain ⟨p,hp,hown,_,hdel,hstarted⟩ := hready uid mem_cons_self
    have hself {d : Nat} (hd : d ∈ uid :: rest) : d = p.uid := by
      obtain ⟨q,hq,hownq,rfl,_⟩ := hready d hd
      rw [h.fleet.unique p hp q hq hown hownq]
    have hpod {q : Pod} (hq : q ∈ c.fleet.pods) (hownq : c.fleet.Own q) (hdelq : q.deleting = false)
        (hstartedq : q.started = true) (hdata : ∀ d ∈ c.history, d ∈ carried c.lineage q) :
        Anchored (c.note (uid :: rest)) := by
      refine .pod hq hownq hdelq hstartedq (forall_mem_append.mpr ⟨hdata,fun d hnew => ?_⟩)
      rw [hself hnew,h.fleet.unique p hp q hq hown hownq]
      exact mem_cons_self
    by_cases hphase : c.phase = .pausing
    · cases hanchor : h.anchored with
      | @pod q hq hownq hdelq hstartedq hdata => exact hpod hq hownq hdelq hstartedq hdata
      | @snapshot snap hsnap hsucceed hkept hdata =>
        refine .snapshot hsnap hsucceed hkept (forall_mem_append.mpr ⟨hdata,fun d hnew => ?_⟩)
        rw [hself hnew]
        exact ((h.shot snap hsnap).taken hphase hsucceed).2 p hp hown
      | empty hnil =>
        exact hpod hp hown hdel hstarted fun d hold => by rw [hnil] at hold; cases hold
    · obtain ⟨q,hq,hownq,hdelq,hstartedq,hdata⟩ :=
        h.anchored_alive hphase ⟨p,hp,hown,hdel,hstarted⟩
      exact hpod hq hownq hdelq hstartedq hdata

theorem Custody.gone (h : Custody c) (hsnap : c.snapshot = some snap)
    (hdel : snap.deleting = true) : Custody { c with snapshot := none } := by
  refine ⟨h.fleet,nofun,nofun,h.anchored.reshoot fun found hfound _ hkept => ?_⟩
  cases hsnap.symm.trans hfound
  cases hdel.symm.trans hkept

variable {snap' : Snapshot}

theorem Custody.failSnapshot (h : Custody c) (hsnap : c.snapshot = some snap)
    (hactive : snap.phase ≠ .succeed) (hfailed : snap'.phase = .failed)
    (hdel : snap'.deleting = snap.deleting) : Custody { c with snapshot := some snap' } := by
  have hsucceed : snap'.phase ≠ .succeed := by
    rw [hfailed]
    decide
  refine ⟨h.fleet,fun found hfound => ?_,fun _ _ _ found hfound hdone => ?_,
    h.anchored.reshoot fun found hfound hdone _ => ?_⟩
  · cases hfound
    exact .blank hsucceed (by rw [hfailed]; decide) (absurd hfailed)
      fun hp => hdel.trans ((h.shot snap hsnap).kept hp)
  · cases hfound
    exact absurd hdone hsucceed
  · cases hsnap.symm.trans hfound
    exact absurd hdone hactive

variable {pod : Pod}

theorem FleetOk.names_of_source (h : FleetOk f) (hpod : pod ∈ f.pods) (hown : f.Own pod) :
    Named f ((f.template.getD pod.containers).map Container.name) := by
  refine ⟨fun hpool => ?_,fun hpool => ?_⟩
  · have howned := (Plain.own hpool).mp hown
    obtain ⟨t,ht⟩ := ne_none_iff_exists'.mp ((h.plain hpool).index pod hpod howned).2
    refine ⟨t,ht,fun x hx => ?_⟩
    rw [ht,getD_some]
    exact mem_map_of_mem hx
  · have hname := (Pooled.own hpool).mp hown
    refine ⟨ne_nil_of_mem hname,fun p hp hownp x hx => ?_⟩
    rw [(h.pooled hpool).template,getD_none,h.unique pod hpod p hp hown hownp]
    exact mem_map_of_mem hx

theorem Custody.commit (h : Custody c) (hsnap : c.snapshot = some snap)
    (hactive : snap.phase ≠ .succeed ∧ snap.phase ≠ .failed) (hpod : pod ∈ c.fleet.pods)
    (hown : c.fleet.Own pod) (hcommitting : snap'.phase = .committing)
    (hsource : snap'.source = some pod.uid)
    (hcontainers : snap'.containers = (c.fleet.template.getD pod.containers).map Container.name)
    (hdel : snap'.deleting = snap.deleting) : Custody { c with snapshot := some snap' } := by
  have hne {other : SnapshotPhase} (hother : other ≠ .committing) : snap'.phase ≠ other := fun h =>
    hother (h.symm.trans hcommitting)
  have hphase := (h.shot snap hsnap).active hactive.1 hactive.2
  refine ⟨h.fleet,fun found hfound => ?_,fun _ _ _ found hfound hsucceed => ?_,
    h.anchored.reshoot fun found hfound hsucceed _ => ?_⟩
  · cases hfound
    refine ⟨fun _ _ => hphase,fun hp => hdel.trans ((h.shot snap hsnap).kept hp),
      fun _ hp => absurd hp (hne (by decide)),fun _ uid huid => ?_,fun _ => ?_,
      fun _ hp => absurd hp (hne (by decide)),fun _ hp => absurd hp (hne (by decide))⟩
    · cases hsource.symm.trans huid
      refine ⟨h.fleet.fresh pod hpod,fun p hp hsame => ?_⟩
      rwa [h.fleet.uids p hp pod hpod hsame]
    · rw [hcontainers]
      exact h.fleet.names_of_source hpod hown
  · cases hfound
    exact absurd hsucceed (hne (by decide))
  · cases hsnap.symm.trans hfound
    exact absurd hsucceed hactive.1

theorem Custody.succeed (h : Custody c) (hsnap : c.snapshot = some snap)
    (hcommitting : snap.phase = .committing) (hpod : pod ∈ c.fleet.pods)
    (hsource : snap.source = some pod.uid) (hsucceed : snap'.phase = .succeed)
    (huid : snap'.uid = snap.uid) (hcontainers : snap'.containers = snap.containers)
    (hdel : snap'.deleting = snap.deleting) :
    Custody { c with
      snapshot := some snap'
      lineage := Function.update c.lineage snap.uid (carried c.lineage pod) } := by
  have hs := h.shot snap hsnap
  have hphase : c.phase = .pausing := hs.active (by rw [hcommitting]; decide)
    (by rw [hcommitting]; decide)
  have hown : c.fleet.Own pod := (hs.source hcommitting pod.uid hsource).2 pod hpod rfl
  have hline {d : Nat} (hd : d ∈ carried c.lineage pod) :
      d ∈ update c.lineage snap.uid (carried c.lineage pod) snap'.uid := by
    rwa [huid,update_self]
  have hdata : ∀ d ∈ c.history, d ∈ carried c.lineage pod := by
    intro d hd
    cases h.anchored with
    | @pod q hq hownq _ _ hcarried =>
      rw [h.fleet.unique pod hpod q hq hown hownq]
      exact hcarried d hd
    | snapshot hfound hdone _ _ =>
      cases hsnap.symm.trans hfound
      cases hcommitting.symm.trans hdone
    | empty hnil =>
      rw [hnil] at hd
      cases hd
  have hkept : snap'.deleting = false := hdel.trans (hs.kept hphase)
  refine ⟨h.fleet,fun found hfound => ?_,absurd hphase,?_⟩
  · cases hfound
    refine ⟨absurd hsucceed,fun _ => hkept,fun _ _ => hphase,fun hp => ?_,
      fun _ => ?_,fun _ _ => ⟨fun d hd => ?_,fun p hp hownp => ?_⟩,absurd hphase⟩
    · cases hsucceed.symm.trans hp
    · rw [hcontainers]
      exact hs.named (.inl hcommitting)
    · exact hline (hdata d hd)
    · refine hline ?_
      rw [h.fleet.unique p hp pod hpod hownp hown]
      exact mem_cons_self
  · exact .snapshot rfl hsucceed hkept fun d hd => hline (hdata d hd)

def Core.bump (c : Core) : Core :=
  { c with fleet := { c.fleet with nextUid := c.fleet.nextUid + 1 } }

theorem FleetOk.bump (h : FleetOk f) : FleetOk { f with nextUid := f.nextUid + 1 } := by
  refine ⟨h.single,h.uids,fun p hp => Nat.lt_succ_of_lt (h.fresh p hp),h.sane,h.unique,
    fun hpool => ?_,fun hpool => ?_⟩
  · have hp := h.pooled hpool
    exact { hp with }
  · have hp := h.plain hpool
    exact ⟨hp.index,hp.template⟩

theorem Custody.beginSnapshot (h : Custody c) (hnone : c.snapshot = none)
    (hphase : c.phase = .pausing) (hunset : snap.phase = .unset) (hdel : snap.deleting = false) :
    Custody { c.bump with snapshot := some snap } := by
  refine ⟨h.fleet.bump,fun found hfound => ?_,absurd hphase,
    h.anchored.transfer rfl rfl (fun _ hp hown => ⟨hp,hown⟩) fun found hfound => ?_⟩
  · cases hfound
    exact .blank (by rw [hunset]; decide) (by rw [hunset]; decide) (fun _ => hphase) fun _ => hdel
  · cases hnone.symm.trans hfound

def Core.detach (c : Core) (t : List Container) : Core :=
  { c with fleet := { c.fleet with poolRef := "", template := some t } }

variable {t : List Container}

theorem Custody.detach {c : Core} (h : Custody c) {snap : Snapshot} (hsnap : c.snapshot = some snap)
    (hsucceed : snap.phase = .succeed) (hphase : c.phase = .pausing) (hpool : c.fleet.poolRef ≠ "")
    (ht : t ≠ []) (hnames : ∀ x ∈ t, x.name ∈ snap.containers) : Custody (c.detach t) := by
  have hp := h.fleet.pooled hpool
  have hs := h.shot snap hsnap
  have hnone : ∀ p ∈ (c.detach t).fleet.pods, ¬ (c.detach t).fleet.Own p := by
    intro p hmem hown
    have howned : p.owned = true := (@Plain.own (c.detach t).fleet rfl p).mp hown
    cases (hp.unowned p hmem).symm.trans howned
  refine ⟨⟨h.fleet.single,h.fleet.uids,h.fleet.fresh,h.fleet.sane,?_,absurd rfl,
    fun _ => ⟨fun p hmem howned => ?_,fun heq => ht (some.inj heq)⟩⟩,
    fun found hfound => ?_,absurd hphase,?_⟩
  · exact fun p hmem _ _ hown _ => absurd hown (hnone p hmem)
  · cases (hp.unowned p hmem).symm.trans howned
  · cases hsnap.symm.trans hfound
    refine ⟨hs.active,hs.kept,absurd rfl,fun hc => ?_,fun _ => ⟨fun _ => ⟨t,rfl,hnames⟩,absurd rfl⟩,
      fun _ _ => ⟨(hs.taken hphase hsucceed).1,fun p hmem hown => absurd hown (hnone p hmem)⟩,
      (absurd hphase)⟩
    cases hsucceed.symm.trans hc
  · exact .snapshot hsnap hsucceed (hs.kept hphase) (hs.taken hphase hsucceed).1

theorem Custody.deletePods (h : Custody c) (hsnap : c.snapshot = some snap)
    (hsucceed : snap.phase = .succeed) (hphase : c.phase = .pausing)
    (hpool : c.fleet.poolRef = "") (hg : Preserves g) (hfrom : From g c.fleet.pods new) :
    Custody (c.withPods new) := by
  have hs := h.shot snap hsnap
  exact ⟨h.fleet.withPods hg hfrom (absurd hpool),
    fun found hfound => (h.shot found hfound).withPods hg hfrom,absurd hphase,
    .snapshot hsnap hsucceed (hs.kept hphase) (hs.taken hphase hsucceed).1⟩

def Core.append (c : Core) (q : Pod) : Core :=
  { c with
    fleet := { c.fleet with pods := c.fleet.pods ++ [q], nextUid := c.fleet.nextUid + 1 } }

variable {q : Pod}

theorem Core.mem_append : p ∈ (c.append q).fleet.pods ↔ p ∈ c.fleet.pods ∨ p = q := by
  rw [Core.append,List.mem_append,List.mem_singleton]

theorem Core.forall_append {P : Pod → Prop} (hold : ∀ p ∈ c.fleet.pods, P p) (hnew : P q) :
    ∀ p ∈ (c.append q).fleet.pods, P p := by
  intro p hp
  rcases mem_append.mp hp with hin | rfl
  · exact hold p hin
  · exact hnew

theorem Core.append_inj {α : Type} {key : Pod → α}
    (hold : ∀ p ∈ c.fleet.pods, ∀ p' ∈ c.fleet.pods, key p = key p' → p = p')
    (hnew : ∀ p ∈ c.fleet.pods, key p ≠ key q) :
    ∀ p ∈ (c.append q).fleet.pods, ∀ p' ∈ (c.append q).fleet.pods, key p = key p' → p = p' := by
  intro p hp p' hp' heq
  rcases mem_append.mp hp with hin | rfl <;> rcases mem_append.mp hp' with hin' | rfl
  · exact hold p hin p' hin' heq
  · exact absurd heq (hnew p hin)
  · exact absurd heq.symm (hnew p' hin')
  · rfl

structure Joins (c : Core) (q : Pod) : Prop where
  uid : q.uid = c.fleet.nextUid
  sane : (q.running = true → q.started = true) ∧ q.containers ≠ []
  pooled : c.fleet.poolRef ≠ "" → q.owned = false ∧ ∀ p ∈ c.fleet.pods, p.name ≠ q.name
  plain : c.fleet.poolRef = "" → q.owned = true → q.index = 0 ∧ c.fleet.template ≠ none
  alone : c.fleet.Own q → ∀ p ∈ c.fleet.pods, ¬ c.fleet.Own p
  steady : c.fleet.Own q → c.fleet.poolRef = "" ∧ c.phase ≠ .pausing
  restored : c.fleet.Own q → ∀ snap, c.snapshot = some snap → snap.phase = .succeed →
    snap.deleting = false → restoredFrom q.containers = some snap.uid

theorem FleetOk.append (h : FleetOk c.fleet) (hq : Joins c q) : FleetOk (c.append q).fleet := by
  have hfresh (p : Pod) (hp : p ∈ c.fleet.pods) : p.uid ≠ q.uid := by
    rw [hq.uid]
    exact Nat.ne_of_lt (h.fresh p hp)
  refine ⟨h.single,Core.append_inj h.uids hfresh,Core.forall_append ?_ ?_,
    Core.forall_append h.sane hq.sane,Core.forall_append ?_ ?_,fun hpool => ?_,fun hpool => ?_⟩
  · exact fun p hp => Nat.lt_succ_of_lt (h.fresh p hp)
  · rw [hq.uid]
    exact Nat.lt_succ_self _
  · intro p hin
    refine Core.forall_append (h.unique p hin) fun hown hown' => ?_
    exact absurd hown (hq.alone hown' p hin)
  · refine Core.forall_append (fun p' hin' hown hown' => ?_) fun _ _ => rfl
    exact absurd hown' (hq.alone hown p' hin')
  · have hold := h.pooled hpool
    obtain ⟨howned,hname⟩ := hq.pooled hpool
    refine ⟨hold.template,Core.forall_append hold.unowned howned,hold.alloc,
      fun name hmem => ?_,Core.append_inj hold.names hname⟩
    obtain ⟨p,hp,hsame⟩ := hold.present name hmem
    exact ⟨p,mem_append_left _ hp,hsame⟩
  · have hold := h.plain hpool
    exact ⟨Core.forall_append hold.index (hq.plain hpool),hold.template⟩

theorem Shot.append (h : Shot c snap) (hsnap : c.snapshot = some snap) (hq : Joins c q) :
    Shot (c.append q) snap := by
  refine ⟨h.active,h.kept,h.attached,fun hphase uid hsource => ?_,fun hphase => ?_,
    fun hphase hsucceed => ?_,fun hphase hsucceed hdel => ?_⟩
  · obtain ⟨hlt,hown⟩ := h.source hphase uid hsource
    refine ⟨Nat.lt_succ_of_lt hlt,Core.forall_append hown fun huid => ?_⟩
    exact absurd (hq.uid.symm.trans huid) (Nat.ne_of_gt hlt)
  · obtain ⟨hplain,hpooled⟩ := h.named hphase
    refine ⟨hplain,fun hpool => ⟨(hpooled hpool).1,?_⟩⟩
    exact Core.forall_append (hpooled hpool).2 fun hown => absurd (hq.steady hown).1 hpool
  · obtain ⟨hdata,hown⟩ := h.taken hphase hsucceed
    exact ⟨hdata,Core.forall_append hown fun hownq => absurd hphase (hq.steady hownq).2⟩
  · refine Core.forall_append (h.restored hphase hsucceed hdel) fun hown _ => ?_
    exact hq.restored hown snap hsnap hsucceed hdel

theorem Custody.append (h : Custody c) (hq : Joins c q) : Custody (c.append q) := by
  refine ⟨h.fleet.append hq,fun snap hsnap => (h.shot snap hsnap).append hsnap hq,h.template,?_⟩
  exact h.anchored.transfer rfl rfl (fun _ hp hown => ⟨mem_append_left _ hp,hown⟩)
    fun _ hsnap _ _ => hsnap

def Core.allocate (c : Core) (name : String) : Core :=
  { c with fleet := { c.fleet with alloc := c.fleet.alloc ++ [name] } }

theorem Custody.allocate (h : Custody c) (hpool : c.fleet.poolRef ≠ "")
    (hempty : c.fleet.alloc = []) {name : String} (hq : q ∈ c.fleet.pods) (hname : q.name = name)
    (hdel : q.deleting = false) : Custody (c.allocate name) := by
  have hp := h.fleet.pooled hpool
  have halloc : (c.allocate name).fleet.alloc = [name] := by
    change c.fleet.alloc ++ [name] = [name]
    rw [hempty,nil_append]
  have hpool' : (c.allocate name).fleet.poolRef ≠ "" := hpool
  have hnone (p : Pod) : ¬ c.fleet.Own p := by
    rw [Pooled.own hpool,hempty]
    exact not_mem_nil
  have hown {p : Pod} (hownp : (c.allocate name).fleet.Own p) : p.name = name := by
    rw [Pooled.own hpool',halloc] at hownp
    exact mem_singleton.mp hownp
  refine ⟨⟨h.fleet.single,h.fleet.uids,h.fleet.fresh,h.fleet.sane,?_,fun _ => ?_,
    fun hplain => absurd hplain hpool⟩,fun snap hsnap => ?_,h.template,?_⟩
  · intro p hmem p' hmem' hownp hownp'
    exact hp.names p hmem p' hmem' ((hown hownp).trans (hown hownp').symm)
  · refine ⟨hp.template,hp.unowned,?_,fun other hother => ?_,hp.names⟩
    · rw [halloc]
      exact le_rfl
    · rw [halloc] at hother
      rw [mem_singleton.mp hother]
      exact ⟨q,hq,hname,hdel⟩
  · have hs := h.shot snap hsnap
    have hidle : ¬ (snap.phase = .committing ∨ snap.phase = .succeed) := fun hphase =>
      ((hs.named hphase).2 hpool).1 hempty
    rw [not_or] at hidle
    exact ⟨hs.active,hs.kept,hs.attached,fun hphase => absurd hphase hidle.1,
      fun hphase => absurd hphase (not_or.mpr hidle),fun _ hphase => absurd hphase hidle.2,
      fun _ hphase => absurd hphase hidle.2⟩
  · exact h.anchored.transfer rfl rfl (fun p _ hownp => absurd hownp (hnone p))
      fun _ hsnap _ _ => hsnap

def Core.restore (c : Core) (uid : Nat) (names : List String) : Core :=
  { c with
    fleet := { c.fleet with
      template := c.fleet.template.map (replaceImages uid names)
      poolRef := "" } }

theorem replaceImages_names {x : Container} (hx : x ∈ replaceImages uid names t) :
    ∃ y ∈ t, y.name = x.name := by
  obtain ⟨y,hy,rfl⟩ := mem_map.mp hx
  refine ⟨y,hy,?_⟩
  split <;> rfl

theorem restoredFrom_replaceImages (ht : t ≠ []) (hnames : ∀ x ∈ t, x.name ∈ names) :
    restoredFrom (replaceImages uid names t) = some uid := by
  have himage (x : Container) (hx : x ∈ replaceImages uid names t) : x.image = .snapshot uid := by
    obtain ⟨y,hy,rfl⟩ := mem_map.mp hx
    rw [if_pos (hnames y hy)]
  cases hreplaced : replaceImages uid names t with
  | nil =>
    rw [replaceImages,map_eq_nil_iff] at hreplaced
    exact absurd hreplaced ht
  | cons x rest =>
    rw [hreplaced] at himage
    rw [restoredFrom,himage x mem_cons_self]
    refine if_pos (all_eq_true.mpr fun y hy => ?_)
    exact decide_eq_true (himage y (mem_cons_of_mem x hy))

theorem Custody.restore (h : Custody c) (hpool : c.fleet.poolRef = "")
    (hphase : c.phase = .resuming) (uid : Nat) (names : List String) :
    Custody (c.restore uid names) := by
  have hplain := h.fleet.plain hpool
  have hsame {p : Pod} : (c.restore uid names).fleet.Own p ↔ c.fleet.Own p := by
    rw [Plain.own hpool]
    exact @Plain.own (c.restore uid names).fleet rfl p
  refine ⟨⟨h.fleet.single,h.fleet.uids,h.fleet.fresh,h.fleet.sane,?_,absurd rfl,
    fun _ => ⟨fun p hp howned => ?_,fun heq => ?_⟩⟩,fun snap hsnap => ?_,
    fun _ _ hne => absurd hphase hne,?_⟩
  · exact fun p hp q hq hown hown' => h.fleet.unique p hp q hq (hsame.mp hown) (hsame.mp hown')
  · obtain ⟨hindex,hsome⟩ := hplain.index p hp howned
    exact ⟨hindex,fun hnone => hsome (map_eq_none_iff.mp hnone)⟩
  · obtain ⟨t,ht,hnil⟩ := map_eq_some_iff.mp heq
    rw [replaceImages,map_eq_nil_iff] at hnil
    exact hplain.template (hnil ▸ ht)
  · have hs := h.shot snap hsnap
    have hsteady : c.phase ≠ .pausing := by
      rw [hphase]
      decide
    refine ⟨hs.active,hs.kept,absurd rfl,fun hc uid' hsource => ?_,fun hnamed => ⟨fun _ => ?_,
      absurd rfl⟩,fun hp => absurd hp hsteady,fun _ hsucceed hdel p hp hown hlive => ?_⟩
    · obtain ⟨hlt,hownp⟩ := hs.source hc uid' hsource
      exact ⟨hlt,fun p hp huid => hsame.mpr (hownp p hp huid)⟩
    · obtain ⟨t,ht,hmem⟩ := (hs.named hnamed).1 hpool
      refine ⟨replaceImages uid names t,?_,fun x hx => ?_⟩
      · change c.fleet.template.map (replaceImages uid names) = _
        rw [ht]
        rfl
      · obtain ⟨y,hy,hname⟩ := replaceImages_names hx
        exact hname ▸ hmem y hy
    · exact hs.restored hsteady hsucceed hdel p hp (hsame.mp hown) hlive
  · exact h.anchored.transfer rfl rfl (fun _ hp hown => ⟨hp,hsame.mpr hown⟩)
      fun _ hsnap _ _ => hsnap

theorem Custody.restores (h : Custody c) (hpool : c.fleet.poolRef = "")
    (hsame : ∀ snap, c.snapshot = some snap → snap.phase = .succeed → snap.deleting = false →
      snap.uid = uid ∧ snap.containers = names) : (c.restore uid names).Restores := by
  intro snap hsnap hsucceed hdel
  obtain ⟨rfl,rfl⟩ := hsame snap hsnap hsucceed hdel
  obtain ⟨t,ht,hmem⟩ := ((h.shot snap hsnap).named (.inr hsucceed)).1 hpool
  refine ⟨replaceImages snap.uid snap.containers t,?_,restoredFrom_replaceImages ?_ hmem⟩
  · change c.fleet.template.map (replaceImages snap.uid snap.containers) = _
    rw [ht]
    rfl
  · rintro rfl
    exact (h.fleet.plain hpool).template ht

end OpenSandbox.Kubernetes.BatchSandbox
