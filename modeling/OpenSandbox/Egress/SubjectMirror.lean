import OpenSandbox.Library.Runs
import OpenSandbox.Egress.Controller

namespace OpenSandbox.Lifecycle

open Slots Registry Policy List KeyedLog

def Owned (S : Snapshot) (s : Subject) : Prop :=
  ∃ id slot, S.at? id = some slot ∧ slot.phase = .bound ∧ slotSubject slot = s

def Announces (prev cur : Snapshot) (s : Subject) : Prop :=
  ∃ id slot, cur.at? id = some slot ∧ slot.phase = .bound ∧ slotSubject slot = s ∧
    ∀ old, prev.at? id = some old → old.phase = .bound ∧ old ≠ slot

def Releases (prev cur : Snapshot) (s : Subject) : Prop :=
  ∃ id old, prev.at? id = some old ∧ old.phase = .bound ∧
    (cur.at? id = none ∧ slotSubject old = s ∨
      ∃ slot, cur.at? id = some slot ∧ slot.phase ≠ .bound ∧ slotSubject slot = s)

variable {prev cur : Snapshot}

theorem Announces.owned {s : Subject} (h : Announces prev cur s) : Owned cur s := by
  obtain ⟨id,slot,hc,hb,hs,-⟩ := h
  exact ⟨id,slot,hc,hb,hs⟩

structure Tracks (prev cur : Snapshot) : Prop where
  kept : ∀ s, Owned cur s → ¬ Releases prev cur s
  gained : ∀ s, Owned cur s → Owned prev s ∨ Announces prev cur s
  lost : ∀ s, Owned prev s → Owned cur s ∨ Releases prev cur s

def curSubjectWrites (prev cur : Snapshot) (id : String) : List (Subject × Option Unit) :=
  ((cur.at? id).elim [] (curEvents (prev.at? id))).filterMap subjectWrite

def prevSubjectWrites (prev cur : Snapshot) (id : String) : List (Subject × Option Unit) :=
  ((prev.at? id).elim [] fun old => prevEvents old (cur.at? id)).filterMap subjectWrite

def subjectWrites (prev cur : Snapshot) (curOrder prevOrder : List String) :
    List (Subject × Option Unit) :=
  (emitDiffs prev cur curOrder prevOrder).filterMap subjectWrite

theorem subjectWrites_eq (prev cur : Snapshot) (curOrder prevOrder : List String) :
    subjectWrites prev cur curOrder prevOrder = curOrder.flatMap (curSubjectWrites prev cur) ++
        prevOrder.flatMap (prevSubjectWrites prev cur) := by
  simp only [subjectWrites,emitDiffs,filterMap_append,filterMap_flatMap]
  rfl

theorem mem_curSubjectWrites {id : String} {w : Subject × Option Unit} :
    w ∈ curSubjectWrites prev cur id ↔ ∃ slot, cur.at? id = some slot ∧ slotSubject slot = w.1 ∧
      (slot.phase = .bound ∧ w.2 = some () ∧
          (∀ old, prev.at? id = some old → old.phase = .bound ∧ old ≠ slot) ∨
        slot.phase ≠ .bound ∧ w.2 = none ∧ ∃ old, prev.at? id = some old ∧ old.phase = .bound) := by
  obtain ⟨s,x⟩ := w
  cases hc : cur.at? id with
  | none => simp [curSubjectWrites,hc]
  | some slot =>
    have hid := Snapshot.id_of_at? hc
    cases hp : prev.at? id with
    | none =>
      by_cases hb : slot.phase = .bound <;>
        simp [curSubjectWrites,hc,hp,curEvents,hb,subjectWrite,@eq_comm _ s]
    | some old =>
      have heq := slotEqual_iff ((Snapshot.id_of_at? hp).trans hid.symm)
      by_cases ho : old.phase = .bound
      · by_cases hb : slot.phase = .bound
        · by_cases he : old = slot <;> simp [curSubjectWrites,hc,hp,curEvents,ho,hb,
            ← Bool.not_eq_true,heq,he,slotEqual_iff (a := slot) rfl,subjectWrite,@eq_comm _ s]
        · simp [curSubjectWrites,hc,hp,curEvents,ho,hb,subjectWrite,@eq_comm _ s]
      · simp [curSubjectWrites,hc,hp,curEvents,ho]

theorem mem_prevSubjectWrites {id : String} {w : Subject × Option Unit} :
    w ∈ prevSubjectWrites prev cur id ↔ ∃ old, prev.at? id = some old ∧ old.phase = .bound ∧
      cur.at? id = none ∧ slotSubject old = w.1 ∧ w.2 = none := by
  obtain ⟨s,x⟩ := w
  cases hp : prev.at? id with
  | none => simp [prevSubjectWrites,hp]
  | some old =>
    cases hc : cur.at? id with
    | none =>
      by_cases ho : old.phase = .bound <;>
        simp [prevSubjectWrites,hp,hc,prevEvents,ho,subjectWrite,@eq_comm _ s]
    | some slot => simp [prevSubjectWrites,hp,hc,prevEvents]

section Polls

variable {H : Type} {wait : WaitHelper (Registry.State × Controller H)}
  {hooks : Option (LifecycleHooks H)}
variable {prev cur : Snapshot} {curOrder prevOrder : List String}

variable {s : Subject}

theorem announces_of_write {x : Unit}
    (h : (s, some x) ∈ subjectWrites prev cur curOrder prevOrder) : Announces prev cur s := by
  rw [subjectWrites_eq,mem_append,mem_flatMap,mem_flatMap] at h
  rcases h with ⟨id,-,h⟩ | ⟨id,-,h⟩
  · obtain ⟨slot,hc,hs,⟨hb,-,hold⟩ | ⟨-,hx,-⟩⟩ := mem_curSubjectWrites.mp h
    · exact ⟨id,slot,hc,hb,hs,hold⟩
    · cases hx
  · obtain ⟨-,-,-,-,-,hx⟩ := mem_prevSubjectWrites.mp h
    cases hx

theorem releases_of_write (h : (s, none) ∈ subjectWrites prev cur curOrder prevOrder) :
    Releases prev cur s := by
  rw [subjectWrites_eq,mem_append,mem_flatMap,mem_flatMap] at h
  rcases h with ⟨id,-,h⟩ | ⟨id,-,h⟩
  · obtain ⟨slot,hc,hs,⟨-,hx,-⟩ | ⟨hb,-,old,hp,ho⟩⟩ := mem_curSubjectWrites.mp h
    · cases hx
    · exact ⟨id,old,hp,ho,.inr ⟨slot,hc,hb,hs⟩⟩
  · obtain ⟨old,hp,ho,hc,hs,-⟩ := mem_prevSubjectWrites.mp h
    exact ⟨id,old,hp,ho,.inl ⟨hc,hs⟩⟩

theorem write_of_announces (hc : cur.Order curOrder) (h : Announces prev cur s) :
    (s, some ()) ∈ subjectWrites prev cur curOrder prevOrder := by
  obtain ⟨id,slot,hcur,hb,hs,hold⟩ := h
  rw [subjectWrites_eq,mem_append,mem_flatMap]
  refine .inl ⟨id,(hc.2 id).mpr (by simp [hcur]),?_⟩
  exact mem_curSubjectWrites.mpr ⟨slot,hcur,hs,.inl ⟨hb,rfl,hold⟩⟩

theorem write_of_releases (hc : cur.Order curOrder) (hp : prev.Order prevOrder)
    (h : Releases prev cur s) : (s, none) ∈ subjectWrites prev cur curOrder prevOrder := by
  obtain ⟨id,old,hprev,ho,⟨hcur,hs⟩ | ⟨slot,hcur,hb,hs⟩⟩ := h
  · rw [subjectWrites_eq,mem_append,mem_flatMap,mem_flatMap]
    refine .inr ⟨id,(hp.2 id).mpr (by simp [hprev]),?_⟩
    exact mem_prevSubjectWrites.mpr ⟨old,hprev,ho,hcur,hs,rfl⟩
  · rw [subjectWrites_eq,mem_append,mem_flatMap]
    refine .inl ⟨id,(hc.2 id).mpr (by simp [hcur]),?_⟩
    exact mem_curSubjectWrites.mpr ⟨slot,hcur,hs,.inr ⟨hb,rfl,old,hprev,ho⟩⟩

theorem writes_some (h : ¬ Releases prev cur s) :
    ∀ w ∈ subjectWrites prev cur curOrder prevOrder, w.1 = s → w.2 = some () := by
  rintro ⟨t,x⟩ hw rfl
  cases x with
  | none => exact absurd (releases_of_write hw) h
  | some => rfl

theorem writes_none (h : ¬ Owned cur s) :
    ∀ w ∈ subjectWrites prev cur curOrder prevOrder, w.1 = s → w.2 = none := by
  rintro ⟨t,x⟩ hw rfl
  cases x with
  | none => rfl
  | some => exact absurd (announces_of_write hw).owned h

theorem replay_owned (hc : cur.Order curOrder) (hr : ¬ Releases prev cur s)
    (v : Subject → Option Unit) :
    (KeyedLog.replay v (subjectWrites prev cur curOrder prevOrder) s).isSome ↔
      (v s).isSome ∨ Announces prev cur s := by
  have hsome : ∀ w ∈ subjectWrites prev cur curOrder prevOrder, w.1 = s → w.2 = some () :=
    writes_some hr
  rcases replay_uniform hsome v with ⟨⟨⟨t,x⟩,hw,rfl⟩,hx⟩ | ⟨hn,hx⟩
  · obtain rfl : x = some () := hsome _ hw rfl
    simp [hx,announces_of_write hw]
  · have ha : ¬ Announces prev cur s := fun ha => hn _ (write_of_announces hc ha) rfl
    simp [hx,ha]

theorem replay_unowned (hc : cur.Order curOrder) (hp : prev.Order prevOrder) (hu : ¬ Owned cur s)
    (v : Subject → Option Unit) :
    (KeyedLog.replay v (subjectWrites prev cur curOrder prevOrder) s).isSome ↔
      (v s).isSome ∧ ¬ Releases prev cur s := by
  have hnone : ∀ w ∈ subjectWrites prev cur curOrder prevOrder, w.1 = s → w.2 = none :=
    writes_none hu
  rcases replay_uniform hnone v with ⟨⟨⟨t,x⟩,hw,rfl⟩,hx⟩ | ⟨hn,hx⟩
  · obtain rfl : x = none := hnone _ hw rfl
    simp [hx,releases_of_write hw]
  · have hr : ¬ Releases prev cur s := fun hr => hn _ (write_of_releases hc hp hr) rfl
    simp [hx,hr]

theorem exists_order_released (h : Releases prev cur s) :
    ∃ curOrder prevOrder, cur.Order curOrder ∧ prev.Order prevOrder ∧
      ∀ v, KeyedLog.replay v (subjectWrites prev cur curOrder prevOrder) s = none := by
  obtain ⟨prevOrder,hp⟩ := prev.exists_order
  have hprev : ∀ w ∈ prevOrder.flatMap (prevSubjectWrites prev cur), w.1 = s → w.2 = none := by
    rintro w hw -
    obtain ⟨id,-,hw⟩ := mem_flatMap.mp hw
    obtain ⟨_,_,_,_,_,hx⟩ := mem_prevSubjectWrites.mp hw
    exact hx
  obtain ⟨id,old,hold,ho,⟨hcur,hs⟩ | ⟨slot,hcur,hb,hs⟩⟩ := h
  · obtain ⟨curOrder,hc⟩ := cur.exists_order
    refine ⟨curOrder,prevOrder,hc,hp,fun v => ?_⟩
    rw [subjectWrites_eq]
    refine replay_last hprev ⟨(s, none),?_,rfl⟩ v
    refine mem_flatMap.mpr ⟨id,(hp.2 id).mpr (by simp [hold]),?_⟩
    exact mem_prevSubjectWrites.mpr ⟨old,hold,ho,hcur,hs,rfl⟩
  have hsome : (cur.at? id).isSome := by simp [hcur]
  obtain ⟨ids,hc⟩ := Snapshot.exists_order_last hsome
  refine ⟨ids ++ [id],prevOrder,hc,hp,fun v => ?_⟩
  rw [subjectWrites_eq,flatMap_append,append_assoc]
  refine replay_last ?_ ⟨(s, none),?_,rfl⟩ v
  · rintro w hw hws
    rcases mem_append.mp hw with hw | hw
    · rw [flatMap_singleton] at hw
      obtain ⟨slot',hcur',-,⟨hb',-⟩ | ⟨-,hx,-⟩⟩ := mem_curSubjectWrites.mp hw
      · rw [hcur] at hcur'
        exact absurd (Option.some.inj hcur' ▸ hb') hb
      · exact hx
    · exact hprev w hw hws
  · rw [flatMap_singleton]
    refine mem_append_left _ (mem_curSubjectWrites.mpr ⟨slot,hcur,hs,?_⟩)
    exact .inr ⟨hb,rfl,old,hold,ho⟩

structure Follower (H : Type) where
  seen : Snapshot
  ctl : Controller H

def Polls (wait : WaitHelper (Registry.State × Controller H)) (hooks : Option (LifecycleHooks H))
    (f : Follower H) (cur : Snapshot) (f' : Follower H) : Prop :=
  ∃ curOrder prevOrder, cur.Order curOrder ∧ f.seen.Order prevOrder ∧ f'.seen = cur ∧
    consume wait hooks f.ctl (emitDiffs f.seen cur curOrder prevOrder) = (.ok (), f'.ctl)

def Mirrors (f : Follower H) : Prop :=
  ∀ s, (f.ctl.reg.bySubject s).isSome ↔ Owned f.seen s

variable {f : Follower H}

theorem polls_registered (hr : ∀ k ∈ hooks, k.Reliable) {f' : Follower H}
    (h : Polls wait hooks f cur f') :
    ∃ curOrder prevOrder, cur.Order curOrder ∧ f.seen.Order prevOrder ∧ f'.seen = cur ∧
      registered f'.ctl.reg =
        KeyedLog.replay (registered f.ctl.reg) (subjectWrites f.seen cur curOrder prevOrder) := by
  obtain ⟨curOrder,prevOrder,hc,hp,hseen,hcons⟩ := h
  obtain ⟨c',hok,hreg⟩ := consume_reliable wait hr f.ctl (emitDiffs f.seen cur curOrder prevOrder)
  rw [hcons] at hok
  cases hok
  exact ⟨curOrder,prevOrder,hc,hp,hseen,hreg⟩

variable (wait) in
theorem exists_polls (hr : ∀ k ∈ hooks, k.Reliable) (f : Follower H) (hc : cur.Order curOrder)
    (hp : f.seen.Order prevOrder) :
    ∃ f', Polls wait hooks f cur f' ∧ f'.seen = cur ∧ registered f'.ctl.reg =
      KeyedLog.replay (registered f.ctl.reg) (subjectWrites f.seen cur curOrder prevOrder) := by
  obtain ⟨c',hok,hreg⟩ := consume_reliable wait hr f.ctl (emitDiffs f.seen cur curOrder prevOrder)
  exact ⟨⟨cur,c'⟩,⟨curOrder,prevOrder,hc,hp,rfl,hok⟩,rfl,hreg⟩

theorem Mirrors.registered_iff (h : Mirrors f) (s : Subject) :
    (registered f.ctl.reg s).isSome ↔ Owned f.seen s := by
  rw [registered_isSome]
  exact h s

theorem mirrors_poll (hr : ∀ k ∈ hooks, k.Reliable) {f' : Follower H} (hm : Mirrors f)
    (ht : Tracks f.seen cur) (h : Polls wait hooks f cur f') : Mirrors f' := by
  obtain ⟨curOrder,prevOrder,hc,hp,rfl,hreg⟩ := polls_registered hr h
  intro s
  rw [← registered_isSome,hreg]
  by_cases ho : Owned f'.seen s
  · rw [replay_owned hc (ht.kept s ho),hm.registered_iff]
    exact iff_of_true (ht.gained s ho) ho
  rw [replay_unowned hc hp ho,hm.registered_iff]
  refine iff_of_false ?_ ho
  rintro ⟨hprev,hrel⟩
  exact (ht.lost s hprev).elim ho hrel

theorem tracks_of_mirrors (hr : ∀ k ∈ hooks, k.Reliable) (hm : Mirrors f)
    (h : ∀ f', Polls wait hooks f cur f' → Mirrors f') : Tracks f.seen cur := by
  have hkept (s : Subject) (ho : Owned cur s) : ¬ Releases f.seen cur s := by
    intro hrel
    obtain ⟨curOrder,prevOrder,hc,hp,hnone⟩ := exists_order_released hrel
    obtain ⟨f',hpoll,rfl,hreg⟩ := exists_polls wait hr f hc hp
    have hs := ((h f' hpoll).registered_iff s).mpr ho
    rw [hreg,hnone] at hs
    cases hs
  obtain ⟨curOrder,hc⟩ := cur.exists_order
  obtain ⟨prevOrder,hp⟩ := f.seen.exists_order
  obtain ⟨f',hpoll,rfl,hreg⟩ := exists_polls wait hr f hc hp
  refine ⟨hkept,fun s ho => ?_,fun s ho => ?_⟩
  · have hs := ((h f' hpoll).registered_iff s).mpr ho
    rwa [hreg,replay_owned hc (hkept s ho),hm.registered_iff] at hs
  by_contra hno
  obtain ⟨hcur,hrel⟩ := not_or.mp hno
  refine hcur (((h f' hpoll).registered_iff s).mp ?_)
  rw [hreg,replay_unowned hc hp hcur,hm.registered_iff]
  exact ⟨ho,hrel⟩

end Polls

theorem not_owned_empty (s : Subject) : ¬ Owned .empty s := by
  rintro ⟨id,slot,h,-⟩
  cases h

theorem always_mirrors_iff {H : Type} {wait : WaitHelper (Registry.State × Controller H)}
    {hooks : Option (LifecycleHooks H)}
    (hr : ∀ k ∈ hooks, k.Reliable) {f : Follower H} (hm : Mirrors f) (snaps : List Snapshot) :
    Runs.Always (Polls wait hooks) Mirrors f snaps ↔ List.IsChain Tracks (f.seen :: snaps) := by
  induction snaps generalizing f with
  | nil => simp [Runs.Always,hm]
  | cons cur rest ih =>
    rw [isChain_cons_cons]
    constructor
    · rintro ⟨-,hall⟩
      have ht : Tracks f.seen cur := tracks_of_mirrors hr hm fun f' hf' => (hall f' hf').head
      obtain ⟨curOrder,hc⟩ := cur.exists_order
      obtain ⟨prevOrder,hp⟩ := f.seen.exists_order
      obtain ⟨f',hpoll,rfl,-⟩ := exists_polls wait hr f hc hp
      exact ⟨ht,(ih (mirrors_poll hr hm ht hpoll)).mp (hall f' hpoll)⟩
    · rintro ⟨ht,hrest⟩
      refine ⟨hm,fun f' hpoll => (ih (mirrors_poll hr hm ht hpoll)).mpr ?_⟩
      obtain ⟨_,_,_,_,rfl,_⟩ := hpoll
      exact hrest

def start {H : Type} (alwaysDeny alwaysAllow : List EgressRule) (w : H) : Follower H :=
  ⟨.empty,newRegistry alwaysDeny alwaysAllow,w⟩

theorem mirrors_start {H : Type} (deny allow : List EgressRule) (w : H) :
    Mirrors (start deny allow w) := by
  intro s
  refine iff_of_false ?_ (not_owned_empty s)
  simp [start,newRegistry]

theorem subjects_mirror_iff {H : Type} (wait : WaitHelper (Registry.State × Controller H))
    (hooks : Option (LifecycleHooks H))
    (hr : ∀ k ∈ hooks, k.Reliable) (deny allow : List EgressRule) (w : H)
    (snaps : List Snapshot) :
    Runs.Always (Polls wait hooks) Mirrors (start deny allow w) snaps ↔
      List.IsChain Tracks (.empty :: snaps) :=
  always_mirrors_iff hr (mirrors_start deny allow w) snaps

theorem tracks_of_bound {prev cur : Snapshot}
    (hbound : ∀ id slot, cur.at? id = some slot → slot.phase = .bound)
    (hsame : ∀ id old slot, prev.at? id = some old → cur.at? id = some slot → old = slot)
    (hgone : ∀ id old, prev.at? id = some old → cur.at? id = none →
      ¬ Owned cur (slotSubject old)) : Tracks prev cur := by
  refine ⟨?_,?_,?_⟩
  · rintro s ho ⟨id,old,hold,-,⟨hnone,rfl⟩ | ⟨slot,hslot,hno,-⟩⟩
    · exact hgone id old hold hnone ho
    · exact hno (hbound id slot hslot)
  · rintro s ⟨id,slot,hc,hb,hs⟩
    cases hp : prev.at? id with
    | none => exact .inr ⟨id,slot,hc,hb,hs,fun old hold => by simp [hp] at hold⟩
    | some old => exact .inl ⟨id,slot,hsame id old slot hp hc ▸ hp,hb,hs⟩
  · rintro s ⟨id,old,hold,hb,hs⟩
    cases hc : cur.at? id with
    | none => exact .inr ⟨id,old,hold,hb,.inl ⟨hc,hs⟩⟩
    | some slot => exact .inl ⟨id,slot,hc,hbound id slot hc,hsame id old slot hold hc ▸ hs⟩

def quietHooks : LifecycleHooks Unit :=
  ⟨fun _ _ _ => (.ok (), ()),fun _ _ _ => ([], ()),fun _ _ _ => (.ok (), ()),
    fun _ _ _ => (.ok (), ())⟩

theorem quietHooks_reliable : quietHooks.Reliable :=
  ⟨fun _ _ _ => rfl,fun _ _ _ => rfl,fun _ _ _ => rfl⟩

def demoSlot (id uid : String) (ip : BitVec 32) : Slot :=
  leasedSlot id .bound ⟨uid,1,1⟩ ip ("veth-" ++ id)

theorem subjects_mirror_three_polls :
    let a := demoSlot "a" "u" 0x0A000005
    let b := demoSlot "b" "v" 0x0A000006
    Runs.Always (Polls .perStep (some quietHooks)) Mirrors (start [] [] ())
      [snapshot [a],snapshot [a,b],snapshot [b]] := by
  refine (subjects_mirror_iff .perStep (some quietHooks) ?_ [] [] () _).mpr ?_
  · rintro k ⟨⟩
    exact quietHooks_reliable
  refine .cons_cons (tracks_of_bound ?_ ?_ ?_) (.cons_cons (tracks_of_bound ?_ ?_ ?_)
    (.cons_cons (tracks_of_bound ?_ ?_ ?_) (.singleton _)))
  all_goals simp [snapshot,Snapshot.at?_insert,Owned,demoSlot,leasedSlot]
  all_goals intro id
  all_goals by_cases hb : id = "b" <;> by_cases ha : id = "a" <;>
    simp_all [slotSubject,fromSandboxUID]

theorem subject_lost_on_slot_move :
    ¬ ∀ (wait : WaitHelper (Registry.State × Controller Unit))
      (hooks : Option (LifecycleHooks Unit)), (∀ k ∈ hooks, k.Reliable) → ∀ deny allow snaps,
        Runs.Always (Polls wait hooks) Mirrors (start deny allow ()) snaps := by
  intro hall
  have hr : ∀ k ∈ some quietHooks, k.Reliable := by
    rintro k ⟨⟩
    exact quietHooks_reliable
  have hrun := hall .perStep (some quietHooks) hr [] []
    [snapshot [demoSlot "a" "u" 0x0A000005],snapshot [demoSlot "b" "u" 0x0A000006]]
  have hchain := (always_mirrors_iff hr (mirrors_start [] [] ()) _).mp hrun
  have ht := isChain_pair.mp (isChain_cons_cons.mp hchain).2
  refine ht.kept (fromSandboxUID "u") ⟨"b",demoSlot "b" "u" 0x0A000006,?_,rfl,rfl⟩
    ⟨"a",demoSlot "a" "u" 0x0A000005,?_,rfl,.inl ⟨?_,rfl⟩⟩
  all_goals simp [snapshot,Snapshot.at?_insert,demoSlot,leasedSlot]

end OpenSandbox.Lifecycle
