import OpenSandbox.Library.KeyedLog
import OpenSandbox.Egress.Slots

namespace OpenSandbox.Slots

open List Option KeyedLog Snapshot

abbrev View := String → Option Slot

def Event.write : Event → Option (String × Option Slot)
  | .bound slot | .updated slot => some (slot.id, some slot)
  | .deleted slot => some (slot.id, none)
  | .error _ => none

def replay (view : View) (evs : List Event) : View :=
  KeyedLog.replay view (evs.filterMap Event.write)

theorem replay_append (view : View) (evs evs' : List Event) :
    replay view (evs ++ evs') = replay (replay view evs) evs' := by
  simp [replay,KeyedLog.replay_append]

inductive Emits : Snapshot → List Snapshot → List Event → Prop
  | nil (prev) : Emits prev [] []
  | cons {prev cur : Snapshot} {rest : List Snapshot} {curOrder prevOrder : List String}
      {evs : List Event} : cur.Order curOrder → prev.Order prevOrder → Emits cur rest evs →
      Emits prev (cur :: rest) (emitDiffs prev cur curOrder prevOrder ++ evs)

def onlyBound : Option Slot → Option Slot
  | none => none
  | some slot => if slot.phase = .bound then some slot else none

def diffAt (old new : Option Slot) (seen : Option Slot) : Option Slot :=
  match old, new with
  | none, none => seen
  | none, some s => if s.phase = .bound then some s else seen
  | some o, none => if o.phase = .bound then none else seen
  | some o, some s =>
      if o.phase = .bound ∧ s.phase ≠ .bound then none
      else if o.phase = .bound ∧ o ≠ s then some s
      else seen

variable (prev cur : Snapshot) (id : String)

def curWrites : List (String × Option Slot) :=
  ((cur.at? id).elim [] (curEvents (prev.at? id))).filterMap Event.write

def prevWrites : List (String × Option Slot) :=
  ((prev.at? id).elim [] fun old => prevEvents old (cur.at? id)).filterMap Event.write

theorem curWrites_key : ∀ w ∈ curWrites prev cur id, w.1 = id := by
  intro w hw
  unfold curWrites at hw
  cases hc : cur.at? id with
  | none => simp [hc] at hw
  | some slot =>
    have hid := id_of_at? hc
    rw [hc] at hw
    simp only [elim_some,curEvents] at hw
    split at hw <;> split at hw <;> try split at hw
    all_goals simp_all [Event.write]

theorem prevWrites_key : ∀ w ∈ prevWrites prev cur id, w.1 = id := by
  intro w hw
  unfold prevWrites at hw
  cases hp : prev.at? id with
  | none => simp [hp] at hw
  | some old =>
    have hid := id_of_at? hp
    rw [hp] at hw
    simp only [elim_some,prevEvents] at hw
    split at hw
    · simp_all [Event.write]
    · simp at hw

theorem replay_curWrites (view : View) : KeyedLog.replay view (curWrites prev cur id) id =
      if (cur.at? id).isSome then diffAt (prev.at? id) (cur.at? id) (view id) else view id := by
  cases hc : cur.at? id with
  | none => simp [curWrites,hc]
  | some slot =>
    have hid := id_of_at? hc
    cases hp : prev.at? id with
    | none =>
      by_cases hb : slot.phase = .bound
      · simp [curWrites,hc,hp,curEvents,diffAt,hb,Event.write,write,hid]
      · simp [curWrites,hc,hp,curEvents,diffAt,hb]
    | some old =>
      have heq := slotEqual_iff ((id_of_at? hp).trans hid.symm)
      by_cases ho : old.phase = .bound
      · by_cases hb : slot.phase = .bound
        · by_cases he : old = slot <;> simp [curWrites,hc,hp,curEvents,diffAt,ho,hb,
            ← Bool.not_eq_true,heq,he,slotEqual_iff (a := slot) rfl,Event.write,write,hid]
        · simp [curWrites,hc,hp,curEvents,diffAt,ho,hb,Event.write,write,hid]
      · simp [curWrites,hc,hp,curEvents,diffAt,ho]

theorem replay_prevWrites (view : View) : KeyedLog.replay view (prevWrites prev cur id) id =
      if (cur.at? id).isSome then view id else diffAt (prev.at? id) (cur.at? id) (view id) := by
  cases hp : prev.at? id with
  | none => cases hc : cur.at? id <;> simp [prevWrites,hp,diffAt]
  | some old =>
    have hid := id_of_at? hp
    cases hc : cur.at? id with
    | none =>
      by_cases ho : old.phase = .bound
      · simp [prevWrites,hp,hc,prevEvents,diffAt,ho,Event.write,write,hid]
      · simp [prevWrites,hp,hc,prevEvents,diffAt,ho]
    | some slot => simp [prevWrites,hp,hc,prevEvents]

theorem replay_emitDiffs {prev cur : Snapshot} {curOrder prevOrder : List String}
    (hc : cur.Order curOrder) (hp : prev.Order prevOrder) (view : View) (id : String) :
    replay view (emitDiffs prev cur curOrder prevOrder) id =
      diffAt (prev.at? id) (cur.at? id) (view id) := by
  have hsplit : (emitDiffs prev cur curOrder prevOrder).filterMap Event.write =
      curOrder.flatMap (curWrites prev cur) ++ prevOrder.flatMap (prevWrites prev cur) := by
    simp only [emitDiffs,filterMap_append,filterMap_flatMap]
    rfl
  rw [replay,hsplit,KeyedLog.replay_append,replay_flatMap (prevWrites_key prev cur) hp.1,
    replay_prevWrites,replay_flatMap (curWrites_key prev cur) hc.1,replay_curWrites]
  simp only [hc.2,hp.2]
  cases hcid : cur.at? id with
  | none => cases hpid : prev.at? id <;> simp [diffAt]
  | some slot => simp

def track (old seen : Option Slot) : List (Option Slot) → Option Slot
  | [] => seen
  | new :: hist => track new (diffAt old new seen) hist

theorem replay_track {prev : Snapshot} {snaps : List Snapshot} {evs : List Event}
    (h : Emits prev snaps evs) (view : View) (id : String) :
    replay view evs id = track (prev.at? id) (view id) (snaps.map (·.at? id)) := by
  induction h generalizing view with
  | nil prev => rfl
  | cons hc hp _ ih => rw [replay_append,ih,replay_emitDiffs hc hp]; rfl

def MissedAt (hist : List (Option Slot)) : Prop :=
  ∃ pre old slot post, hist = pre ++ some old :: some slot :: post ∧
    old.phase ≠ .bound ∧ slot.phase = .bound ∧ ∀ x ∈ post, x = some slot

theorem missedAt_singleton (x : Option Slot) : ¬ MissedAt [x] := by
  rintro ⟨pre,old,slot,post,h,-⟩
  have hl := congrArg length h
  simp at hl
  omega

theorem missedAt_cons (x y : Option Slot) (hist : List (Option Slot)) : MissedAt (x :: y :: hist) ↔
      (∃ old slot, x = some old ∧ y = some slot ∧ old.phase ≠ .bound ∧ slot.phase = .bound ∧
        ∀ z ∈ hist, z = some slot) ∨ MissedAt (y :: hist) := by
  constructor
  · rintro ⟨pre,old,slot,post,h,ho,hs,hp⟩
    cases pre with
    | nil =>
      simp only [nil_append,cons.injEq] at h
      obtain ⟨rfl,rfl,rfl⟩ := h
      exact .inl ⟨old,slot,rfl,rfl,ho,hs,hp⟩
    | cons a pre =>
      simp only [cons_append,cons.injEq] at h
      exact .inr ⟨pre,old,slot,post,h.2,ho,hs,hp⟩
  · rintro (⟨old,slot,rfl,rfl,ho,hs,hp⟩ | ⟨pre,old,slot,post,h,ho,hs,hp⟩)
    · exact ⟨[],old,slot,hist,rfl,ho,hs,hp⟩
    · exact ⟨x :: pre,old,slot,post,by rw [h]; rfl,ho,hs,hp⟩

theorem missedAt_skip {x y : Option Slot} {hist : List (Option Slot)}
    (h : ∀ old slot, x = some old → y = some slot → old.phase ≠ .bound → slot.phase ≠ .bound) :
    MissedAt (x :: y :: hist) ↔ MissedAt (y :: hist) := by
  rw [missedAt_cons]
  constructor
  · rintro (⟨old,slot,hx,hy,ho,hs,-⟩ | hm)
    · exact absurd hs (h old slot hx hy ho)
    · exact hm
  · exact .inr

def Caught (old seen : Option Slot) (hist : List (Option Slot)) : Prop :=
  track old seen hist = onlyBound (hist.getLast?.getD old)

theorem caught_cons (old seen new : Option Slot) (hist : List (Option Slot)) :
    Caught old seen (new :: hist) ↔ Caught new (diffAt old new seen) hist := by
  simp [Caught,track,getLast?_cons]

theorem diffAt_caught {old new : Option Slot}
    (h : ∀ o s, old = some o → new = some s → o.phase ≠ .bound → s.phase ≠ .bound) :
    diffAt old new (onlyBound old) = onlyBound new := by
  cases old with
  | none =>
    cases new with
    | none => rfl
    | some s => by_cases hs : s.phase = .bound <;> simp [diffAt,onlyBound,hs]
  | some o =>
    cases new with
    | none => by_cases ho : o.phase = .bound <;> simp [diffAt,onlyBound,ho]
    | some s =>
      by_cases ho : o.phase = .bound
      · by_cases hs : s.phase = .bound
        · by_cases he : o = s <;> simp [diffAt,onlyBound,ho,hs,he]
        · simp [diffAt,onlyBound,ho,hs]
      · have hs := h o s rfl rfl ho
        simp [diffAt,onlyBound,ho,hs]

theorem diffAt_lagging {o : Slot} (ho : o.phase = .bound) {new : Option Slot} (hn : new ≠ some o) :
    diffAt (some o) new none = onlyBound new := by
  cases new with
  | none => simp [diffAt,onlyBound]
  | some s =>
    have he : o ≠ s := fun he => hn (by rw [he])
    by_cases hs : s.phase = .bound <;> simp [diffAt,onlyBound,ho,hs,he]

theorem caught_iff (hist : List (Option Slot)) :
    (∀ old, Caught old (onlyBound old) hist ↔ ¬ MissedAt (old :: hist)) ∧
    (∀ o : Slot, o.phase = .bound → (Caught (some o) none hist ↔
      ¬ MissedAt (some o :: hist) ∧ ¬ ∀ x ∈ hist, x = some o)) := by
  induction hist with
  | nil =>
    refine ⟨fun old => ?_,fun o ho => ?_⟩
    · simp [Caught,track,missedAt_singleton]
    · simp [Caught,track,onlyBound,ho]
  | cons new hist ih =>
    obtain ⟨ihCaught,ihLagging⟩ := ih
    refine ⟨fun old => ?_,fun o ho => ?_⟩
    · rw [caught_cons]
      by_cases hm : ∃ o s, old = some o ∧ new = some s ∧ o.phase ≠ .bound ∧ s.phase = .bound
      · obtain ⟨o,s,rfl,rfl,ho,hs⟩ := hm
        have hd : diffAt (some o) (some s) (onlyBound (some o)) = none := by
          simp [diffAt,onlyBound,ho]
        rw [hd,ihLagging s hs,missedAt_cons]
        simp [ho,hs,and_comm]
      · have hskip : ∀ o s, old = some o → new = some s → o.phase ≠ .bound → s.phase ≠ .bound :=
          fun o s hold hnew ho hs => hm ⟨o,s,hold,hnew,ho,hs⟩
        rw [diffAt_caught hskip,ihCaught,missedAt_skip hskip]
    have hskip : ∀ o' s, some o = some o' → new = some s → o'.phase ≠ .bound →
        s.phase ≠ .bound := by
      rintro o' s h - ho' -
      exact ho' (some.inj h ▸ ho)
    rw [caught_cons,missedAt_skip hskip]
    by_cases hn : new = some o
    · subst hn
      have hd : diffAt (some o) (some o) none = none := by simp [diffAt]
      rw [hd,ihLagging o ho]
      simp
    · rw [diffAt_lagging ho hn,ihCaught]
      simp [hn]

def Missed (snaps : List Snapshot) : Prop :=
  ∃ id pre A B post old slot, snaps = pre ++ A :: B :: post ∧
    A.at? id = some old ∧ old.phase ≠ .bound ∧ B.at? id = some slot ∧ slot.phase = .bound ∧
    ∀ C ∈ post, C.at? id = some slot

theorem missed_iff (snaps : List Snapshot) :
    Missed snaps ↔ ∃ id, MissedAt (none :: snaps.map (·.at? id)) := by
  constructor
  · rintro ⟨id,pre,A,B,post,old,slot,rfl,hA,ho,hB,hs,hpost⟩
    refine ⟨id,none :: pre.map (·.at? id),old,slot,post.map (·.at? id),?_,ho,hs,?_⟩
    · simp [hA,hB]
    · simpa using hpost
  rintro ⟨id,pre,old,slot,post,h,ho,hs,hpost⟩
  cases pre with
  | nil => simp at h
  | cons x pre =>
    simp only [cons_append,cons.injEq] at h
    obtain ⟨-,h⟩ := h
    obtain ⟨pre',rest,rfl,-,hrest⟩ := map_eq_append_iff.mp h
    obtain ⟨A,rest',rfl,hA,hrest'⟩ := map_eq_cons_iff.mp hrest
    obtain ⟨B,post',rfl,hB,rfl⟩ := map_eq_cons_iff.mp hrest'
    exact ⟨id,pre',A,B,post',old,slot,rfl,hA,ho,hB,hs,by simpa using hpost⟩

def Faithful (snaps : List Snapshot) (evs : List Event) : Prop :=
  ∀ id, replay (fun _ => none) evs id = onlyBound ((snaps.getLast?.getD .empty).at? id)

theorem stream_faithful_iff {snaps : List Snapshot} {evs : List Event}
    (h : Emits .empty snaps evs) : Faithful snaps evs ↔ ¬ Missed snaps := by
  have hat (id : String) : replay (fun _ => none) evs id =
      onlyBound ((snaps.getLast?.getD .empty).at? id) ↔
        ¬ MissedAt (none :: snaps.map (·.at? id)) := by
    rw [replay_track h,← (caught_iff _).1 none,Caught,getLast?_map]
    cases snaps.getLast? <;> rfl
  rw [missed_iff,not_exists]
  exact forall_congr' hat

def demoSlot (phase : Phase) (ip : BitVec 32) : Slot :=
  leasedSlot "a" phase ⟨"u",1,1⟩ ip "veth-a"

theorem stream_faithful_moved :
    let snaps := [snapshot [demoSlot .bound 0x0A000005],snapshot [demoSlot .bound 0x0A000006],
      snapshot [demoSlot .clean 0x0A000006]]
    ∃ evs, Emits .empty snaps evs ∧ Faithful snaps evs := by
  have he := Emits.cons (order_single (demoSlot .bound 0x0A000005)) order_empty
    (.cons (order_single (demoSlot .bound 0x0A000006)) (order_single _)
      (.cons (order_single (demoSlot .clean 0x0A000006)) (order_single _) (.nil _)))
  refine ⟨_,he,(stream_faithful_iff he).mpr ?_⟩
  rintro ⟨id,pre,A,B,post,old,slot,h,hA,ho,-⟩
  have hbound {ip : BitVec 32} (hA : (snapshot [demoSlot .bound ip]).at? id = some old) : False := by
    rw [snapshot,foldl_cons,foldl_nil,at?_insert] at hA
    split_ifs at hA
    · cases hA
      exact ho rfl
    · cases hA
  match pre, h with
  | [], h =>
    cases h
    exact hbound hA
  | [_], h =>
    cases h
    exact hbound hA
  | _ :: _ :: pre, h =>
    have hlength := congrArg length h
    simp only [length_append,length_cons,length_nil] at hlength
    omega

theorem stream_misses_rebound_slot :
    ¬ ∀ snaps evs, Emits .empty snaps evs → Faithful snaps evs := by
  intro hall
  let idle := demoSlot .clean 0x0A000005
  let busy := demoSlot .bound 0x0A000005
  have he : Emits .empty [snapshot [idle],snapshot [busy]]
      (emitDiffs .empty (snapshot [idle]) ["a"] [] ++
        (emitDiffs (snapshot [idle]) (snapshot [busy]) ["a"] ["a"] ++ [])) :=
    .cons (order_single idle) order_empty
      (.cons (order_single busy) (order_single idle) (.nil _))
  have hf := hall _ _ he "a"
  rw [replay_track he] at hf
  simp [track,diffAt,onlyBound,snapshot,at?_insert,idle,busy,demoSlot,leasedSlot] at hf

end OpenSandbox.Slots
