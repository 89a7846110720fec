import OpenSandbox.Library.GoMap
import OpenSandbox.Library.Runs

namespace OpenSandbox.Ingress.Throttle

open List AList GoMap

def publishWorkers : Nat := 4

inductive Worker
  | idle
  | timed (sandboxID : String) (now : Int)
  | expired (sandboxID : String) (now prev : Int)

inductive Cleaner
  | idle
  | ranging (cutoff : Int)
  | deleting (cutoff : Int) (key : String) (value : Int)

structure State where
  clock : Int
  lastSent : GoMap Int
  workers : List Worker
  cleaner : Cleaner
  sent : List (String × Int)

inductive Event
  | tick (d : Nat)
  | now (i : Nat) (sandboxID : String)
  | loadOrStore (i : Nat)
  | store (i : Nat)
  | cleanup
  | visit (key : String)
  | delete
  | cleaned

def State.born (clock : Int) : State := ⟨clock,∅,replicate publishWorkers .idle,.idle,[]⟩

variable (minInterval : Int)

def State.send (s : State) (i : Nat) (sandboxID : String) (now : Int) : State :=
  { s with
    lastSent := AList.insert sandboxID now s.lastSent
    workers := s.workers.set i .idle
    sent := (sandboxID, now) :: s.sent }

def State.step (s : State) : Event → Option State
  | .tick d => some { s with clock := s.clock + d }
  | .now i sandboxID =>
    match s.workers[i]? with
    | some .idle =>
      if minInterval ≤ 0 then some { s with sent := (sandboxID, s.clock) :: s.sent }
      else some { s with workers := s.workers.set i (.timed sandboxID s.clock) }
    | _ => none
  | .loadOrStore i =>
    match s.workers[i]? with
    | some (.timed sandboxID now) =>
      match s.lastSent.lookup sandboxID with
      | none => some (s.send i sandboxID now)
      | some prev =>
        if now - prev < minInterval then some { s with workers := s.workers.set i .idle }
        else some { s with workers := s.workers.set i (.expired sandboxID now prev) }
    | _ => none
  | .store i =>
    match s.workers[i]? with
    | some (.expired sandboxID now _) => some (s.send i sandboxID now)
    | _ => none
  | .cleanup =>
    match s.cleaner with
    | .idle => some { s with cleaner := .ranging (s.clock - minInterval * 2) }
    | _ => none
  | .visit key =>
    match s.cleaner, s.lastSent.lookup key with
    | .ranging cutoff, some value =>
      if value < cutoff then some { s with cleaner := .deleting cutoff key value } else some s
    | _, _ => none
  | .delete =>
    match s.cleaner with
    | .deleting cutoff key _ =>
      some { s with lastSent := s.lastSent.erase key, cleaner := .ranging cutoff }
    | _ => none
  | .cleaned =>
    match s.cleaner with
    | .ranging _ => some { s with cleaner := .idle }
    | _ => none

def undisturbed (s : State) : Event → Bool
  | .loadOrStore i =>
    match s.workers[i]? with
    | some (.timed _ now) => s.clock - now ≤ minInterval
    | _ => true
  | .store i =>
    match s.workers[i]? with
    | some (.expired sandboxID _ prev) => s.lastSent.lookup sandboxID = some prev
    | _ => true
  | .delete =>
    match s.cleaner with
    | .deleting _ key value => s.lastSent.lookup key = some value
    | _ => true
  | _ => true

def Reachable (check : State → Event → Bool) : State → Prop :=
  Runs.Reach (fun s e t => s.step minInterval e = some t) (fun s e => check s e = true)
    fun s => ∃ clock, s = .born clock

def Worker.Sound : Worker → Prop
  | .expired _ now prev => prev + minInterval ≤ now
  | _ => True

def Cleaner.Sound (clock : Int) : Cleaner → Prop
  | .idle => True
  | .ranging cutoff => cutoff + minInterval * 2 ≤ clock
  | .deleting cutoff _ value => cutoff + minInterval * 2 ≤ clock ∧ value < cutoff

structure Throttled (s : State) : Prop where
  apart : s.sent.Pairwise fun a b => a.1 = b.1 → b.2 + minInterval ≤ a.2
  bounded : ∀ a ∈ s.sent, a.2 ≤ (s.lastSent.lookup a.1).getD (s.clock - minInterval * 2)
  workers : ∀ w ∈ s.workers, w.Sound minInterval
  cleaner : s.cleaner.Sound minInterval s.clock

variable {minInterval} {s t : State} {e : Event} {i : Nat} {w : Worker}

theorem Throttled.turn (h : Throttled minInterval s) (hw : w.Sound minInterval) :
    Throttled minInterval { s with workers := s.workers.set i w } := by
  refine ⟨h.apart,h.bounded,fun w' hmem => ?_,h.cleaner⟩
  rcases mem_or_eq_of_mem_set hmem with hold | rfl
  · exact h.workers w' hold
  · exact hw

theorem Throttled.send (hpos : 0 < minInterval) (h : Throttled minInterval s) {sandboxID : String}
    {now : Int} (hnow : ∀ a ∈ s.sent, sandboxID = a.1 → a.2 + minInterval ≤ now) :
    Throttled minInterval (s.send i sandboxID now) := by
  have hidle : Worker.Sound minInterval .idle := trivial
  refine ⟨pairwise_cons.mpr ⟨hnow,h.apart⟩,fun a ha => ?_,(h.turn hidle).workers,h.cleaner⟩
  rw [State.send,lookup_inserted]
  rcases mem_cons.mp ha with rfl | hold
  · rw [if_pos rfl]
    exact le_rfl
  · split_ifs with hid
    · have hle := hnow a hold hid.symm
      rw [Option.getD_some]
      omega
    · exact h.bounded a hold

theorem Throttled.step (hpos : 0 < minInterval) (h : Throttled minInterval s)
    (hok : undisturbed minInterval s e = true) (hstep : s.step minInterval e = some t) :
    Throttled minInterval t := by
  have hcleaner := h.cleaner
  revert hstep hok
  fun_cases State.step minInterval s e <;> intro hok hstep <;> cases hstep
  · rename_i d
    refine ⟨h.apart,fun a ha => ?_,h.workers,?_⟩
    · have hle := h.bounded a ha
      rcases hlast : s.lastSent.lookup a.1 with _ | prev <;> simp only [hlast] at hle ⊢
      · exact hle.trans (by simp)
      · exact hle
    · cases hc : s.cleaner with
      | idle => trivial
      | _ => simp only [hc,Cleaner.Sound] at hcleaner ⊢; omega
  · omega
  · exact h.turn trivial
  · rename_i sandboxID now hworker hnone
    rw [undisturbed,hworker] at hok
    refine h.send hpos fun a ha hid => ?_
    subst hid
    have hle := h.bounded a ha
    have hprompt := of_decide_eq_true hok
    rw [hnone,Option.getD_none] at hle
    omega
  · exact h.turn trivial
  · rename_i hold
    exact h.turn (le_sub_iff_add_le'.mp (not_lt.mp hold))
  · rename_i i sandboxID now prev hworker
    rw [undisturbed,hworker] at hok
    have hsound : prev + minInterval ≤ now := h.workers _ (mem_of_getElem? hworker)
    refine h.send hpos fun a ha hid => ?_
    subst hid
    have hle := h.bounded a ha
    rw [of_decide_eq_true hok,Option.getD_some] at hle
    omega
  · exact { h with cleaner := (sub_add_cancel _ _).le }
  · rename_i hranging hold
    rw [hranging] at hcleaner
    exact { h with cleaner := ⟨hcleaner,hold⟩ }
  · exact h
  · rename_i cutoff key value hdeleting
    rw [undisturbed,hdeleting] at hok
    rw [hdeleting] at hcleaner
    obtain ⟨hcutoff,hold⟩ := hcleaner
    refine ⟨h.apart,fun a ha => ?_,h.workers,hcutoff⟩
    have hle := h.bounded a ha
    rw [lookup_erased]
    split_ifs with hid
    · rw [hid,of_decide_eq_true hok,Option.getD_some] at hle
      change a.2 ≤ s.clock - minInterval * 2
      omega
    · exact hle
  · exact { h with cleaner := trivial }

theorem intents_apart (hpos : 0 < minInterval)
    (h : Reachable minInterval (undisturbed minInterval) s) :
    s.sent.Pairwise fun a b => a.1 = b.1 → minInterval ≤ |a.2 - b.2| := by
  have hinv : Throttled minInterval s := by
    refine h.invariant ?_ fun s e t hs hok hstep => hs.step hpos hok hstep
    rintro _ ⟨clock,rfl⟩
    refine ⟨.nil,nofun,fun w hw => ?_,trivial⟩
    rw [eq_of_mem_replicate hw]
    trivial
  refine hinv.apart.imp fun hapart hid => ?_
  exact (le_sub_iff_add_le'.mpr (hapart hid)).trans (le_abs_self _)

theorem intents_apart_twice : ∃ s, Reachable 10 (undisturbed 10) s ∧
    s.sent.map Prod.snd = [10,0] ∧ s.sent.Pairwise fun a b => a.1 = b.1 → 10 ≤ |a.2 - b.2| := by
  obtain ⟨s,hs,hsent⟩ : ∃ s, Reachable 10 (undisturbed 10) s ∧ s.sent.map Prod.snd = [10,0] :=
    @Runs.Reach.observed _ _ (.born 0) [.now 0 "a",.loadOrStore 0,.tick 10,.now 0 "a",
      .loadOrStore 0,.store 0] _ _ _ _ _ _ _ ⟨0,rfl⟩ (by decide)
  exact ⟨s,hs,hsent,intents_apart (by decide) hs⟩

theorem intents_sent_together : ∃ s, Reachable 10 (fun _ _ => true) s ∧
    s.sent = [("a", 10),("a", 10),("a", 0)] :=
  @Runs.Reach.observed _ _ (.born 0) [.now 0 "a",.loadOrStore 0,.tick 10,.now 0 "a",.now 1 "a",
    .loadOrStore 0,.loadOrStore 1,.store 0,.store 1] _ _ _ _ _ _ _ ⟨0,rfl⟩ (by decide)

end OpenSandbox.Ingress.Throttle
