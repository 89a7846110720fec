import OpenSandbox.Library.Runs
import OpenSandbox.NodeAgent.OssSink.Steps

namespace OpenSandbox.NodeAgent.OssSink

open Fallible Prog SegmentLog List Option

structure Process where
  world : World
  running : Bool
  failed : Option Batch
  batches : List (Batch × Bool)

inductive Action where
  | consume (plan : Site → Fate) (batch : Batch)
  | restart

def Process.Retries (p : Process) (batch : Batch) : Prop :=
  p.running = true ∧ ∀ last, p.failed = some last → last = batch

def Process.noted (p : Process) (batch : Batch) (returned : Bool) : List (Batch × Bool) :=
  (if p.failed.isSome then p.batches.dropLast else p.batches) ++ [(batch, returned)]

inductive Process.Next (env : Env) : Process → Action → Process → Prop
  | consumed {p plan batch w} : p.Retries batch → consume env plan batch p.world = .ok () w →
      Process.Next env p (.consume plan batch) ⟨w,true,none,p.noted batch true⟩
  | failed {p plan batch e w} : p.Retries batch → consume env plan batch p.world = .error e w →
      Process.Next env p (.consume plan batch) ⟨w,true,some batch,p.noted batch false⟩
  | crashed {p plan batch w} : p.Retries batch → consume env plan batch p.world = .crash w →
      Process.Next env p (.consume plan batch) ⟨w,false,none,p.noted batch false⟩
  | restarted (p) : Process.Next env p .restart ⟨p.world.restart,true,none,p.batches⟩

structure Process.Fresh (p : Process) : Prop where
  running : p.running = true
  failed : p.failed = none
  unused : p.batches = []
  unsaved : p.world.persisted = none
  uncached : p.world.cached = none
  unwritten : ∀ key, p.world.objects.lookup key = none
  unappended : p.world.appended = []

def Process.Reachable (env : Env) (p : Process) : Prop :=
  Runs.Reach (Process.Next env) (fun _ _ => True) Process.Fresh p

def encoded (env : Env) (batch : Batch) : List UInt8 := encodeBatch env.time.formatNano batch

inductive Delivered (env : Env) : List (Batch × Bool) → List (List UInt8) → Prop
  | none : Delivered env [] []
  | next {batches : List (Batch × Bool)} {log : List (List UInt8)} (batch : Batch)
      (returned : Bool) (copies : Nat) : Delivered env batches log →
      (returned = true → batch.items ≠ [] → 1 ≤ copies) →
      Delivered env (batches ++ [(batch, returned)])
        (log ++ List.replicate copies (encoded env batch))

structure Attempts (env : Env) (p : Process) (batch : Batch) (batches : List (Batch × Bool))
    (log : List (List UInt8)) (copies : Nat) : Prop where
  before : Delivered env batches log
  data : p.world.appended.map (·.2) = log ++ List.replicate copies (encoded env batch)
  landed : Landed p.world → 1 ≤ copies

structure Process.Ok (env : Env) (p : Process) : Prop where
  disk : DiskInv env False p.world
  inv : p.running = true → Inv env False p.world
  settled : p.failed = none → Delivered env p.batches (p.world.appended.map (·.2)) ∧
    (p.running = true → ¬ Landed p.world)
  pending : ∀ batch, p.failed = some batch → batch.items ≠ [] ∧
    ∃ batches log copies, p.batches = batches ++ [(batch, false)] ∧
      Attempts env p batch batches log copies

section Runs

variable {env : Env} {p q : Process} {batch : Batch} {plan : Site → Fate} {w : World}

theorem Process.Ok.attempts (h : p.Ok env) (hretries : p.Retries batch) :
    ∃ batches log copies, (∀ returned, p.noted batch returned = batches ++ [(batch, returned)]) ∧
      Attempts env p batch batches log copies := by
  cases hfailed : p.failed with
  | none =>
    obtain ⟨hdelivered,hsettled⟩ := h.settled hfailed
    refine ⟨p.batches,_,0,?_,hdelivered,(append_nil _).symm,?_⟩
    · intro returned
      rw [Process.noted,hfailed]
      rfl
    · exact fun hlanded => absurd hlanded (hsettled hretries.1)
  | some last =>
    obtain rfl := hretries.2 last hfailed
    obtain ⟨-,batches,log,copies,hbatches,hattempts⟩ := h.pending last hfailed
    refine ⟨batches,log,copies,?_,hattempts⟩
    intro returned
    rw [Process.noted,hfailed,hbatches,isSome_some,if_pos rfl,dropLast_concat]

theorem Attempts.grown {batches : List (Batch × Bool)} {log : List (List UInt8)} {copies : Nat}
    (h : Attempts env p batch batches log copies) {generation : Nat}
    (hgrown : w.appended = p.world.appended ++ [(generation, encoded env batch)]) :
    w.appended.map (·.2) = log ++ List.replicate (copies + 1) (encoded env batch) := by
  rw [hgrown,map_append,h.data,append_assoc,replicate_succ']
  rfl

section

variable (h : p.Ok env) (hretries : p.Retries batch)

include h hretries

theorem Process.Ok.consumed (hresult : consume env plan batch p.world = .ok () w) :
    Process.Ok env ⟨w,true,none,p.noted batch true⟩ := by
  obtain ⟨batches,log,copies,hnoted,hattempts⟩ := h.attempts hretries
  have hsat := sends_consume False.elim (h.inv hretries.1) plan batch False.elim
  rw [hresult] at hsat
  rcases hsat with ⟨hitems,rfl⟩ | ⟨-,hacked⟩
  · have hfailed : p.failed = none := by
      obtain hnone | ⟨last,hlast⟩ := eq_none_or_eq_some p.failed
      · exact hnone
      · obtain rfl := hretries.2 last hlast
        exact absurd hitems (h.pending last hlast).1
    refine ⟨h.disk,fun _ => h.inv hretries.1,fun _ => ⟨?_,?_⟩,nofun⟩
    · rw [hnoted,hattempts.data]
      exact hattempts.before.next batch true copies fun _ hne => absurd hitems hne
    · exact fun _ => (h.settled hfailed).2 hretries.1
  · refine ⟨hacked.inv.disk,fun _ => hacked.inv,fun _ => ⟨?_,fun _ => hacked.settled⟩,nofun⟩
    rw [hnoted]
    rcases hacked.present with ⟨hsame,hlanded⟩ | ⟨generation,hgrown⟩
    · rw [hsame,hattempts.data]
      exact hattempts.before.next batch true copies fun _ _ => hattempts.landed hlanded
    · rw [hattempts.grown hgrown]
      exact hattempts.before.next batch true _ fun _ _ => Nat.le_add_left 1 copies

theorem Process.Ok.failed {e : SinkError} (hresult : consume env plan batch p.world = .error e w) :
    Process.Ok env ⟨w,true,some batch,p.noted batch false⟩ := by
  obtain ⟨batches,log,copies,hnoted,hattempts⟩ := h.attempts hretries
  have hsat := sends_consume False.elim (h.inv hretries.1) plan batch False.elim
  rw [hresult] at hsat
  have hitems : batch.items ≠ [] := by
    intro hitems
    rw [consume,hitems] at hresult
    cases hresult
  refine ⟨hsat.inv.disk,fun _ => hsat.inv,nofun,?_⟩
  rintro _ ⟨⟩
  refine ⟨hitems,batches,log,?_⟩
  rcases hsat.grown with ⟨hsame,hlanded⟩ | ⟨generation,hgrown⟩
  · refine ⟨copies,hnoted false,hattempts.before,?_,?_⟩
    · exact (congrArg _ hsame).trans hattempts.data
    · exact fun hw => hattempts.landed (hlanded hw)
  · exact ⟨copies + 1,hnoted false,hattempts.before,hattempts.grown hgrown,
      fun _ => Nat.le_add_left 1 copies⟩

theorem Process.Ok.crashed (hresult : consume env plan batch p.world = .crash w) :
    Process.Ok env ⟨w,false,none,p.noted batch false⟩ := by
  obtain ⟨batches,log,copies,hnoted,hattempts⟩ := h.attempts hretries
  have hsat := sends_consume False.elim (h.inv hretries.1) plan batch False.elim
  rw [hresult] at hsat
  refine ⟨hsat.disk,nofun,fun _ => ⟨?_,nofun⟩,nofun⟩
  rw [hnoted]
  rcases hsat.grown with hsame | ⟨generation,hgrown⟩
  · rw [hsame,hattempts.data]
    exact hattempts.before.next batch false copies nofun
  · rw [hattempts.grown hgrown]
    exact hattempts.before.next batch false _ nofun

end

theorem DiskInv.restart {strict : Prop} (h : DiskInv env strict w) : Inv env strict w.restart := by
  refine ⟨{ h with },?_⟩
  intro c r hcached
  cases hcached

theorem Process.Ok.restarted (h : p.Ok env) :
    Process.Ok env ⟨p.world.restart,true,none,p.batches⟩ := by
  have hinv := h.disk.restart
  refine ⟨hinv.disk,fun _ => hinv,fun _ => ⟨?_,fun _ => not_landed_deleteCachedStream _⟩,nofun⟩
  cases hfailed : p.failed with
  | none => exact (h.settled hfailed).1
  | some batch =>
    obtain ⟨-,batches,log,copies,hbatches,hattempts⟩ := h.pending batch hfailed
    change Delivered env p.batches (p.world.appended.map (·.2))
    rw [hbatches,hattempts.data]
    exact hattempts.before.next batch false copies nofun

theorem Process.Next.ok {a : Action} (h : p.Ok env) (hnext : Process.Next env p a q) :
    q.Ok env := by
  cases hnext with
  | consumed hretries hresult => exact h.consumed hretries hresult
  | failed hretries hresult => exact h.failed hretries hresult
  | crashed hretries hresult => exact h.crashed hretries hresult
  | restarted => exact h.restarted

theorem Process.Fresh.ok (h : p.Fresh) : p.Ok env := by
  have hdisk : DiskInv env False p.world := by
    refine ⟨fun _ => ⟨h.unwritten,h.unappended⟩,?_,?_,False.elim⟩
    · intro s hs
      cases h.unsaved.symm.trans hs
    · rw [h.unappended]
      exact .nil
  refine ⟨hdisk,fun _ => ⟨hdisk,?_⟩,fun _ => ⟨?_,?_⟩,?_⟩
  · intro c r hc
    cases h.uncached.symm.trans hc
  · rw [h.unused,h.unappended]
    exact .none
  · rintro - ⟨c,r,hc,-⟩
    cases h.uncached.symm.trans hc
  · intro batch hbatch
    cases h.failed.symm.trans hbatch

theorem Process.Reachable.ok (h : p.Reachable env) : p.Ok env :=
  h.invariant (fun _ hfresh => hfresh.ok) fun _ _ _ hp _ hnext => hnext.ok hp

end Runs

def objectLength (w : World) (s : SinkStream) : Int := (bytesAt w.objects s.objectKey).length

structure Holds (env : Env) (p : Process) (log : List (Nat × List UInt8)) : Prop where
  ordered : log.Pairwise fun a b => a.1 ≤ b.1
  delivered : Delivered env p.batches (log.map (·.2))
  unsaved : p.world.persisted = none → log = [] ∧ ∀ key, p.world.objects.lookup key = none
  generations : ∀ s, p.world.persisted = some s → ∀ entry ∈ log, entry.1 ≤ s.generation
  objects : ∀ s, p.world.persisted = some s → ∀ generation ≤ s.generation,
    ∃ key, keyAt s generation = some key ∧ bytesAt p.world.objects key = content log generation
  others : ∀ s, p.world.persisted = some s → ∀ key o, p.world.objects.lookup key = some o →
    ∃ generation, keyAt s generation = some key

theorem append_positions_aligned {env : Env} {p : Process} (h : p.Reachable env) :
    (∀ s, p.world.persisted = some s →
      (s.appendIntent = none → s.position = objectLength p.world s) ∧
      ∀ i, s.appendIntent = some i → objectLength p.world s = s.position ∨
        objectLength p.world s = s.position + i.length) ∧
    ∃ log, Holds env p log := by
  have hok := h.ok
  have hdelivered : Delivered env p.batches (p.world.appended.map (·.2)) := by
    cases hfailed : p.failed with
    | none => exact (hok.settled hfailed).1
    | some batch =>
      obtain ⟨-,batches,log,copies,hbatches,hattempts⟩ := hok.pending batch hfailed
      rw [hbatches,hattempts.data]
      exact hattempts.before.next batch false copies nofun
  refine ⟨?_,p.world.appended,hok.disk.sorted,hdelivered,?_,?_,?_,?_⟩
  · intro s hs
    have hstream := hok.disk.stream s hs
    rw [objectLength,hstream.bytes_eq]
    refine ⟨hstream.settled_position,?_⟩
    intro i hi
    rcases hstream.extent with hposition | ⟨j,hj,harrived⟩
    · exact .inl hposition.symm
    · cases hi.symm.trans hj
      exact .inr harrived.symm
  · intro hnone
    obtain ⟨hobjects,hlog⟩ := hok.disk.fresh hnone
    exact ⟨hlog,hobjects⟩
  · exact fun s hs => (hok.disk.stream s hs).latest
  · intro s hs generation hle
    have hstream := hok.disk.stream s hs
    obtain ⟨key,hkey⟩ : ∃ key, keyAt s generation = some key := by
      unfold keyAt
      split_ifs with hcurrent
      · exact ⟨_,rfl⟩
      have hlt : generation < s.closedObjects.length := by
        rw [hstream.count]
        split_ifs <;> omega
      exact ⟨_,by rw [getElem?_eq_getElem hlt,map_some]⟩
    exact ⟨key,hkey,hstream.held generation key hkey⟩
  · exact fun s hs => (hok.disk.stream s hs).known

def sampleEnv : Env where
  cfg := ⟨"logs","c","writer","target",1000⟩
  streamRef := "ref"
  time := ⟨fun _ => "t",fun _ => "t",fun _ => some ⟨1000000000,true⟩⟩
  sha256 := fun _ => "0000000000000000000000000000000000000000000000000000000000000000"
  crc64 := fun _ => "1"

def sampleResource : Resource := ⟨"s","c","n","p","u","node","log","/var/log"⟩

def sampleBatch : Batch where
  streamRef := "ref"
  items := [⟨⟨⟨0,true⟩,[104,105],sampleResource,∅⟩,"1"⟩]

def emptyBucket : World := ⟨none,none,∅,∅,[],[]⟩

def noFailure : Site → Fate := fun _ => .done

def lostResponse : Site → Fate
  | .append => .failed 1
  | .headRecover => .failed 0
  | _ => .done

def lostAppend : World := (consume sampleEnv lostResponse sampleBatch emptyBucket).state

def replayed : World := (consume sampleEnv noFailure sampleBatch lostAppend).state

theorem append_positions_aligned_replayed : (lostAppend.objects.entries.map (·.2.bytes.length),
      replayed.objects.entries.map (·.2.bytes.length)) = ([6], [12]) ∧
    (∀ s, replayed.persisted = some s → s.appendIntent = none →
      s.position = objectLength replayed s) ∧
    ∃ log, Holds sampleEnv ⟨replayed,true,none,[(sampleBatch, true)]⟩ log := by
  have hruns : (consume sampleEnv lostResponse sampleBatch emptyBucket).rejected = true ∧
      (consume sampleEnv noFailure sampleBatch lostAppend).succeeded = true ∧
      (lostAppend.objects.entries.map (·.2.bytes.length),
        replayed.objects.entries.map (·.2.bytes.length)) = ([6], [12]) := by decide +kernel
  obtain ⟨e,hlost⟩ := Result.eq_error hruns.1
  have hfresh : Process.Reachable sampleEnv ⟨emptyBucket,true,none,[]⟩ :=
    .start ⟨rfl,rfl,rfl,rfl,rfl,fun _ => rfl,rfl⟩
  have hfirst : Process.Reachable sampleEnv
      ⟨lostAppend,true,some sampleBatch,[(sampleBatch, false)]⟩ :=
    hfresh.step trivial (.failed ⟨rfl,nofun⟩ hlost)
  have hsecond : Process.Reachable sampleEnv ⟨replayed,true,none,[(sampleBatch, true)]⟩ := by
    refine hfirst.step trivial (.consumed ⟨rfl,?_⟩ (Result.eq_ok hruns.2.1))
    rintro _ ⟨⟩
    rfl
  obtain ⟨haligned,hholds⟩ := append_positions_aligned hsecond
  exact ⟨hruns.2.2,fun s hs => (haligned s hs).1,hholds⟩

end OpenSandbox.NodeAgent.OssSink
