import OpenSandbox.Library.Runs
import OpenSandbox.NodeAgent.FileSink.Open

namespace OpenSandbox.NodeAgent.FileSink

open Fallible Prog SegmentLog List Option

structure EnvSound (env : Env) : Prop where
  referenced : env.streamRef ≠ ""
  representable : env.cfg.maxFileBytes ≤ maxInt64
  digest : ∀ data, canonicalDigest (env.sha256 data) = true

section Consume

variable {env : Env} {strict : Prop} {plan : Site → Fate} {log : List (Nat × List UInt8)}
  {w : World}

theorem sat_consumeData (hroot : env.cfg.root ≠ "") (hsound : strict → EnvSound env)
    (h : Kept env strict log w) (r : Resource) {data : List UInt8} (hdata : 0 < data.length) :
    (consumeData env plan r data w).Sat
      (fun _ w' => ∃ generation, Kept env strict (log ++ [(generation, data)]) w')
      (fun _ w' => Kept env strict log w') (DiskOk env strict) := by
  unfold consumeData
  refine sat_guard h fun _ => ?_
  refine sat_guard h fun hlarge => ?_
  refine sat_bind (keeps_getWriter hroot (fun hstrict => (hsound hstrict).referenced) h r) ?_
  rintro _ w₁ ⟨h₁,-⟩
  refine sat_bind (keeps_resumeIntent h₁ _ _) ?_
  rintro _ w₂ ⟨wr₂,h₂⟩
  refine sat_bind (keeps_prepareGeneration hroot h₂ _) ?_
  rintro _ w₃ ⟨wr₃,h₃,hfile,hroom⟩
  refine sat_bind (keeps_recordIntent h₃ hfile ?_) ?_
  · intro hstrict
    have hlimit := (hsound hstrict).representable
    simp only [decide_eq_false_iff_not,not_lt] at hlarge
    refine ⟨by omega,?_,(hsound hstrict).digest data⟩
    rcases hroom with hzero | hroom
    · omega
    · omega
  rintro _ w₄ ⟨wr₄,h₄⟩
  refine sat_catchError ((sat_appendData h₄).mono ?_ ?_ fun _ => id)
  · intro _ w₅ h₅
    exact ⟨_,h₅⟩
  · intro e w₅ h₅
    exact keeps_recoverFailedAppend h₅ e

def Added (env : Env) (batch : Batch) (before after : List (Nat × List UInt8)) : Prop :=
  (batch.items = [] ∧ after = before) ∨
    (batch.items ≠ [] ∧
      ∃ generation, after = before ++ [(generation, encodeBatch env.time.formatNano batch)])

theorem sat_consume (hroot : env.cfg.root ≠ "") (hsound : strict → EnvSound env)
    (h : Kept env strict log w) (plan : Site → Fate) (batch : Batch) :
    (consume env plan batch w).Sat
      (fun _ w' => Inv env strict w' ∧ Added env batch log w'.committed)
      (fun _ w' => Kept env strict log w') (DiskOk env strict) := by
  unfold consume
  cases hitems : batch.items with
  | nil => exact sat_pure ⟨h.1,.inl ⟨hitems,h.2⟩⟩
  | cons first rest =>
    have hne : batch.items ≠ [] := by
      rw [hitems]
      exact cons_ne_nil first rest
    refine sat_guard h fun _ => ?_
    refine (sat_consumeData hroot hsound h _
      (encodeBatch_length_pos env.time.formatNano hne)).post ?_
    rintro _ w₁ ⟨generation,hinv,hcommitted⟩
    exact ⟨hinv,.inr ⟨hne,generation,hcommitted⟩⟩

theorem FileAt.restart {files : GoMap DiskFile} {key : String} {bytes : List UInt8} {allowed : Nat}
    (h : FileAt env files key bytes allowed) (tails : String → List UInt8) :
    FileAt env (files.mapValues fun path file => file.afterCrash (tails path)) key bytes
      allowed := by
  obtain ⟨f,hlookup,hok⟩ := h
  refine ⟨f.afterCrash (tails (objectPath env key)),?_,hok.afterCrash _⟩
  rw [GoMap.lookup_mapValues,hlookup]
  rfl

theorem StreamOk.restart {s : SinkStream} (hs : StreamOk env strict w.files log s)
    (tails : String → List UInt8) : StreamOk env strict (w.restart tails).files log s :=
  { hs with
    file := hs.file.restart tails
    closed := by
      intro i o ho
      obtain ⟨hgeneration,hsize,hcrc,hfile⟩ := hs.closed i o ho
      exact ⟨hgeneration,hsize,hcrc,hfile.restart tails⟩
    identity := by
      intro f hf
      rw [World.restart,GoMap.lookup_mapValues] at hf
      obtain ⟨f',hf',rfl⟩ := map_eq_some_iff.mp hf
      exact hs.identity f' hf' }

theorem DiskOk.restart (h : DiskOk env strict w) (tails : String → List UInt8) :
    Kept env strict w.committed (w.restart tails) := by
  refine .intro ⟨h.1.fresh,?_,?_⟩ ?_ rfl h.2
  · intro p hp
    rcases h.1.stream p hp with hbare | hs
    · exact .inl hbare
    · exact .inr (hs.restart tails)
  · intro path f _ hlookup
    rw [World.restart,GoMap.lookup_mapValues] at hlookup
    obtain ⟨f',-,rfl⟩ := map_eq_some_iff.mp hlookup
    exact .inl ⟨rfl,rfl⟩
  · intro wr hwr
    cases hwr

end Consume

structure Process where
  world : World
  running : Bool
  failed : Option Batch

inductive Action where
  | consume (plan : Site → Fate) (batch : Batch)
  | restart (tails : String → List UInt8)

def Process.Retries (p : Process) (batch : Batch) : Prop :=
  p.running = true ∧ ∀ last, p.failed = some last → last = batch

inductive Process.Next (env : Env) : Process → Action → Process → Prop
  | consumed {p plan batch w} : p.Retries batch → consume env plan batch p.world = .ok () w →
      Process.Next env p (.consume plan batch) ⟨w,true,none⟩
  | failed {p plan batch e w} : p.Retries batch → consume env plan batch p.world = .error e w →
      Process.Next env p (.consume plan batch) ⟨w,true,some batch⟩
  | crashed {p plan batch w} : p.Retries batch → consume env plan batch p.world = .crash w →
      Process.Next env p (.consume plan batch) ⟨w,false,none⟩
  | restarted (p : Process) (tails : String → List UInt8) :
      Process.Next env p (.restart tails) ⟨p.world.restart tails,true,none⟩

structure Process.Fresh (p : Process) : Prop where
  running : p.running = true
  failed : p.failed = none
  unsaved : p.world.persisted = none
  unopened : p.world.writer = none
  uncommitted : p.world.committed = []
  quiet : ∀ path f, p.world.files.lookup path = some f → Quiet f

def Process.Reachable (env : Env) (p : Process) : Prop :=
  Runs.Reach (Process.Next env) (fun _ _ => True) Process.Fresh p

structure Process.Ok (env : Env) (p : Process) : Prop where
  disk : DiskOk env False p.world
  kept : p.running = true → Kept env False p.world.committed p.world

variable {env : Env} {p : Process}

theorem Process.Next.ok (hroot : env.cfg.root ≠ "") {q : Process} {a : Action} (h : p.Ok env)
    (hnext : Process.Next env p a q) : q.Ok env := by
  have hkept {w : World} (hw : Inv env False w) (failed : Option Batch) :
      Process.Ok env ⟨w,true,failed⟩ := ⟨hw.1,fun _ => ⟨hw,rfl⟩⟩
  cases hnext with
  | @consumed plan batch w hretries hresult =>
    have hsat := sat_consume hroot False.elim (h.kept hretries.1) plan batch
    rw [hresult] at hsat
    exact hkept hsat.1 none
  | @failed plan batch e w hretries hresult =>
    have hsat := sat_consume hroot False.elim (h.kept hretries.1) plan batch
    rw [hresult] at hsat
    exact hkept hsat.1 _
  | @crashed plan batch w hretries hresult =>
    have hsat := sat_consume hroot False.elim (h.kept hretries.1) plan batch
    rw [hresult] at hsat
    exact ⟨hsat,nofun⟩
  | restarted tails => exact hkept (h.disk.restart tails).1 none

theorem Process.Reachable.ok (hroot : env.cfg.root ≠ "") (h : p.Reachable env) : p.Ok env := by
  refine h.invariant ?_ fun _ _ _ hp _ hnext => hnext.ok hroot hp
  intro p hfresh
  have hkept : Kept env False p.world.committed p.world := by
    refine .intro ⟨fun _ => hfresh.uncommitted,?_,?_⟩ ?_ rfl False.elim
    · intro s hs
      rw [hfresh.unsaved] at hs
      cases hs
    · intro path f _ hlookup
      exact .inl (hfresh.quiet path f hlookup)
    · intro wr hwr
      rw [hfresh.unopened] at hwr
      cases hwr
  exact ⟨hkept.diskOk,fun _ => hkept⟩

def firstBytes (env : Env) (w : World) (key : String) (size : Int) : List UInt8 :=
  (((w.files.lookup (objectPath env key)).map (·.bytes)).getD []).take size.toNat

def generationExtent (s : SinkStream) (generation : Nat) : Option (String × Int) :=
  if generation = s.generation then some (s.objectKey, s.position)
  else s.closedObjects[generation]?.map fun o => (o.key, o.size)

structure Recorded (env : Env) (w : World) (s : SinkStream) : Prop where
  bytes : ∀ generation key size, generationExtent s generation = some (key, size) →
    size = (content w.committed generation).length ∧
      firstBytes env w key size = content w.committed generation
  covered : ∀ entry ∈ w.committed, (generationExtent s entry.1).isSome
  crc : restoredCrc s = some (Crc64.checksum (firstBytes env w s.objectKey s.position))

theorem FileAt.firstBytes_eq {w : World} {key : String} {bytes : List UInt8} {allowed : Nat}
    (h : FileAt env w.files key bytes allowed) {size : Int} (hsize : size = bytes.length) :
    firstBytes env w key size = bytes := by
  obtain ⟨f,hlookup,hok⟩ := h
  rw [firstBytes,hlookup,hsize]
  exact hok.start

theorem StreamOk.recorded {env : Env} {strict : Prop} {w : World} {s : SinkStream}
    (hs : StreamOk env strict w.files w.committed s) : Recorded env w s where
  bytes := by
    intro generation key size hextent
    unfold generationExtent at hextent
    split_ifs at hextent with hcurrent
    · cases hextent
      rw [hcurrent]
      exact ⟨hs.position,hs.file.firstBytes_eq hs.position⟩
    obtain ⟨o,ho,heq⟩ := map_eq_some_iff.mp hextent
    cases heq
    obtain ⟨-,hsize,-,hfile⟩ := hs.closed generation o ho
    exact ⟨hsize,hfile.firstBytes_eq hsize⟩
  covered := by
    intro entry hentry
    unfold generationExtent
    split_ifs with hcurrent
    · rfl
    have hlatest := hs.latest entry hentry
    have hlength : entry.1 < s.closedObjects.length := by
      rw [hs.count]
      split_ifs <;> omega
    rw [getElem?_eq_getElem hlength]
    rfl
  crc := by
    rw [hs.file.firstBytes_eq hs.position]
    exact hs.crc

theorem Bare.recorded {strict : Prop} {w : World} {s : SinkStream} (hs : Bare env strict s)
    (hempty : w.committed = []) : Recorded env w s := by
  have hfirst (key : String) : firstBytes env w key 0 = [] := take_zero
  refine ⟨?_,?_,?_⟩
  · intro generation key size hextent
    unfold generationExtent at hextent
    rw [hs.closed,hs.position] at hextent
    split_ifs at hextent with hcurrent
    · cases hextent
      rw [hfirst,hempty]
      exact ⟨rfl,rfl⟩
    · cases hextent
  · rw [hempty]
    nofun
  · rw [hs.position,hfirst,restoredCrc,hs.crc]
    rfl

theorem Process.Ok.recorded (h : p.Ok env) {s : SinkStream} (hs : p.world.persisted = some s) :
    Recorded env p.world s := by
  rcases h.disk.1.stream s hs with ⟨hbare,hempty⟩ | hok
  · exact hbare.recorded hempty
  · exact hok.recorded

theorem consume_append_atomic {env : Env} (hroot : env.cfg.root ≠ "") {p : Process}
    (h : p.Reachable env) :
    (p.world.persisted = none → p.world.committed = []) ∧
    (∀ s, p.world.persisted = some s → Recorded env p.world s) ∧
    (p.running = true → ∀ wr, p.world.writer = some wr → Recorded env p.world wr.stream) ∧
    ∀ plan batch, p.Retries batch → (∀ w, consume env plan batch p.world = .ok () w →
        Added env batch p.world.committed w.committed) ∧
      (∀ e w, consume env plan batch p.world = .error e w → w.committed = p.world.committed) := by
  have hok := h.ok hroot
  refine ⟨hok.disk.1.fresh,fun s hs => hok.recorded hs,?_,?_⟩
  · intro hrunning wr hwr
    exact ((hok.kept hrunning).writerOk hwr).stream.recorded
  intro plan batch hretries
  have hsat := sat_consume hroot False.elim (hok.kept hretries.1) plan batch
  refine ⟨?_,?_⟩
  · intro w hresult
    rw [hresult] at hsat
    exact hsat.2
  · intro e w hresult
    rw [hresult] at hsat
    exact hsat.2

def sampleEnv : Env where
  cfg := ⟨"/data","c",1000,3,0⟩
  streamRef := "ref"
  time := ⟨fun _ => "t",fun _ => "t",fun _ => some ⟨1000000000,true⟩⟩
  sha256 := fun _ => "0000000000000000000000000000000000000000000000000000000000000000"

def sampleResource : Resource := ⟨"s","c","n","p","u","node","log","/var/log"⟩

def sampleBatch : Batch where
  streamRef := "ref"
  items := [⟨⟨⟨0,true⟩,[104,105],sampleResource,∅⟩,"1"⟩]

def emptySink : World := ⟨none,none,∅,0,1,1,0,false,[],[]⟩

def noFailure : Site → Fate := fun _ => .done

def tornWrite : Site → Fate
  | .writeData => .failed 3
  | .recoverTruncate _ => .failed 0
  | _ => .done

def firstConsumed : World := (consume sampleEnv noFailure sampleBatch emptySink).state

def tornConsumed : World := (consume sampleEnv tornWrite sampleBatch firstConsumed).state

theorem consume_append_atomic_torn : tornConsumed.committed = firstConsumed.committed ∧
      (tornConsumed.persisted.map (·.position), tornConsumed.files.entries.map (·.2.bytes.length)) =
        (some 6, [9]) ∧
      ∀ s, tornConsumed.persisted = some s → Recorded sampleEnv tornConsumed s := by
  have hruns : (consume sampleEnv noFailure sampleBatch emptySink).succeeded = true ∧
      (consume sampleEnv tornWrite sampleBatch firstConsumed).rejected = true := by decide +kernel
  obtain ⟨e,htorn⟩ := Result.eq_error hruns.2
  have hfresh : Process.Reachable sampleEnv ⟨emptySink,true,none⟩ :=
    .start ⟨rfl,rfl,rfl,rfl,rfl,nofun⟩
  have hfirst : Process.Reachable sampleEnv ⟨firstConsumed,true,none⟩ :=
    hfresh.step trivial (.consumed ⟨rfl,nofun⟩ (Result.eq_ok hruns.1))
  have hsecond : Process.Reachable sampleEnv ⟨tornConsumed,true,some sampleBatch⟩ :=
    hfirst.step trivial (.failed ⟨rfl,nofun⟩ htorn)
  have hatomic := consume_append_atomic (by decide) hfirst
  refine ⟨(hatomic.2.2.2 tornWrite sampleBatch ⟨rfl,nofun⟩).2 e _ htorn,?_,?_⟩
  · decide +kernel
  · exact (consume_append_atomic (by decide) hsecond).2.1

end OpenSandbox.NodeAgent.FileSink
