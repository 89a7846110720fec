import OpenSandbox.NodeAgent.FileSink.Append
import OpenSandbox.NodeAgent.FileSink.FinalizeSteps
import OpenSandbox.NodeAgent.OssSink.Delivery

namespace OpenSandbox.NodeAgent

open Fallible

namespace FileSink

inductive Call where
  | consume (plan : Site → Fate) (batch : Batch)
  | finalize (plan : Site → Fate) (request : FinalizeRequest)

def Call.run (env : Env) : Call → Run Unit
  | .consume plan batch => FileSink.consume env plan batch
  | .finalize plan request => FileSink.finalize env plan request

def Allowed (w : World) : Call ⊕ (String → List UInt8) → Prop
  | .inl (.finalize _ _) => HoldsData w
  | _ => True

structure Fresh (s : Service World) : Prop where
  running : s.running = true
  unsaved : s.state.persisted = none
  unopened : s.state.writer = none
  uncommitted : s.state.committed = []
  accepted : s.state.refused = []
  quiet : ∀ path f, s.state.files.lookup path = some f → Quiet f

def Reachable (env : Env) (s : Service World) : Prop :=
  Runs.Reach (Step (Call.run env) World.restart) (fun s a => Allowed s.state a) Fresh s

theorem Kept.inv {env : Env} {strict : Prop} {committed : List (Nat × List UInt8)} {w : World}
    (h : Kept env strict committed w) : Inv env strict w := h.1

theorem Call.keeps {env : Env} (hroot : env.cfg.root ≠ "") (hsound : EnvSound env) {w : World}
    (h : Inv env True w) {call : Call} (hallowed : Allowed w (.inl call)) :
    (call.run env w).Sat (fun _ => Inv env True) (fun _ => Inv env True) (DiskOk env True) := by
  have hkept : Kept env True w.committed w := ⟨h,rfl⟩
  cases call with
  | consume plan batch =>
    exact (sat_consume hroot (fun _ => hsound) hkept plan batch).mono (fun _ _ hadded => hadded.1)
      (fun _ _ => Kept.inv) fun _ => id
  | finalize plan request =>
    exact (keeps_finalize hroot (fun _ => hsound.referenced) hkept (fun _ => hallowed) request).mono
      (fun _ _ => Kept.inv) (fun _ _ => Kept.inv) fun _ => id

theorem Reachable.ok {env : Env} (hroot : env.cfg.root ≠ "") (hsound : EnvSound env)
    {s : Service World} (h : Reachable env s) : s.Ok (Inv env True) (DiskOk env True) := by
  refine h.invariant ?_ fun _ _ _ hs ha hstep => Step.ok (fun _ hinv => hinv.1)
    (fun _ _ hallowed hinv => Call.keeps hroot hsound hinv hallowed)
    (fun tails _ hdisk => (hdisk.restart tails).1) hs ha hstep
  intro s hfresh
  have hinv : Inv env True s.state := by
    refine ⟨⟨⟨fun _ => hfresh.uncommitted,?_,?_⟩,fun _ => hfresh.accepted⟩,?_⟩
    · intro p hp
      cases hfresh.unsaved.symm.trans hp
    · exact fun path f _ hlookup => .inl (hfresh.quiet path f hlookup)
    · intro wr hwr
      cases hfresh.unopened.symm.trans hwr
  exact ⟨hinv.1,fun _ => hinv⟩

theorem holdsData_of_position {w : World}
    (h : (w.writer.map (·.stream.position)).any (0 < ·) = true) : HoldsData w := by
  cases hw : w.writer with
  | none =>
    rw [hw] at h
    cases h
  | some wr =>
    rw [hw] at h
    refine ⟨?_,?_⟩
    · intro wr' hw' _
      cases hw.symm.trans hw'
      exact of_decide_eq_true h
    · intro hnone
      cases hw.symm.trans hnone

def Unguarded (env : Env) (s : Service World) : Prop :=
  Runs.Reach (Step (Call.run env) World.restart) (fun _ _ => True) Fresh s

def sampleRequest : FinalizeRequest :=
  ⟨"f","target","ref",1,⟨1000000000,true⟩,sampleResource,⟨false,false,[]⟩,⟨1000000000,true⟩⟩

def intentLost : Site → Fate
  | .putIntent => .failed 0
  | _ => .done

def openedEmpty : World := (consume sampleEnv intentLost sampleBatch emptySink).state

def closedEmpty : World := (finalize sampleEnv noFailure sampleRequest openedEmpty).state

def firstFinalized : World := (finalize sampleEnv noFailure sampleRequest firstConsumed).state

theorem envSound_sampleEnv : EnvSound sampleEnv := by
  have hdigest : canonicalDigest (sampleEnv.sha256 []) = true := by decide +kernel
  exact ⟨by decide,by decide,fun _ => hdigest⟩

end FileSink

namespace OssSink

inductive Call where
  | consume (plan : Site → Fate) (batch : Batch)
  | finalize (plan : Site → Fate) (request : FinalizeRequest)

def Call.run (env : Env) : Call → Run Unit
  | .consume plan batch => OssSink.consume env plan batch
  | .finalize plan request => OssSink.finalize env plan request

def Allowed (env : Env) (w : World) : Call ⊕ Unit → Prop
  | .inl (.consume _ batch) => Unblocked env (encoded env batch).length w
  | .inl (.finalize _ _) => Settled w
  | .inr _ => True

structure Fresh (s : Service World) : Prop where
  running : s.running = true
  unsaved : s.state.persisted = none
  uncached : s.state.cached = none
  unwritten : ∀ key, s.state.objects.lookup key = none
  unappended : s.state.appended = []
  accepted : s.state.refused = []

def Reachable (env : Env) (s : Service World) : Prop :=
  Runs.Reach (Step (Call.run env) fun _ => World.restart) (fun s a => Allowed env s.state a) Fresh s

theorem Call.keeps {env : Env} (hsound : EnvSound env) {w : World} (h : Inv env True w)
    {call : Call} (hallowed : Allowed env w (.inl call)) :
    (call.run env w).Sat (fun _ => Inv env True) (fun _ => Inv env True) (DiskInv env True) := by
  cases call with
  | consume plan batch =>
    refine (sends_consume (fun _ => hsound) h plan batch fun _ => hallowed).mono ?_
      (fun _ _ hafter => hafter.inv) fun _ htorn => htorn.disk
    rintro _ w' (⟨-,rfl⟩ | ⟨-,hacked⟩)
    · exact h
    · exact hacked.inv
  | finalize plan request =>
    exact (keeps_finalize (fun _ => hsound) h (fun _ => hallowed) request).mono
      (fun _ _ hkept => hkept.inv) (fun _ _ hkept => hkept.inv) fun _ hcrash => hcrash.1

theorem Reachable.ok {env : Env} (hsound : EnvSound env) {s : Service World}
    (h : Reachable env s) : s.Ok (Inv env True) (DiskInv env True) := by
  refine h.invariant ?_ fun _ _ _ hs ha hstep => Step.ok (fun _ hinv => hinv.disk)
    (fun _ _ hallowed hinv => Call.keeps hsound hinv hallowed)
    (fun _ _ hdisk => hdisk.restart) hs ha hstep
  intro s hfresh
  have hdisk : DiskInv env True s.state := by
    refine ⟨fun _ => ⟨hfresh.unwritten,hfresh.unappended⟩,?_,?_,fun _ => hfresh.accepted⟩
    · intro p hp
      cases hfresh.unsaved.symm.trans hp
    · rw [hfresh.unappended]
      exact .nil
  refine ⟨hdisk,fun _ => ⟨hdisk,?_⟩⟩
  intro c r hc
  cases hfresh.uncached.symm.trans hc

def Unguarded (env : Env) (s : Service World) : Prop :=
  Runs.Reach (Step (Call.run env) fun _ : Unit => World.restart) (fun _ _ => True) Fresh s

def cancelledAppend : Site → Fate
  | .append | .headRecover | .context => .failed 0
  | _ => .done

def firstConsumed : World := (consume sampleEnv noFailure sampleBatch emptyBucket).state

def secondCancelled : World := (consume sampleEnv cancelledAppend sampleBatch firstConsumed).state

def closedPending : World :=
  (finalize sampleEnv noFailure FileSink.sampleRequest secondCancelled).state

theorem envSound_sampleEnv : EnvSound sampleEnv := by
  have hdigest : canonicalDigest (sampleEnv.sha256 []) = true := by decide +kernel
  have hcrc : canonicalUint (sampleEnv.crc64 []) = true := by decide +kernel
  exact ⟨by decide,by decide,fun _ => hdigest,fun _ => hcrc⟩

end OssSink

theorem sinks_put_valid_streams {fileEnv : FileSink.Env} {ossEnv : OssSink.Env}
    (hroot : fileEnv.cfg.root ≠ "") (hfile : FileSink.EnvSound fileEnv)
    (hoss : OssSink.EnvSound ossEnv) :
    (∀ s, FileSink.Reachable fileEnv s → s.state.refused = []) ∧
      ∀ s, OssSink.Reachable ossEnv s → s.state.refused = [] :=
  ⟨fun _ hs => (hs.ok hroot hfile).disk.2 trivial,fun _ hs => (hs.ok hoss).disk.accepted trivial⟩

namespace FileSink

theorem fresh_emptySink : Fresh ⟨emptySink,true⟩ := ⟨rfl,rfl,rfl,rfl,rfl,nofun⟩

theorem reachable_firstFinalized : Reachable sampleEnv ⟨firstFinalized,true⟩ := by
  have hruns : (consume sampleEnv noFailure sampleBatch emptySink).alive = true ∧
      (finalize sampleEnv noFailure sampleRequest firstConsumed).alive = true ∧
      (firstConsumed.writer.map (·.stream.position)).any (0 < ·) = true := by decide +kernel
  obtain ⟨hconsume,hfinalize,hposition⟩ := hruns
  have hallowed : Allowed emptySink (.inl (.consume noFailure sampleBatch)) := trivial
  have hallowed' : Allowed firstConsumed (.inl (.finalize noFailure sampleRequest)) :=
    holdsData_of_position hposition
  have hconsumed : Reachable sampleEnv ⟨firstConsumed,true⟩ :=
    .step (.start fresh_emptySink) hallowed (Step.of_run rfl hconsume)
  exact .step hconsumed hallowed' (Step.of_run rfl hfinalize)

theorem unguarded_closedEmpty : Unguarded sampleEnv ⟨closedEmpty,true⟩ := by
  have hruns : (consume sampleEnv intentLost sampleBatch emptySink).alive = true ∧
      (finalize sampleEnv noFailure sampleRequest openedEmpty).alive = true := by decide +kernel
  have hopened : Unguarded sampleEnv ⟨openedEmpty,true⟩ :=
    .step (a := .inl (.consume intentLost sampleBatch)) (.start fresh_emptySink) trivial
      (Step.of_run rfl hruns.1)
  exact .step (a := .inl (.finalize noFailure sampleRequest)) hopened trivial
    (Step.of_run rfl hruns.2)

end FileSink

namespace OssSink

theorem unblocked_of_idle {env : Env} {length : Int} {w : World}
    (h : (w.cached.map (·.1.appendIntent)).all Option.isNone = true) : Unblocked env length w := by
  intro c r hc hsome
  rw [hc] at h
  have hnone : c.appendIntent.isNone = true := h
  rw [Option.isNone_iff_eq_none.mp hnone] at hsome
  cases hsome

theorem reachable_secondCancelled : Reachable sampleEnv ⟨secondCancelled,true⟩ := by
  have hruns : (consume sampleEnv noFailure sampleBatch emptyBucket).alive = true ∧
      (consume sampleEnv cancelledAppend sampleBatch firstConsumed).alive = true ∧
      (firstConsumed.cached.map (·.1.appendIntent)).all Option.isNone = true := by decide +kernel
  obtain ⟨hfirst,hsecond,hidle⟩ := hruns
  have hallowed : Allowed sampleEnv emptyBucket (.inl (.consume noFailure sampleBatch)) :=
    unblocked_of_idle rfl
  have hallowed' : Allowed sampleEnv firstConsumed (.inl (.consume cancelledAppend sampleBatch)) :=
    unblocked_of_idle hidle
  have hfresh : Fresh ⟨emptyBucket,true⟩ := ⟨rfl,rfl,rfl,fun _ => rfl,rfl,rfl⟩
  have hconsumed : Reachable sampleEnv ⟨firstConsumed,true⟩ :=
    .step (.start hfresh) hallowed (Step.of_run rfl hfirst)
  exact .step hconsumed hallowed' (Step.of_run rfl hsecond)

theorem unguarded_of_reachable {env : Env} {s : Service World} (h : Reachable env s) :
    Unguarded env s := by
  induction h with
  | start hs => exact .start hs
  | step _ _ hnext ih => exact .step ih trivial hnext

theorem unguarded_closedPending : Unguarded sampleEnv ⟨closedPending,true⟩ := by
  have hruns : (finalize sampleEnv noFailure FileSink.sampleRequest secondCancelled).alive =
      true := by decide +kernel
  exact .step (a := .inl (.finalize noFailure FileSink.sampleRequest))
    (unguarded_of_reachable reachable_secondCancelled) trivial (Step.of_run rfl hruns)

end OssSink

theorem sinks_put_valid_streams_finalized :
    FileSink.firstFinalized.persisted.map (·.finalizedRevision) = some 1 ∧
      FileSink.firstFinalized.refused = [] ∧ OssSink.secondCancelled.refused = [] := by
  have hrevision : (FileSink.firstFinalized.persisted.map (·.finalizedRevision)) = some 1 := by
    decide +kernel
  have hvalid := sinks_put_valid_streams (show FileSink.sampleEnv.cfg.root ≠ "" by decide)
    FileSink.envSound_sampleEnv OssSink.envSound_sampleEnv
  refine ⟨hrevision,?_,?_⟩
  · exact hvalid.1 ⟨FileSink.firstFinalized,true⟩ FileSink.reachable_firstFinalized
  · exact hvalid.2 ⟨OssSink.secondCancelled,true⟩ OssSink.reachable_secondCancelled

def rejections (refused : List SinkStream) : List (Except StateError Unit) :=
  refused.map validateSinkStream

theorem sinks_put_invalid_streams :
    (FileSink.Unguarded FileSink.sampleEnv ⟨FileSink.closedEmpty,true⟩ ∧
      rejections FileSink.closedEmpty.refused = [.error (.invalidClosedObject "ref" 0)]) ∧
    OssSink.Unguarded OssSink.sampleEnv ⟨OssSink.closedPending,true⟩ ∧
      rejections OssSink.closedPending.refused = [.error (.appendIntentForClosed "ref")] :=
  ⟨⟨FileSink.unguarded_closedEmpty,by decide +kernel⟩,OssSink.unguarded_closedPending,
    by decide +kernel⟩

end OpenSandbox.NodeAgent
