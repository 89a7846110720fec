import OpenSandbox.Library.Decimal
import OpenSandbox.Library.GoText
import OpenSandbox.Library.Outcome

namespace OpenSandbox.NodeAgent

open Outcome Outcome

structure Time where
  nanos : Int
  utc : Bool
  deriving DecidableEq

def Time.isZero (t : Time) : Bool := t.nanos = 0

def Time.wholeSecond (t : Time) : Bool := t.nanos % 1000000000 = 0

structure FileCheckpoint where
  streamRef : String
  fileID : String
  path : String
  offset : Int
  device : Nat
  inode : Nat
  prefixHash : String
  hashBytes : Int
  observedSize : Int
  modTimeUnixNano : Int
  revision : Nat
  deriving DecidableEq

structure SourceDropRecord where
  id : String
  fileID : String
  path : String
  fromOffset : Int
  toOffset : Int
  reason : String
  deriving DecidableEq

structure GapRecord where
  id : String
  fileID : String
  path : String
  fromOffset : Int
  toOffset : Option Int
  resumeAt : Option Int
  repairOffset : Option Int
  observedSize : Int
  device : Nat
  inode : Nat
  prefixHash : String
  hashBytes : Int
  reason : String
  coverage : Bool
  resolved : Bool
  deriving DecidableEq

structure FrozenResource where
  sandboxID : String
  clusterName : String
  namespaceName : String
  podName : String
  podUID : String
  nodeName : String
  container : String
  logDirectory : String
  terminated : Bool
  deriving DecidableEq

structure OutcomeSnapshot where
  hadDrops : Bool
  hadSourceGaps : Bool
  lossReasons : List String
  deriving DecidableEq

structure SourceStream where
  streamRef : String
  resource : FrozenResource
  coverageStartedAt : Time
  initialScanComplete : Bool
  monitoringEpoch : String
  guarantee : String
  revision : Nat
  acknowledgedRevision : Nat
  finalizingRevision : Nat
  finalizingOutcome : Option OutcomeSnapshot
  hadDrops : Bool
  hadSourceGaps : Bool
  lossReasons : List String
  drops : List SourceDropRecord
  gaps : List GapRecord
  latePending : Bool
  ended : Bool
  repairDeadline : Option Time
  deriving DecidableEq

structure AppendIntent where
  position : Int
  length : Int
  sha256 : String
  device : Nat
  inode : Nat
  deriving DecidableEq

structure GenerationTransition where
  fromGeneration : Nat
  toGeneration : Nat
  objectKey : String
  deriving DecidableEq

structure MarkerIntent where
  revision : Nat
  path : String
  tempPath : String
  sha256 : String
  deriving DecidableEq

structure ClosedObject where
  key : String
  generation : Nat
  size : Int
  crc64 : String

structure SinkStream where
  sinkName : String
  streamRef : String
  generation : Nat
  position : Int
  device : Nat
  inode : Nat
  crc64State : List UInt8
  objectKey : String
  appendIntent : Option AppendIntent
  generationTransition : Option GenerationTransition
  markerIntent : Option MarkerIntent
  closedObjects : List ClosedObject
  currentClosed : Bool
  finalizedRevision : Nat
  cleanupPhase : String
  cleanupPath : String

structure FinalizeIntent where
  finalizeID : String
  targetID : String
  streamRef : String
  revision : Nat
  coverageStartedAt : Time
  finalizedAt : Time
  sinkDone : Bool
  sourceDone : Bool

inductive StateError where
  | invalidSourceCheckpoint (streamRef fileID path : String) (offset : Int)
  | checkpointOfOtherStream
  | invalidHashBytes (hashBytes : Int) (streamRef path : String)
  | invalidSourceStream (streamRef : String) (revision : Nat)
  | incompleteResource (streamRef : String)
  | acknowledgedExceedsRevision (streamRef : String) (acknowledged revision : Nat)
  | finalizingNotRevision (streamRef : String) (finalizing revision : Nat)
  | acknowledgedFinalizing (streamRef : String)
  | inconsistentFinalizingOutcome (streamRef : String)
  | lossFlagsMismatch
  | lossReasonsUnsorted
  | lossReasonsDuplicated
  | inconsistentEnded (streamRef : String)
  | revisionNotContiguous (streamRef : String) (revision acknowledged : Nat)
  | monitoringWithoutBoundary (streamRef : String)
  | nonCanonicalBoundary (streamRef : String)
  | noMonitoringEpoch (streamRef : String)
  | unsupportedGuarantee (streamRef guarantee : String)
  | invalidDropRecord
  | duplicateDropRecord
  | invalidGapRecord
  | duplicateGapRecord
  | gapOffsetBeforeStart
  | gapRepairBeyondEnd
  | coverageGapResolved
  | resolvedGapLacksEvidence
  | hadDropsMismatch
  | hadSourceGapsMismatch
  | lossReasonsMismatch
  | invalidSinkIdentity (streamRef : String) (position : Int)
  | sinkNameMismatch
  | invalidAppendIntentRange (streamRef : String)
  | invalidAppendIntentDigest (streamRef : String)
  | appendIntentForClosed (streamRef : String)
  | invalidClosedObject (streamRef : String) (index : Nat)
  | invalidFinalizeIntent
  | sourceDoneBeforeSink
  | nonCanonicalIntentBoundary
  | nonCanonicalFinalizationTime
  | finalizedBeforeBoundary
  | intentTargetMismatch
  | notACheckpoint (path : String)
  | indexMissingRecord (streamRef fileID : String)
  | indexOfOtherRecord (streamRef fileID : String)
  | indexWrongKey (streamRef fileID : String)
  | superseded (candidate persisted : FileCheckpoint)
  | nonCanonicalKey
  | duplicateIndexKey
  | indexMismatch (streamRef fileID : String)
  | indexWithoutCheckpoint
  | storage
  deriving DecidableEq

def maxCheckpointHashBytes : Int := 4096

def validateFileCheckpoint (c : FileCheckpoint) : Except StateError Unit :=
  reject [
    (c.streamRef = "" ∨ c.fileID = "" ∨ c.path = "" ∨ c.offset < 0,
      .invalidSourceCheckpoint c.streamRef c.fileID c.path c.offset),
    (c.hashBytes < 0 ∨ c.hashBytes > maxCheckpointHashBytes,
      .invalidHashBytes c.hashBytes c.streamRef c.path)]

def sortedStrings (xs : List String) : Bool := decide (xs.Pairwise (· ≤ ·))

def validateOutcomeSnapshot (o : OutcomeSnapshot) : Except StateError Unit :=
  reject [
    ((o.hadDrops || o.hadSourceGaps) ≠ decide (o.lossReasons.length > 0), .lossFlagsMismatch),
    (sortedStrings o.lossReasons = false, .lossReasonsUnsorted),
    ("" ∈ o.lossReasons ∨ ¬ o.lossReasons.IsChain (· ≠ ·), .lossReasonsDuplicated)]

def validateDrop (seen : List String) (d : SourceDropRecord) : Except StateError Unit :=
  reject [
    (d.id = "" ∨ d.fileID = "" ∨ d.path = "" ∨ d.fromOffset < 0 ∨ d.toOffset < d.fromOffset ∨
      d.reason = "", .invalidDropRecord),
    (d.id ∈ seen, .duplicateDropRecord)]

def validateDrops : List String → List SourceDropRecord → Except StateError Unit
  | _, [] => .ok ()
  | seen, d :: ds => do
      validateDrop seen d
      validateDrops (d.id :: seen) ds

def below (offset : Option Int) (start : Int) : Bool := offset.any (· < start)

def GapRecord.repairedTo (g : GapRecord) : Int := g.repairOffset.getD g.fromOffset

def validateGap (seen : List String) (g : GapRecord) : Except StateError Unit :=
  reject [
    (g.id = "" ∨ g.path = "" ∨ g.fromOffset < 0 ∨ g.reason = "", .invalidGapRecord),
    (g.id ∈ seen, .duplicateGapRecord),
    (below g.toOffset g.fromOffset ∨ below g.resumeAt g.fromOffset ∨
      below g.repairOffset g.fromOffset, .gapOffsetBeforeStart),
    (g.toOffset.any fun limit => g.repairOffset.any (limit < ·), .gapRepairBeyondEnd),
    (g.coverage && g.resolved, .coverageGapResolved),
    (g.resolved && (g.resumeAt.isSome || g.toOffset.all (g.repairedTo < ·) || g.fileID = "" ||
      g.prefixHash = "" || g.hashBytes ≤ 0), .resolvedGapLacksEvidence)]

def validateGaps : List String → List GapRecord → Except StateError Unit
  | _, [] => .ok ()
  | seen, g :: gs => do
      validateGap seen g
      validateGaps (g.id :: seen) gs

def unresolvedGaps (gaps : List GapRecord) : List GapRecord := gaps.filter fun g => !g.resolved

def sortReasons (reasons : List String) : List String := reasons.dedup.insertionSort (· ≤ ·)

def wantReasons (drops : List SourceDropRecord) (gaps : List GapRecord) : List String :=
  sortReasons (drops.map (·.reason) ++ (unresolvedGaps gaps).map (·.reason))

def validateSourceOutcome (s : SourceStream) : Except StateError Unit := do
  validateDrops [] s.drops
  validateGaps [] s.gaps
  reject [
    (s.hadDrops ≠ decide (s.drops.length > 0), .hadDropsMismatch),
    (s.hadSourceGaps ≠ decide (unresolvedGaps s.gaps ≠ []), .hadSourceGapsMismatch),
    (s.lossReasons ≠ wantReasons s.drops s.gaps, .lossReasonsMismatch)]

def FrozenResource.incomplete (r : FrozenResource) : Bool :=
  r.sandboxID = "" || r.clusterName = "" || r.namespaceName = "" || r.podName = "" ||
    r.podUID = "" || r.nodeName = "" || r.container = "" || r.logDirectory = "" ||
    !GoText.hasPrefix r.logDirectory "/"

def validateSourceIdentity (s : SourceStream) : Except StateError Unit :=
  reject [
    (s.streamRef = "" ∨ s.revision = 0, .invalidSourceStream s.streamRef s.revision),
    (s.resource.incomplete, .incompleteResource s.streamRef)]

def validateFinalizing (s : SourceStream) : Except StateError Unit :=
  reject [
    (s.acknowledgedRevision > s.revision,
      .acknowledgedExceedsRevision s.streamRef s.acknowledgedRevision s.revision),
    (s.finalizingRevision ≠ 0 ∧ s.finalizingRevision ≠ s.revision,
      .finalizingNotRevision s.streamRef s.finalizingRevision s.revision),
    (s.finalizingRevision ≠ 0 ∧ s.acknowledgedRevision ≥ s.finalizingRevision,
      .acknowledgedFinalizing s.streamRef),
    (decide (s.finalizingRevision ≠ 0) ≠ s.finalizingOutcome.isSome,
      .inconsistentFinalizingOutcome s.streamRef)]

def uint64 (n : Nat) : Nat := n % 2 ^ 64

def validateProgress (s : SourceStream) : Except StateError Unit :=
  reject [
    (s.ended ≠ decide (s.acknowledgedRevision = s.revision ∧ s.finalizingRevision = 0),
      .inconsistentEnded s.streamRef),
    (s.ended = false ∧ s.revision ≠ uint64 (s.acknowledgedRevision + 1),
      .revisionNotContiguous s.streamRef s.revision s.acknowledgedRevision)]

def validateMonitoring (s : SourceStream) : Except StateError Unit :=
  reject [
    (s.coverageStartedAt.isZero ∧ (s.initialScanComplete ∨ s.monitoringEpoch ≠ ""),
      .monitoringWithoutBoundary s.streamRef),
    (s.coverageStartedAt.isZero = false ∧
      (s.coverageStartedAt.utc = false ∨ s.coverageStartedAt.wholeSecond = false),
      .nonCanonicalBoundary s.streamRef),
    (s.coverageStartedAt.isZero = false ∧ s.monitoringEpoch = "", .noMonitoringEpoch s.streamRef),
    (s.guarantee ≠ "" ∧ s.guarantee ≠ "durable" ∧ s.guarantee ≠ "best-effort",
      .unsupportedGuarantee s.streamRef s.guarantee)]

def validateSourceStream (s : SourceStream) : Except StateError Unit := do
  validateSourceIdentity s
  validateFinalizing s
  match s.finalizingOutcome with
  | none => pure ()
  | some o => validateOutcomeSnapshot o
  validateProgress s
  validateMonitoring s
  validateSourceOutcome s

def maxInt64 : Int := 9223372036854775807

def isLowerHex (c : Char) : Bool := ('0' ≤ c && c ≤ '9') || ('a' ≤ c && c ≤ 'f')

def canonicalDigest (text : String) : Bool := text.length = 64 && text.toList.all isLowerHex

def canonicalUint (value : String) : Bool := Decimal.canonical value

def AppendIntent.invalidRange (intent : AppendIntent) (position : Int) : Bool :=
  intent.position ≠ position || intent.length ≤ 0 || intent.position > maxInt64 - intent.length

def validateAppendIntent (s : SinkStream) (intent : AppendIntent) : Except StateError Unit :=
  reject [
    (intent.invalidRange s.position, .invalidAppendIntentRange s.streamRef),
    (canonicalDigest intent.sha256 = false, .invalidAppendIntentDigest s.streamRef),
    (s.currentClosed, .appendIntentForClosed s.streamRef)]

def ClosedObject.invalidAt (index : Nat) (o : ClosedObject) : Bool :=
  o.generation ≠ index || o.key = "" || o.size ≤ 0 || canonicalUint o.crc64 = false

def validateClosedObjects (streamRef : String) : Nat → List ClosedObject → Except StateError Unit
  | _, [] => .ok ()
  | index, o :: objects =>
      if o.invalidAt index then .error (.invalidClosedObject streamRef index)
      else validateClosedObjects streamRef (index + 1) objects

def validateSinkStream (s : SinkStream) : Except StateError Unit := do
  reject [(s.sinkName = "" ∨ s.streamRef = "" ∨ s.position < 0,
    .invalidSinkIdentity s.streamRef s.position)]
  match s.appendIntent with
  | none => pure ()
  | some intent => validateAppendIntent s intent
  validateClosedObjects s.streamRef 0 s.closedObjects

def validateFinalizeIntent (i : FinalizeIntent) : Except StateError Unit :=
  reject [
    (i.streamRef = "" ∨ i.revision = 0 ∨ i.finalizeID = "" ∨ i.targetID = "" ∨
      i.coverageStartedAt.isZero ∨ i.finalizedAt.isZero, .invalidFinalizeIntent),
    (i.sourceDone && !i.sinkDone, .sourceDoneBeforeSink),
    (i.coverageStartedAt.utc = false ∨ i.coverageStartedAt.wholeSecond = false,
      .nonCanonicalIntentBoundary),
    (i.finalizedAt.utc = false ∨ i.finalizedAt.wholeSecond = false, .nonCanonicalFinalizationTime),
    (i.finalizedAt.nanos < i.coverageStartedAt.nanos, .finalizedBeforeBoundary)]

theorem validateClosedObjects_ok {streamRef : String} {objects : List ClosedObject} {index : Nat}
    (h : ∀ (i : Nat) o, objects[i]? = some o → o.invalidAt (index + i) = false) :
    validateClosedObjects streamRef index objects = .ok () := by
  induction objects generalizing index with
  | nil => rfl
  | cons o rest ih =>
    have hhead := h 0 o rfl
    unfold validateClosedObjects
    rw [if_neg (by simpa using hhead)]
    refine ih ?_
    intro i o' ho'
    have hnext := h (i + 1) o' ho'
    rwa [← Nat.add_assoc,Nat.add_right_comm] at hnext

theorem validateSinkStream_ok {s : SinkStream} (hnamed : s.sinkName ≠ "")
    (hreferenced : s.streamRef ≠ "") (hposition : 0 ≤ s.position)
    (hintent : ∀ i, s.appendIntent = some i → i.position = s.position ∧ 0 < i.length ∧
      i.position ≤ maxInt64 - i.length ∧ canonicalDigest i.sha256 = true ∧ s.currentClosed = false)
    (hclosed : validateClosedObjects s.streamRef 0 s.closedObjects = .ok ()) :
    validateSinkStream s = .ok () := by
  have hidentity : reject [(decide (s.sinkName = "" ∨ s.streamRef = "" ∨ s.position < 0),
      StateError.invalidSinkIdentity s.streamRef s.position)] = .ok () := by
    simp [reject,hnamed,hreferenced,hposition]
  have happend (intent : AppendIntent) (hi : s.appendIntent = some intent) :
      validateAppendIntent s intent = .ok () := by
    obtain ⟨heq,hlength,hrange,hdigest,hopen⟩ := hintent intent hi
    rw [heq] at hrange
    simp [validateAppendIntent,reject,AppendIntent.invalidRange,heq,hlength,hrange,hdigest,hopen]
  unfold validateSinkStream
  rw [hidentity]
  cases hi : s.appendIntent with
  | none => exact hclosed
  | some intent =>
    change (validateAppendIntent s intent >>= fun _ => _) = _
    rwa [happend intent hi]

theorem validateSinkStream_closed {s : SinkStream} (hintent : s.appendIntent.isSome)
    (hclosed : s.currentClosed = true) : validateSinkStream s ≠ .ok () := by
  intro h
  unfold validateSinkStream at h
  obtain ⟨_,-,h⟩ := bind_eq_ok.mp h
  obtain ⟨intent,hi⟩ := Option.isSome_iff_exists.mp hintent
  rw [hi] at h
  obtain ⟨_,happend,-⟩ := bind_eq_ok.mp h
  have hrules := reject_eq_ok.mp happend
  simp [hclosed] at hrules

end OpenSandbox.NodeAgent
