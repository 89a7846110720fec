import Mathlib.Data.List.Destutter
import OpenSandbox.NodeAgent.Api

namespace OpenSandbox.NodeAgent

open Outcome

structure TimeText where
  formatNano : Time → String
  formatSecond : Time → String
  parse : String → Option Time

def Time.truncateSecond (t : Time) : Time := ⟨t.nanos - t.nanos % 1000000000,t.utc⟩

def Time.inUTC (t : Time) : Time := ⟨t.nanos,true⟩

def maxSafeJSONInteger : Int := 9007199254740991

structure Marker where
  schemaVersion : Int
  targetID : String
  finalizeID : String
  revision : Nat
  streamRef : String
  resource : Resource
  coverageStartedAt : String
  status : String
  hadDrops : Bool
  hadSourceGaps : Bool
  lossReasons : List String
  finalizedAt : String
  objects : List ClosedObject

inductive MarkerError where
  | unsupportedSchema (version : Int)
  | identityRequired
  | revisionUnsafe
  | resourceRequired
  | statusMismatch
  | lossFlagsMismatch
  | invalidCoverageStart
  | nonCanonicalCoverageStart
  | invalidFinalizedAt
  | nonCanonicalFinalizedAt
  | finalizedBeforeCoverage
  | invalidReason
  | unsortedReasons
  | repeatedReasons
  | discontinuousGenerations
  | invalidObject
  deriving DecidableEq

namespace Marker

def schema : Int := 1

def statusOf (hadDrops hadSourceGaps : Bool) : String :=
  if hadSourceGaps then "incomplete" else if hadDrops then "complete-with-drops" else "complete"

def new (text : TimeText) (request : FinalizeRequest) (objects : List ClosedObject) : Marker where
  schemaVersion := schema
  targetID := request.targetID
  finalizeID := request.finalizeID
  revision := request.revision
  streamRef := request.streamRef
  resource := request.resource
  coverageStartedAt :=
    if request.coverageStartedAt.isZero then "" else text.formatNano request.coverageStartedAt
  status := statusOf request.outcome.hadDrops request.outcome.hadSourceGaps
  hadDrops := request.outcome.hadDrops
  hadSourceGaps := request.outcome.hadSourceGaps
  lossReasons := (request.outcome.lossReasons.insertionSort (· ≤ ·)).destutter (· ≠ ·)
  finalizedAt := text.formatSecond request.finalizedAt.inUTC.truncateSecond
  objects := objects.insertionSort fun a b => a.generation ≤ b.generation

def validateIdentity (m : Marker) : Except MarkerError Unit :=
  reject [
    (m.schemaVersion ≠ schema, .unsupportedSchema m.schemaVersion),
    (m.targetID = "" ∨ m.finalizeID = "" ∨ m.streamRef = "" ∨ m.revision = 0, .identityRequired),
    ((m.revision : Int) > maxSafeJSONInteger, .revisionUnsafe),
    (m.resource.sandboxID = "" ∨ m.resource.clusterName = "" ∨ m.resource.namespaceName = "" ∨
      m.resource.podName = "" ∨ m.resource.podUID = "" ∨ m.resource.container = "" ∨
      m.resource.nodeName = "", .resourceRequired),
    (m.status ≠ statusOf m.hadDrops m.hadSourceGaps, .statusMismatch),
    ((m.hadDrops || m.hadSourceGaps) ≠ decide (m.lossReasons.length > 0), .lossFlagsMismatch)]

def parseCanonical (text : TimeText) (value : String) (invalid nonCanonical : MarkerError) :
    Except MarkerError Time :=
  match text.parse value with
  | none => .error invalid
  | some t =>
      if t.utc = false ∨ t.wholeSecond = false ∨ text.formatSecond t ≠ value then
        .error nonCanonical
      else .ok t

def validateReasons (m : Marker) : Except MarkerError Unit :=
  reject [
    ("" ∈ m.lossReasons, .invalidReason),
    (sortedStrings m.lossReasons = false, .unsortedReasons),
    (¬ m.lossReasons.IsChain (· ≠ ·), .repeatedReasons)]

def invalidFields (o : ClosedObject) : Bool :=
  o.key = "" || o.size < 0 || o.size > maxSafeJSONInteger ||
    (o.generation : Int) > maxSafeJSONInteger || canonicalUint o.crc64 = false

def validateObjects : Nat → List ClosedObject → Except MarkerError Unit
  | _, [] => .ok ()
  | index, o :: objects =>
      if o.generation ≠ index then .error .discontinuousGenerations
      else if invalidFields o then .error .invalidObject
      else validateObjects (index + 1) objects

def validate (text : TimeText) (m : Marker) : Except MarkerError Unit := do
  validateIdentity m
  let coverage ← parseCanonical text m.coverageStartedAt .invalidCoverageStart
    .nonCanonicalCoverageStart
  let finalized ← parseCanonical text m.finalizedAt .invalidFinalizedAt .nonCanonicalFinalizedAt
  reject [(finalized.nanos < coverage.nanos, .finalizedBeforeCoverage)]
  validateReasons m
  validateObjects 0 m.objects

def hexLower (n : Nat) : Char := if n < 10 then Char.ofNat (48 + n) else Char.ofNat (87 + n)

def escapeRune (c : Char) : List Char :=
  if c = '"' ∨ c = '\\' then ['\\',c]
  else if c = '\x08' then ['\\','b']
  else if c = '\x0c' then ['\\','f']
  else if c = '\n' then ['\\','n']
  else if c = '\r' then ['\\','r']
  else if c = '\t' then ['\\','t']
  else if c.toNat < 0x20 then
    ['\\','u','0','0',hexLower (c.toNat / 16),hexLower (c.toNat % 16)]
  else [c]

def quote (value : String) : List Char := '"' :: (value.toList.flatMap escapeRune ++ ['"'])

def formatBool (b : Bool) : List Char := (if b then "true" else "false").toList

def formatUint (n : Nat) : List Char := (Decimal.formatUint n).toList

def formatInt (n : Int) : List Char :=
  if n < 0 then '-' :: formatUint n.natAbs else formatUint n.natAbs

def encodeResource (r : Resource) : List Char :=
  "\x7b\"sandbox_id\":".toList ++ quote r.sandboxID ++
  ",\"k8s.namespace.name\":".toList ++ quote r.namespaceName ++
  ",\"k8s.pod.name\":".toList ++ quote r.podName ++
  ",\"k8s.pod.uid\":".toList ++ quote r.podUID ++
  ",\"k8s.container.name\":".toList ++ quote r.container ++
  ",\"k8s.node.name\":".toList ++ quote r.nodeName ++
  ",\"k8s.cluster.name\":".toList ++ quote r.clusterName ++ "\x7d".toList

def encodeObject (o : ClosedObject) : List Char :=
  "\x7b\"key\":".toList ++ quote o.key ++
  ",\"generation\":".toList ++ formatUint o.generation ++
  ",\"size\":".toList ++ formatInt o.size ++
  ",\"crc64\":".toList ++ quote o.crc64 ++ "\x7d".toList

def encodeFields (m : Marker) : List Char :=
  "\x7b\"schema_version\":".toList ++ formatInt schema ++
  ",\"target_id\":".toList ++ quote m.targetID ++
  ",\"finalize_id\":".toList ++ quote m.finalizeID ++
  ",\"revision\":".toList ++ formatUint m.revision ++
  ",\"stream_ref\":".toList ++ quote m.streamRef ++
  ",\"resource\":".toList ++ encodeResource m.resource ++
  ",\"coverage_started_at\":".toList ++ quote m.coverageStartedAt ++
  ",\"status\":".toList ++ quote m.status ++
  ",\"had_drops\":".toList ++ formatBool m.hadDrops ++
  ",\"had_source_gaps\":".toList ++ formatBool m.hadSourceGaps ++
  ",\"loss_reasons\":[".toList ++ [','].intercalate (m.lossReasons.map quote) ++
  "],\"finalized_at\":".toList ++ quote m.finalizedAt ++
  ",\"objects\":[".toList ++ [','].intercalate (m.objects.map encodeObject) ++ "]\x7d".toList

def encode (text : TimeText) (m : Marker) : Except MarkerError (List UInt8) := do
  validate text m
  pure ((encodeFields m).flatMap String.utf8EncodeChar)

end Marker

end OpenSandbox.NodeAgent
