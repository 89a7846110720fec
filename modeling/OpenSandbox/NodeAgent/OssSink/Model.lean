import OpenSandbox.Library.Fallible
import OpenSandbox.NodeAgent.Marker

namespace OpenSandbox.NodeAgent.OssSink

open Fallible Prog

structure Config where
  keyPrefix : String
  clusterID : String
  writerID : String
  targetID : String
  maxObjectBytes : Int

structure Env where
  cfg : Config
  streamRef : String
  time : TimeText
  sha256 : List UInt8 → String
  crc64 : List UInt8 → String

inductive Site where
  | getState
  | headAdopt
  | headIntent
  | headVerify
  | putStream
  | headClose
  | putClosed
  | putIntent
  | append
  | headRecover
  | context
  | putAppended
  | preflight
  | headClosed (generation : Nat)
  | putMarker
  | getMarker
  | putFinalized
  deriving DecidableEq

inductive Refusal where
  | inconsistentResources
  | batchTooLarge
  | clusterMismatch
  | unsafeSegment
  | emptyField
  | nonVisibleField
  | keySlash
  | keyLength
  | streamResourceChanged
  | adoptsExisting
  | streamMismatch
  | negativePosition
  | fileSinkState
  | invalidIntent
  | objectKeyMismatch
  | closedCount
  | closedWithIntent
  | closedLayout
  | closedCurrent
  | appendTargetMissing
  | intentPositionConflict
  | objectMissing
  | notAppendable
  | sealed
  | nextPositionMissing
  | nextPositionMismatch
  | metadataMismatch
  | positionMismatch
  | crcMissing
  | intentMismatch
  | metadataTooLarge
  | appendPositionConflict
  | closedObjectChanged
  | revisionNotContinuous
  | markerInvalid (e : MarkerError)
  | markerConflict
  deriving DecidableEq

inductive SinkError where
  | io (site : Site)
  | permanent (reason : Refusal)
  | state (e : StateError)
  | notFound
  | positionNotEqual
  | markerExists
  | resultUnknown (position : Int) (cause : SinkError)
  | nextUnexpected (next position : Int)
  | headFailed (cause : SinkError)
  | joined (cause other : SinkError)
  deriving DecidableEq

abbrev Metadata := List (String × String)

structure RemoteObject where
  bytes : List UInt8
  metadata : Metadata

structure ObjectMetadata where
  size : Int
  crc64 : String
  metadata : Metadata
  objectType : String
  nextAppendPosition : Option Int
  sealedTime : String

structure World where
  persisted : Option SinkStream
  cached : Option (SinkStream × Resource)
  objects : GoMap RemoteObject
  markers : GoMap (List UInt8)
  refused : List SinkStream
  appended : List (Nat × List UInt8)

abbrev Run (α : Type) := Prog World SinkError α

def bytesAt (objects : GoMap RemoteObject) (key : String) : List UInt8 :=
  ((objects.lookup key).map (·.bytes)).getD []

namespace World

def storeCachedStream (stream : SinkStream) (r : Resource) (w : World) : World :=
  { w with cached := some (stream, r) }

def deleteCachedStream (w : World) : World := { w with cached := none }

def appendAt (generation : Nat) (key : String) (data : List UInt8) (position : Int)
    (metadata : Metadata) (w : World) : World :=
  if ((bytesAt w.objects key).length : Int) = position then
    { w with
      objects := w.objects.insert key ⟨bytesAt w.objects key ++ data,
        ((w.objects.lookup key).map (·.metadata)).getD metadata⟩
      appended := w.appended ++ [(generation, data)] }
  else w

def putMarker (key : String) (raw : List UInt8) (w : World) : World :=
  match w.markers.lookup key with
  | some _ => w
  | none => { w with markers := w.markers.insert key raw }

def restart (w : World) : World := w.deleteCachedStream

end World

section Keys

variable (env : Env)

def objectKeyOf (r : Resource) (generation : Nat) : String :=
  dataKey (familyPrefixOf env.cfg.keyPrefix r) r.container generation

def markerKeyOf (r : Resource) (revision : Nat) : String :=
  markerKey (familyPrefixOf env.cfg.keyPrefix r) r.container revision

def validateOSSObjectKey (key : String) : Except SinkError Unit :=
  Outcome.reject [
    (key.toList.head? = some '/' ∨ key.toList.head? = some '\\', .permanent .keySlash),
    ((utf8 key).length = 0 ∨ (utf8 key).length > 1023, .permanent .keyLength)]

def visible (c : Char) : Bool := 32 ≤ c.toNat && c.toNat ≤ 126

def validateFields : List String → Except SinkError Unit
  | [] => .ok ()
  | value :: fields => do
      Outcome.reject [
        (value = "", .permanent .emptyField),
        (!value.toList.all visible, .permanent .nonVisibleField)]
      validateFields fields

def maxUint64 : Nat := 2 ^ 64 - 1

def validateResource (r : Resource) : Except SinkError Unit := do
  Outcome.reject [
    (r.clusterName ≠ env.cfg.clusterID, .permanent .clusterMismatch),
    (r.segments.any unsafeSegment, .permanent .unsafeSegment)]
  validateFields [r.sandboxID,r.clusterName,r.namespaceName,r.podName,r.podUID,r.nodeName,
    r.container,r.logDirectory]
  validateOSSObjectKey (objectKeyOf env r maxUint64)
  validateOSSObjectKey (markerKeyOf env r maxUint64)

def identityMetadata (streamRef : String) (r : Resource) (generation : Nat) : Metadata :=
  [("nodeagent-writer-id", env.cfg.writerID),("nodeagent-target-id", env.cfg.targetID),
    ("nodeagent-stream-ref", streamRef),("nodeagent-generation", Decimal.formatUint generation),
    ("sandbox-id", r.sandboxID),("k8s-cluster-name", r.clusterName),("k8s-namespace-name",
    r.namespaceName),("k8s-pod-name", r.podName),("k8s-pod-uid", r.podUID),("k8s-container-name",
    r.container),("k8s-node-name", r.nodeName),("log-directory", r.logDirectory)]

def metadataBytes (metadata : Metadata) : Nat :=
  (metadata.map fun entry =>
    (utf8 "X-Oss-Meta-").length + (utf8 entry.1).length + (utf8 entry.2).length).sum

def validateObjectIdentity (metadata : ObjectMetadata) (generation : Nat) (streamRef : String)
    (r : Resource) : Except SinkError Unit :=
  Outcome.reject [
    (metadata.objectType ≠ "Appendable", .permanent .notAppendable),
    (metadata.sealedTime ≠ "", .permanent .sealed),
    (metadata.nextAppendPosition = none, .permanent .nextPositionMissing),
    (metadata.nextAppendPosition ≠ some metadata.size, .permanent .nextPositionMismatch),
    (!(identityMetadata env streamRef r generation).all fun entry =>
      (metadata.metadata.lookup entry.1).getD "" = entry.2, .permanent .metadataMismatch)]

def closedLayoutOk (r : Resource) : Nat → List ClosedObject → Bool
  | _, [] => true
  | index, o :: objects =>
      o.generation = index && o.key = objectKeyOf env r o.generation &&
        closedLayoutOk r (index + 1) objects

def intentInvalid (stream : SinkStream) (intent : AppendIntent) : Bool :=
  intent.position ≠ stream.position || decide (intent.length ≤ 0) ||
    decide (intent.position > maxInt64 - intent.length) || !canonicalDigest intent.sha256

def unset (stream : SinkStream) : Bool :=
  stream.objectKey = "" && stream.position = 0 && stream.appendIntent.isNone &&
    stream.closedObjects.isEmpty

def validateStreamLayout (stream : SinkStream) (r : Resource) : Except SinkError Unit := do
  Outcome.reject [
    (stream.streamRef ≠ env.streamRef, .permanent .streamMismatch),
    (stream.position < 0, .permanent .negativePosition),
    (stream.device ≠ 0 ∨ stream.inode ≠ 0 ∨ stream.crc64State ≠ [] ∨
      stream.generationTransition ≠ none ∨ stream.markerIntent ≠ none ∨
      stream.cleanupPhase ≠ "" ∨ stream.cleanupPath ≠ "", .permanent .fileSinkState),
    (stream.appendIntent.any (intentInvalid stream), .permanent .invalidIntent)]
  validateOSSObjectKey (objectKeyOf env r stream.generation)
  let expectedClosed := if stream.currentClosed then stream.generation + 1 else stream.generation
  Outcome.reject [
    (!unset stream && stream.objectKey ≠ objectKeyOf env r stream.generation,
      .permanent .objectKeyMismatch),
    (stream.closedObjects.length ≠ expectedClosed, .permanent .closedCount),
    (stream.currentClosed && stream.appendIntent.isSome, .permanent .closedWithIntent),
    (closedLayoutOk env r 0 stream.closedObjects = false, .permanent .closedLayout),
    (stream.currentClosed && !(stream.closedObjects.getLast?.any fun current =>
      current.key = stream.objectKey && current.size = stream.position), .permanent .closedCurrent)]

def appendExceedsObjectLimit (position appendBytes limit : Int) : Bool :=
  position > limit || appendBytes > limit - position

def newSinkStream (r : Resource) : SinkStream where
  sinkName := "oss"
  streamRef := env.streamRef
  generation := 0
  position := 0
  device := 0
  inode := 0
  crc64State := []
  objectKey := objectKeyOf env r 0
  appendIntent := none
  generationTransition := none
  markerIntent := none
  closedObjects := []
  currentClosed := false
  finalizedRevision := 0
  cleanupPhase := ""
  cleanupPath := ""

end Keys

section Sink

variable (env : Env) (plan : Site → Fate)

def io (site : Site) : Run Unit := attempt (plan site) (.io site)

def refuse {α : Type} (reason : Refusal) : Run α := fail (.permanent reason)

def refuseIf (refused : Bool) (reason : Refusal) : Run Unit := check refused (.permanent reason)

def putSinkStream (site : Site) (stream : SinkStream) : Run Unit := do
  check (stream.sinkName ≠ "" ∧ stream.sinkName ≠ "oss") (.state .sinkNameMismatch)
  let stored := { stream with sinkName := "oss" }
  match validateSinkStream stored with
  | .error e => do
      update fun w => { w with refused := w.refused ++ [stored] }
      fail (.state e)
  | .ok () =>
      perform (plan site) (fun w => { w with persisted := some stored }) (fun _ w => w)
        (fun n w => if n = 0 then w else { w with persisted := some stored }) (.io site)

def getSinkStream : Run (Option SinkStream) := do
  io plan .getState
  let stored ← read (·.persisted)
  match stored with
  | none => pure none
  | some stream => do
      ofExcept ((validateSinkStream stream).mapError .state)
      check (stream.sinkName ≠ "oss" ∨ stream.streamRef ≠ env.streamRef)
        (.state .sinkNameMismatch)
      pure (some stream)

def describe (o : RemoteObject) : ObjectMetadata :=
  ⟨o.bytes.length,env.crc64 o.bytes,o.metadata,"Appendable",some o.bytes.length,""⟩

def head (site : Site) (key : String) : Run (Except SinkError ObjectMetadata) :=
  catchError (do
    io plan site
    match ← read fun w => w.objects.lookup key with
    | none => pure (.error .notFound)
    | some o => pure (.ok (describe env o))) fun e => pure (.error e)

def append (stream : SinkStream) (data : List UInt8) (metadata : Metadata) :
    Run (Int × Option SinkError) :=
  let effect := World.appendAt stream.generation stream.objectKey data stream.position metadata
  catchError (do
    let size ← read fun w => ((bytesAt w.objects stream.objectKey).length : Int)
    perform (plan .append) effect (fun n w => if n = 0 then w else effect w)
      (fun n w => if n = 0 then w else effect w) (.io .append)
    if size = stream.position then pure (stream.position + data.length, none)
    else pure (0, some .positionNotEqual)) fun e => pure (0, some e)

def existingObjectError : SinkError → SinkError
  | .notFound => .permanent .objectMissing
  | e => e

def storeStream (site : Site) (stream : SinkStream) (r : Resource) : Run SinkStream := do
  putSinkStream plan site stream
  update (World.storeCachedStream stream r)
  pure stream

variable (r : Resource) (stream : SinkStream)

def adoptStream : Run SinkStream := do
  let stream := newSinkStream env r
  ofExcept (validateOSSObjectKey stream.objectKey)
  match ← head env plan .headAdopt stream.objectKey with
  | .ok _ => refuse .adoptsExisting
  | .error .notFound => pure stream
  | .error e => fail e

def intentSize (intent : AppendIntent) : Run Int := do
  match ← head env plan .headIntent stream.objectKey with
  | .ok metadata => pure metadata.size
  | .error .notFound =>
      if intent.position = 0 then pure 0 else refuse .appendTargetMissing
  | .error e => fail e

def settleIntent : Run SinkStream :=
  match stream.appendIntent with
  | none => pure stream
  | some intent => do
      let size ← intentSize env plan stream intent
      if size = intent.position then pure { stream with appendIntent := none }
      else if size = intent.position + intent.length then
        pure { stream with position := size, appendIntent := none }
      else refuse .intentPositionConflict

def verifyMetadata (r : Resource) : Run Unit := do
  match ← head env plan .headVerify stream.objectKey with
  | .ok metadata => do
      ofExcept (validateObjectIdentity env metadata stream.generation env.streamRef r)
      refuseIf (metadata.size ≠ stream.position) .positionMismatch
  | .error e =>
      if e = .notFound ∧ stream.position = 0 then pure () else fail (existingObjectError e)

def resumeStream (stored : SinkStream) : Run SinkStream := do
  ofExcept (validateStreamLayout env stored r)
  let keyed := { stored with
    objectKey := if stored.objectKey = "" then objectKeyOf env r stored.generation
      else stored.objectKey }
  let settled ← settleIntent env plan keyed
  verifyMetadata env plan settled r
  pure settled

def loadStream : Run SinkStream := do
  match ← getSinkStream env plan with
  | none => adoptStream env plan r
  | some stored => resumeStream env plan r stored

def getStream : Run SinkStream := do
  match ← read (·.cached) with
  | some (current, cachedResource) => do
      refuseIf (cachedResource ≠ r) .streamResourceChanged
      pure current
  | none => do
      let stream ← loadStream env plan r
      storeStream plan .putStream stream r

def closedStream (size : Int) (crc : String) : SinkStream :=
  { stream with
    currentClosed := true
    closedObjects :=
      if stream.closedObjects.getLast?.map (·.generation) = some stream.generation then
        stream.closedObjects
      else stream.closedObjects ++ [⟨stream.objectKey,stream.generation,size,crc⟩] }

def closeGeneration : Run SinkStream := do
  match ← head env plan .headClose stream.objectKey with
  | .error e => fail (existingObjectError e)
  | .ok metadata => do
      ofExcept (validateObjectIdentity env metadata stream.generation stream.streamRef r)
      refuseIf (metadata.size ≠ stream.position) .positionMismatch
      refuseIf (metadata.crc64 = "") .crcMissing
      storeStream plan .putClosed (closedStream stream metadata.size metadata.crc64) r

def nextStream : SinkStream :=
  { stream with
    generation := stream.generation + 1
    position := 0
    currentClosed := false
    objectKey := objectKeyOf env r (stream.generation + 1) }

def nextGeneration : Run SinkStream := do
  let next := nextStream env r stream
  ofExcept (validateOSSObjectKey next.objectKey)
  pure next

def openGeneration : Run SinkStream :=
  if stream.currentClosed then nextGeneration env r stream else pure stream

def prepareGeneration (length : Int) (stream : SinkStream) : Run SinkStream := do
  let opened ← openGeneration env r stream
  if appendExceedsObjectLimit opened.position length env.cfg.maxObjectBytes then do
    let closed ← closeGeneration env plan r opened
    nextGeneration env r closed
  else pure opened

def recordIntent (data : List UInt8) (stream : SinkStream) : Run SinkStream := do
  let intent : AppendIntent := ⟨stream.position,data.length,env.sha256 data,0,0⟩
  refuseIf (stream.appendIntent.any (· ≠ intent)) .intentMismatch
  storeStream plan .putIntent { stream with appendIntent := some intent } r

def unknownResult (position next : Int) : Option SinkError → SinkError
  | some cause => .resultUnknown position cause
  | none => .nextUnexpected next position

def recoverAppendResult (next expected : Int) (appendErr : Option SinkError) : Run Int := do
  match ← head env plan .headRecover stream.objectKey with
  | .ok metadata => do
      onError (ofExcept (validateObjectIdentity env metadata stream.generation env.streamRef r))
        World.deleteCachedStream
      if metadata.size = expected then pure expected
      else do
        update World.deleteCachedStream
        if metadata.size = stream.position then
          fail (unknownResult stream.position next appendErr)
        else refuse .appendPositionConflict
  | .error headErr => do
      io plan .context
      update World.deleteCachedStream
      if headErr = .notFound ∧ stream.position = 0 then
        fail (unknownResult stream.position next appendErr)
      else fail (.joined (unknownResult stream.position next appendErr) (.headFailed headErr))

def appendData (data : List UInt8) (stream : SinkStream) : Run Int := do
  let metadata := if stream.position = 0 then identityMetadata env env.streamRef r stream.generation
    else []
  refuseIf (metadataBytes metadata > 8192) .metadataTooLarge
  let reply ← append plan stream data metadata
  let expected := stream.position + data.length
  if reply.2.isSome ∨ reply.1 ≠ expected then
    recoverAppendResult env plan r stream reply.1 expected reply.2
  else pure reply.1

def consumeData (data : List UInt8) : Run Unit := do
  refuseIf ((data.length : Int) > env.cfg.maxObjectBytes) .batchTooLarge
  ofExcept (validateResource env r)
  let stream ← getStream env plan r
  let prepared ← prepareGeneration env plan r data.length stream
  let recorded ← recordIntent env plan r data prepared
  let next ← appendData env plan r data recorded
  let _ ← storeStream plan .putAppended { recorded with position := next, appendIntent := none } r
  pure ()

def consume (batch : Batch) : Run Unit :=
  match batch.items with
  | [] => pure ()
  | first :: rest => do
      refuseIf (rest.any fun item => item.record.resource ≠ first.record.resource)
        .inconsistentResources
      consumeData env plan first.record.resource (encodeBatch env.time.formatNano batch)

def verifyClosedObjects (r : Resource) : Nat → List ClosedObject → Run Unit
  | _, [] => pure ()
  | index, o :: objects => do
      ofExcept (validateOSSObjectKey o.key)
      refuseIf (o.generation ≠ index ∨ o.key ≠ objectKeyOf env r o.generation) .closedLayout
      match ← head env plan (.headClosed o.generation) o.key with
      | .error e => fail (existingObjectError e)
      | .ok metadata => do
          refuseIf (metadata.size ≠ o.size ∨ metadata.crc64 ≠ o.crc64) .closedObjectChanged
          ofExcept (validateObjectIdentity env metadata o.generation env.streamRef r)
          verifyClosedObjects r (index + 1) objects

def recordFinalized (revision : Nat) : Run Unit := do
  putSinkStream plan .putFinalized { stream with finalizedRevision := revision }
  update World.deleteCachedStream

def writeMarker (key : String) (raw : List UInt8) : Run (Option SinkError) :=
  catchError (do
    let existing ← read fun w => w.markers.lookup key
    perform (plan .putMarker) (World.putMarker key raw)
      (fun n w => if n = 0 then w else w.putMarker key raw)
      (fun n w => if n = 0 then w else w.putMarker key raw) (.io .putMarker)
    pure (existing.map fun _ => .markerExists)) fun e => pure (some e)

def publishMarker (key : String) (raw : List UInt8) : Run Unit := do
  match ← writeMarker plan key raw with
  | none => pure ()
  | some cause => do
      catchError (io plan .getMarker) fun e => fail (.joined cause e)
      match ← read fun w => w.markers.lookup key with
      | none => fail (.joined cause .notFound)
      | some existing => refuseIf (existing ≠ raw) .markerConflict

def closeWritten : Run SinkStream :=
  if stream.position > 0 then closeGeneration env plan r stream else pure stream

def encodeMarker (request : FinalizeRequest) (objects : List ClosedObject) :
    Except SinkError (List UInt8) :=
  (Marker.encode env.time (Marker.new env.time request objects)).mapError fun e =>
    .permanent (.markerInvalid e)

def finalize (request : FinalizeRequest) : Run Unit := do
  ofExcept (validateResource env request.resource)
  let key := markerKeyOf env request.resource request.revision
  ofExcept (validateOSSObjectKey key)
  io plan .preflight
  let stream ← getStream env plan request.resource
  let closed ← closeWritten env plan request.resource stream
  verifyClosedObjects env plan request.resource 0 closed.closedObjects
  refuseIf (request.revision < closed.finalizedRevision ∨
    request.revision > uint64 (closed.finalizedRevision + 1)) .revisionNotContinuous
  let raw ← ofExcept (encodeMarker env request closed.closedObjects)
  publishMarker plan key raw
  recordFinalized plan closed request.revision

end Sink

end OpenSandbox.NodeAgent.OssSink
