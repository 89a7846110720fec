import OpenSandbox.Library.Crc64
import OpenSandbox.Library.Fallible
import OpenSandbox.NodeAgent.Marker

namespace OpenSandbox.NodeAgent.FileSink

open Fallible Prog

structure Config where
  root : String
  clusterID : String
  maxFileBytes : Int
  maxFiles : Int
  maxTotalBytes : Int

structure Env where
  cfg : Config
  streamRef : String
  time : TimeText
  sha256 : List UInt8 → String

inductive Site where
  | getState
  | mkdirFamily
  | openCurrent
  | statCurrent
  | quarantineMkdir
  | quarantineRename
  | quarantineSyncFamily
  | quarantineSync
  | reopenCurrent
  | restatCurrent
  | truncateIntent
  | syncIntent
  | seekCurrent
  | readCurrent
  | syncFamily
  | putOpened
  | recoverTruncate (retried : Bool)
  | recoverSync (retried : Bool)
  | recoverSeek (retried : Bool)
  | measureCapacity
  | syncClosing
  | closeFile
  | putClosed
  | putTransition
  | openNext
  | statNext
  | syncNext
  | putNext
  | putIntent
  | writeData
  | syncData
  | putAppended
  | context (n : Nat)
  | openClosed (generation : Nat)
  | statClosed (generation : Nat)
  | readClosed (generation : Nat)
  | closeClosed (generation : Nat)
  | mkdirMarker
  | readMarker
  | syncMarkerFound
  | removeTemp
  | putMarkerFound
  | openTemp
  | readTemp
  | truncateTemp
  | seekTemp
  | rewriteTemp
  | syncTempExisting
  | closeTempExisting
  | putMarkerIntent
  | createTemp
  | writeTemp
  | syncTemp
  | closeTemp
  | syncTempDir
  | renameMarker
  | rereadMarker
  | syncPublished
  | syncMarkerDir
  | putFinalized

inductive Refusal where
  | inconsistentResources
  | clusterMismatch
  | batchTooLarge
  | streamResourceChanged
  | streamReferenceMismatch
  | unsafeSegment
  | objectKeyMismatch
  | objectKeyMissing
  | closedWithIntent
  | identityMismatch
  | intentIdentityMismatch
  | intentSizeConflict
  | positionMismatch
  | crcStateInvalid
  | intentMismatch
  | generationLimit
  | transitionConflict
  | nextGenerationNotEmpty
  | unresolvedIntent
  | reservationNegative
  | reservationTooLarge
  | capacityOverflow
  | closedLayout
  | closedFileMissing
  | closedFileChanged
  | finalizeResourceChanged
  | revisionNotContinuous
  | markerInvalid (e : MarkerError)
  | markerConflict
  | markerIntentConflict
  | temporaryConflict

inductive SinkError where
  | io (site : Site)
  | permanent (reason : Refusal)
  | state (e : StateError)
  | capacityExhausted (limit : Int)
  | noOpenFile
  | joined (cause other : SinkError)

structure DiskFile where
  bytes : List UInt8
  stable : Nat
  peak : Nat
  device : Nat
  inode : Nat

namespace DiskFile

def append (data : List UInt8) (f : DiskFile) : DiskFile :=
  { f with
    bytes := f.bytes ++ data
    peak := max f.peak (f.bytes.length + data.length) }

def truncate (size : Nat) (f : DiskFile) : DiskFile :=
  { f with
    bytes := f.bytes.take size ++ List.replicate (size - f.bytes.length) 0
    stable := min f.stable size
    peak := max f.peak size }

def sync (f : DiskFile) : DiskFile :=
  { f with stable := f.bytes.length, peak := f.bytes.length }

def afterCrash (tail : List UInt8) (f : DiskFile) : DiskFile :=
  let bytes := f.bytes.take f.stable ++ tail.take (f.peak - f.stable)
  { f with bytes := bytes, stable := bytes.length, peak := bytes.length }

end DiskFile

structure Handle where
  path : String
  closed : Bool

structure Writer where
  stream : SinkStream
  resource : Resource
  file : Option Handle
  crc : BitVec 64

structure World where
  persisted : Option SinkStream
  writer : Option Writer
  files : GoMap DiskFile
  foreign : Int
  device : Nat
  nextInode : Nat
  capacityUsed : Int
  capacityKnown : Bool
  refused : List SinkStream
  committed : List (Nat × List UInt8)

abbrev Run (α : Type) := Prog World SinkError α

namespace World

def modifyFile (path : String) (f : DiskFile → DiskFile) (w : World) : World :=
  match w.files.lookup path with
  | none => w
  | some file => { w with files := w.files.insert path (f file) }

def createFile (path : String) (w : World) : World :=
  match w.files.lookup path with
  | some _ => w
  | none => { w with
      files := w.files.insert path ⟨[],0,0,w.device,w.nextInode⟩
      nextInode := w.nextInode + 1 }

def updateWriter (f : Writer → Writer) (w : World) : World :=
  { w with writer := w.writer.map f }

def dropWriter (w : World) : World := { w with writer := none }

def invalidateCapacity (w : World) : World := { w with capacityUsed := 0, capacityKnown := false }

def adjustCapacity (delta : Int) (w : World) : World :=
  if w.capacityKnown = false then w
  else if (delta > 0 ∧ w.capacityUsed > maxInt64 - delta) ∨ delta = -maxInt64 - 1 ∨
      (delta < 0 ∧ w.capacityUsed < -delta) then w.invalidateCapacity
  else { w with capacityUsed := w.capacityUsed + delta }

def measure (w : World) : Int :=
  w.files.entries.foldl (fun sum entry => sum + entry.2.bytes.length) w.foreign

def quarantine (path : String) (w : World) : World :=
  match w.files.lookup path with
  | none => w
  | some file => { w with
      files := w.files.erase path
      foreign := w.foreign + file.bytes.length }

def restart (tails : String → List UInt8) (w : World) : World :=
  { w with
    writer := none
    files := GoMap.mapValues (fun path file => file.afterCrash (tails path)) w.files
    capacityUsed := 0
    capacityKnown := false }

end World

section Sink

variable (env : Env) (plan : Site → Fate)

def io (site : Site) : Run Unit := attempt (plan site) (.io site)

def refuse {α : Type} (reason : Refusal) : Run α := fail (.permanent reason)

def refuseIf (refused : Bool) (reason : Refusal) : Run Unit := check refused (.permanent reason)

variable (r : Resource) (site : Site) (stream : SinkStream)

def changeDisk (change : World → World) : Run Unit :=
  perform (plan site) change (fun n w => if n = 0 then w else change w)
    (fun n w => if n = 0 then w else change w) (.io site)

def openNoFollow (path : String) : Run Unit :=
  changeDisk plan site (World.createFile path)

def statFile (path : String) : Run DiskFile := do
  io plan site
  read fun w => (w.files.lookup path).getD ⟨[],0,0,0,0⟩

def onHandle (handle : Handle) (m : Run Unit) : Run Unit := do
  check handle.closed (.io site)
  m

def truncateFile (handle : Handle) (size : Int) : Run Unit :=
  onHandle site handle
    (changeDisk plan site (World.modifyFile handle.path (DiskFile.truncate size.toNat)))

def syncFile (handle : Handle) : Run Unit :=
  onHandle site handle
    (perform (plan site) (World.modifyFile handle.path DiskFile.sync) (fun _ w => w) (fun _ w => w)
      (.io site))

def writeFull (handle : Handle) (data : List UInt8) : Run Unit :=
  onHandle site handle
    (perform (plan site) (World.modifyFile handle.path (DiskFile.append data))
      (fun n => World.modifyFile handle.path (DiskFile.append (data.take n)))
      (fun n => World.modifyFile handle.path (DiskFile.append (data.take n))) (.io site))

def putSinkStreamWith (also : World → World) : Run Unit := do
  check (stream.sinkName ≠ "" ∧ stream.sinkName ≠ "file") (.state .sinkNameMismatch)
  let stored := { stream with sinkName := "file" }
  match validateSinkStream stored with
  | .error e => do
      update fun w => { w with refused := w.refused ++ [stored] }
      fail (.state e)
  | .ok () =>
      perform (plan site) (fun w => also { w with persisted := some stored }) (fun _ w => w)
        (fun n w => if n = 0 then w else also { w with persisted := some stored }) (.io site)

def putSinkStream : Run Unit :=
  putSinkStreamWith plan site stream id

def getSinkStream : Run (Option SinkStream) := do
  io plan .getState
  let stored ← read (·.persisted)
  match stored with
  | none => pure none
  | some stream => do
      ofExcept ((validateSinkStream stream).mapError .state)
      check (stream.sinkName ≠ "file" ∨ stream.streamRef ≠ env.streamRef)
        (.state .sinkNameMismatch)
      pure (some stream)

def currentWriter : Run Writer := do
  match ← read (·.writer) with
  | none => fail .noOpenFile
  | some w => pure w

def familyDir : Except SinkError String :=
  if r.segments.any unsafeSegment then .error (.permanent .unsafeSegment)
  else .ok (joinPath [env.cfg.root,familyPrefixOf "" r])

def objectKeyOf (generation : Nat) : String :=
  dataKey (familyPrefixOf "" r) r.container generation

def generationPath (dir : String) (r : Resource) (generation : Nat) : String :=
  joinPath [dir,generationName r.container generation]

def closedLayoutOk (r : Resource) : Nat → List ClosedObject → Bool
  | _, [] => true
  | index, o :: objects =>
      o.generation = index && o.key = objectKeyOf r o.generation &&
        closedLayoutOk r (index + 1) objects

def validateClosedFileLayout : Except SinkError Unit := do
  let _ ← familyDir env r
  let expectedClosed := if stream.currentClosed then stream.generation + 1 else stream.generation
  Outcome.reject [
    (stream.closedObjects.length ≠ expectedClosed, .permanent .closedLayout),
    (closedLayoutOk r 0 stream.closedObjects = false, .permanent .closedLayout),
    (stream.currentClosed && !(stream.closedObjects.getLast?.any fun current =>
      current.key = stream.objectKey && current.size = stream.position), .permanent .closedLayout)]

def loadCapacity : Run Unit := do
  let known ← read (·.capacityKnown)
  if known then pure ()
  else do
    io plan .measureCapacity
    let used ← read World.measure
    refuseIf (used > maxInt64) .capacityOverflow
    update fun w => { w with capacityUsed := used, capacityKnown := true }

def admitReservation (additional : Int) : Run Unit := do
  let used ← read (·.capacityUsed)
  if used > env.cfg.maxTotalBytes ∨ additional > env.cfg.maxTotalBytes - used then
    if additional > env.cfg.maxTotalBytes then refuse .reservationTooLarge
    else fail (.capacityExhausted env.cfg.maxTotalBytes)
  else pure ()

def reserveCapacity (additional : Int) : Run Unit := do
  refuseIf (additional < 0) .reservationNegative
  if env.cfg.maxTotalBytes ≤ 0 then pure ()
  else do
    loadCapacity plan
    admitReservation env additional

def quarantineOrphan (path : String) : Run Unit := do
  io plan .quarantineMkdir
  changeDisk plan .quarantineRename (World.quarantine path)
  io plan .quarantineSyncFamily
  io plan .quarantineSync

def newSinkStream : SinkStream where
  sinkName := "file"
  streamRef := env.streamRef
  generation := 0
  position := 0
  device := 0
  inode := 0
  crc64State := []
  objectKey := ""
  appendIntent := none
  generationTransition := none
  markerIntent := none
  closedObjects := []
  currentClosed := false
  finalizedRevision := 0
  cleanupPhase := ""
  cleanupPath := ""

def openGenerationFile (found : Bool) (path : String) : Run DiskFile := do
  io plan .mkdirFamily
  openNoFollow plan .openCurrent path
  let info ← statFile plan .statCurrent path
  if found = false ∧ info.bytes.length ≠ 0 then do
    quarantineOrphan plan path
    openNoFollow plan .reopenCurrent path
    statFile plan .restatCurrent path
  else pure info

def resolveIntent (path : String) (info : DiskFile) (stream : SinkStream) (intent : AppendIntent) :
    Run (SinkStream × Int) := do
  refuseIf (intent.device ≠ 0 ∧ (intent.device ≠ info.device ∨ intent.inode ≠ info.inode))
    .intentIdentityMismatch
  let size : Int := info.bytes.length
  refuseIf (size < intent.position ∨ size > intent.position + intent.length) .intentSizeConflict
  let handle : Handle := ⟨path,false⟩
  truncateFile plan .truncateIntent handle intent.position
  onError (syncFile plan .syncIntent handle) World.invalidateCapacity
  update (World.adjustCapacity (intent.position - size))
  pure ({ stream with position := intent.position, appendIntent := none }, intent.position)

def loadCrc (path : String) (stream : SinkStream) : Run (BitVec 64) := do
  if stream.crc64State ≠ [] then
    match Crc64.unmarshalBinary stream.crc64State with
    | none => refuse .crcStateInvalid
    | some crc => pure crc
  else if stream.position > 0 then do
    io plan .readCurrent
    let file ← read fun w => w.files.lookup path
    pure (Crc64.checksum ((file.map (·.bytes)).getD [] |>.take stream.position.toNat))
  else pure Crc64.init

def attachWriter (r : Resource) (path : String) : Run Unit := do
  io plan .seekCurrent
  let crc ← loadCrc plan path stream
  update fun w => { w with writer := some ⟨stream,r,some ⟨path,false⟩,crc⟩ }
  onError (do
    io plan .syncFamily
    putSinkStream plan .putOpened stream) World.dropWriter

def settleIntent (found : Bool) (path : String) (info : DiskFile) (stream : SinkStream) :
    Run (SinkStream × Int) :=
  match found, stream.appendIntent with
  | true, some intent => resolveIntent plan path info stream intent
  | _, _ => pure (stream, (info.bytes.length : Int))

def openCurrent (found : Bool) (stream : SinkStream) (r : Resource) (path : String) :
    Run Unit := do
  let info ← openGenerationFile plan found path
  refuseIf (found ∧ stream.device ≠ 0 ∧
    (stream.device ≠ info.device ∨ stream.inode ≠ info.inode)) .identityMismatch
  let settled ← settleIntent plan found path info
    { stream with device := info.device, inode := info.inode }
  refuseIf (settled.2 ≠ settled.1.position) .positionMismatch
  attachWriter plan settled.1 r path

def openStream (found : Bool) (stream : SinkStream) (r : Resource) (path : String) : Run Unit :=
  if stream.currentClosed then do
    refuseIf stream.appendIntent.isSome .closedWithIntent
    update fun w => { w with writer := some ⟨stream,r,none,Crc64.init⟩ }
  else openCurrent plan found stream r path

def openWriter : Run Unit := do
  let stored ← getSinkStream env plan
  let stream := stored.getD (newSinkStream env)
  let dir ← ofExcept (familyDir env r)
  let key := objectKeyOf r stream.generation
  refuseIf (stored.isSome ∧ stream.objectKey ≠ "" ∧ stream.objectKey ≠ key) .objectKeyMismatch
  refuseIf (stored.isSome ∧ stream.objectKey = "" ∧
    (stream.position ≠ 0 ∨ stream.currentClosed ∨ stream.closedObjects.length ≠ 0))
    .objectKeyMissing
  let stream := { stream with objectKey := key }
  ofExcept (if stored.isSome then validateClosedFileLayout env r stream else .ok ())
  openStream plan stored.isSome stream r (generationPath dir r stream.generation)

def getWriter : Run Unit := do
  match ← read (·.writer) with
  | some existing => refuseIf (existing.resource ≠ r) .streamResourceChanged
  | none => openWriter env plan r

def lastGeneration (objects : List ClosedObject) : Option Nat :=
  objects.getLast?.map (·.generation)

def closedStream (crc : BitVec 64) : SinkStream :=
  let object : ClosedObject :=
    ⟨stream.objectKey,stream.generation,stream.position,Decimal.formatUint crc.toNat⟩
  { stream with
    currentClosed := true
    closedObjects :=
      if lastGeneration stream.closedObjects = some stream.generation then stream.closedObjects
      else stream.closedObjects ++ [object] }

def closeHandle (handle : Handle) : Run Unit :=
  onHandle .closeFile handle
    (perform (plan .closeFile) id
      (fun _ => World.updateWriter fun w => { w with file := some ⟨handle.path,true⟩ })
      (fun _ w => w) (.io .closeFile))

def closeGeneration : Run Unit := do
  let w ← currentWriter
  match w.file with
  | none => pure ()
  | some handle => do
      refuseIf w.stream.appendIntent.isSome .unresolvedIntent
      syncFile plan .syncClosing handle
      closeHandle plan handle
      let closed := closedStream w.stream w.crc
      update (World.updateWriter fun w => { w with file := none, stream := closed })
      putSinkStream plan .putClosed closed

def generationLimited : Bool :=
  env.cfg.maxFiles ≤ 0 || (stream.generation : Int) ≥ env.cfg.maxFiles - 1

def setTransition (transition : Option GenerationTransition) : World → World :=
  World.updateWriter fun w =>
    { w with stream := { w.stream with generationTransition := transition } }

def recordTransition (transition : GenerationTransition) : Run Unit :=
  match stream.generationTransition with
  | none => do
      update (setTransition (some transition))
      onError
        (putSinkStream plan .putTransition { stream with generationTransition := some transition })
        (setTransition none)
  | some recorded => refuseIf (recorded ≠ transition) .transitionConflict

def nextStream (key : String) (info : DiskFile) : SinkStream :=
  { stream with
    generation := stream.generation + 1
    position := 0
    device := info.device
    inode := info.inode
    crc64State := []
    currentClosed := false
    objectKey := key
    generationTransition := none }

def startNextGeneration : Run Unit := do
  let w ← currentWriter
  refuseIf (generationLimited env w.stream) .generationLimit
  let next := w.stream.generation + 1
  let dir ← ofExcept (familyDir env w.resource)
  let path := generationPath dir w.resource next
  let key := objectKeyOf w.resource next
  recordTransition plan w.stream ⟨w.stream.generation,next,key⟩
  openNoFollow plan .openNext path
  let info ← statFile plan .statNext path
  refuseIf (info.bytes.length ≠ 0) .nextGenerationNotEmpty
  io plan .syncNext
  let started := nextStream w.stream key info
  update (World.updateWriter fun w =>
    { w with stream := started, file := some ⟨path,false⟩, crc := Crc64.init })
  putSinkStream plan .putNext started

def rollover : Run Unit := do
  closeGeneration plan
  startNextGeneration env plan

def fileAppendIntent (length : Int) (digest : String) : AppendIntent :=
  ⟨stream.position,length,digest,stream.device,stream.inode⟩

def restoredCrc : Option (BitVec 64) :=
  if stream.crc64State ≠ [] then Crc64.unmarshalBinary stream.crc64State else some Crc64.init

def recoverAppend (retried : Bool) : Run Unit := do
  let w ← currentWriter
  match w.stream.appendIntent with
  | none => pure ()
  | some intent =>
      match w.file with
      | none => fail .noOpenFile
      | some handle => do
          truncateFile plan (.recoverTruncate retried) handle intent.position
          syncFile plan (.recoverSync retried) handle
          io plan (.recoverSeek retried)
          match restoredCrc w.stream with
          | none => refuse .crcStateInvalid
          | some crc => update (World.updateWriter fun w => { w with crc := crc })

def recoverFailedAppend (cause : SinkError) : Run Unit := do
  catchError (recoverAppend plan true) fun other => do
    update World.invalidateCapacity
    fail (.joined cause other)
  fail cause

def appendedStream (crc : BitVec 64) (length : Int) : SinkStream :=
  { stream with
    position := stream.position + length
    crc64State := Crc64.marshalBinary crc
    appendIntent := none }

def appendData (data : List UInt8) : Run Unit := do
  let w ← currentWriter
  match w.file with
  | none => fail .noOpenFile
  | some handle => do
      writeFull plan .writeData handle data
      syncFile plan .syncData handle
      update (World.updateWriter fun w => { w with crc := Crc64.write w.crc data })
      let next := appendedStream w.stream (Crc64.write w.crc data) data.length
      putSinkStreamWith plan .putAppended next fun world =>
        { world with committed := world.committed ++ [(next.generation, data)] }
      update (World.updateWriter fun w => { w with stream := next })
      update (World.adjustCapacity data.length)

def setIntent (intent : Option AppendIntent) : World → World :=
  World.updateWriter fun w => { w with stream := { w.stream with appendIntent := intent } }

def recordIntent (length : Int) (digest : String) : Run Unit := do
  let w ← currentWriter
  let intent := fileAppendIntent w.stream length digest
  match w.stream.appendIntent with
  | none => do
      update (setIntent (some intent))
      onError (putSinkStream plan .putIntent { w.stream with appendIntent := some intent })
        (setIntent none)
  | some recorded => refuseIf (recorded ≠ intent) .intentMismatch

def resumeIntent (length : Int) (digest : String) : Run Unit := do
  let w ← currentWriter
  match w.stream.appendIntent with
  | none => pure ()
  | some recorded => do
      refuseIf (recorded ≠ fileAppendIntent w.stream length digest) .intentMismatch
      recoverAppend plan false

def prepareGeneration (length : Int) : Run Unit := do
  let w ← currentWriter
  let full := w.stream.position > 0 ∧ w.stream.position > env.cfg.maxFileBytes - length
  refuseIf ((w.stream.currentClosed ∨ full) ∧ generationLimited env w.stream) .generationLimit
  reserveCapacity env plan length
  if w.stream.currentClosed then startNextGeneration env plan
  else if full then rollover env plan
  else pure ()

def consumeData (data : List UInt8) : Run Unit := do
  refuseIf (r.clusterName ≠ env.cfg.clusterID) .clusterMismatch
  refuseIf ((data.length : Int) > env.cfg.maxFileBytes) .batchTooLarge
  getWriter env plan r
  resumeIntent plan data.length (env.sha256 data)
  prepareGeneration env plan data.length
  recordIntent plan data.length (env.sha256 data)
  catchError (appendData plan data) (recoverFailedAppend plan)

def consume (batch : Batch) : Run Unit :=
  match batch.items with
  | [] => pure ()
  | first :: rest => do
      refuseIf (rest.any fun item => item.record.resource ≠ first.record.resource)
        .inconsistentResources
      consumeData env plan first.record.resource (encodeBatch env.time.formatNano batch)

end Sink

end OpenSandbox.NodeAgent.FileSink
