import OpenSandbox.NodeAgent.FileSink.Model

namespace OpenSandbox.NodeAgent.FileSink

open Fallible Prog

namespace World

def removeFile (path : String) (w : World) : World := { w with files := w.files.erase path }

def linkFile (source target : String) (w : World) : World :=
  match w.files.lookup source with
  | none => w
  | some file => { w with files := w.files.insert target file }

def renameFile (source target : String) (w : World) : World :=
  (w.linkFile source target).removeFile source

end World

section Finalize

variable (env : Env) (plan : Site → Fate)

variable (request : FinalizeRequest) (stream : SinkStream) (path : String)

def encodeMarker (objects : List ClosedObject) : Except SinkError (List UInt8) :=
  (Marker.encode env.time (Marker.new env.time request objects)).mapError fun e =>
    .permanent (.markerInvalid e)

def markerPath (dir : String) (request : FinalizeRequest) : String :=
  joinPath [dir,markerName request.resource.container request.revision]

def temporaryName (digest : String) : String :=
  "." ++ request.resource.container ++ ".finalized." ++ Decimal.formatUint request.revision ++
    "." ++ String.ofList (digest.toList.take 16) ++ ".tmp"

def temporaryPath (dir : String) (request : FinalizeRequest) (digest : String) : String :=
  joinPath [dir,temporaryName request digest]

def markerIntentOf (dir : String) (request : FinalizeRequest) (raw : List UInt8) : MarkerIntent :=
  ⟨request.revision,markerPath dir request,temporaryPath dir request (env.sha256 raw),
    env.sha256 raw⟩

def verifyClosedFile (o : ClosedObject) : Run Unit := do
  io plan (.context (4 + o.generation))
  io plan (.openClosed o.generation)
  match ← read fun w => w.files.lookup (joinPath [env.cfg.root,o.key]) with
  | none => refuse .closedFileMissing
  | some file => do
      io plan (.statClosed o.generation)
      refuseIf ((file.bytes.length : Int) ≠ o.size) .closedFileChanged
      io plan (.readClosed o.generation)
      io plan (.closeClosed o.generation)
      refuseIf (Decimal.formatUint (Crc64.checksum file.bytes).toNat ≠ o.crc64) .closedFileChanged

def verifyEach : List ClosedObject → Run Unit
  | [] => pure ()
  | o :: objects => do
      verifyClosedFile env plan o
      verifyEach objects

def verifyClosedFiles (r : Resource) (stream : SinkStream) : Run Unit := do
  io plan (.context 2)
  ofExcept (validateClosedFileLayout env r stream)
  verifyEach env plan stream.closedObjects

def closeWriter : Run SinkStream := do
  let w ← currentWriter
  refuseIf (w.resource ≠ request.resource) .finalizeResourceChanged
  closeGeneration plan
  let closed ← currentWriter
  pure closed.stream

def finalizeTarget : Run SinkStream := do
  match ← read (·.writer) with
  | some _ => closeWriter plan request
  | none => do
      match ← getSinkStream env plan with
      | none => pure (newSinkStream env)
      | some stored =>
          if stored.currentClosed then pure stored
          else do
            getWriter env plan request.resource
            closeWriter plan request

def removeTemporaryMarker : Run Unit :=
  catchError (changeDisk plan .removeTemp (World.removeFile path)) fun _ => pure ()

def recordFinalized (site : Site) (stream : SinkStream) (revision : Nat) : Run Unit := do
  let finalized := { stream with finalizedRevision := revision, markerIntent := none }
  putSinkStream plan site finalized
  update (World.updateWriter fun w => { w with stream := finalized })

def adoptMarker (revision : Nat) (temporary : String) (raw : List UInt8) (existing : DiskFile) :
    Run Unit := do
  refuseIf (existing.bytes ≠ raw) .markerConflict
  io plan .syncMarkerFound
  removeTemporaryMarker plan temporary
  update World.invalidateCapacity
  recordFinalized plan .putMarkerFound stream revision

def rewriteTemporary (raw : List UInt8) : Run Unit := do
  let handle : Handle := ⟨path,false⟩
  truncateFile plan .truncateTemp handle 0
  io plan .seekTemp
  writeFull plan .rewriteTemp handle raw
  syncFile plan .syncTempExisting handle
  io plan .closeTempExisting

def conflictsWith (raw existing : List UInt8) : Bool :=
  stream.markerIntent.isNone || decide (existing.length ≥ raw.length) ||
    decide (existing ≠ raw.take existing.length)

def resumeTemporary (raw : List UInt8) (existing : DiskFile) : Run Unit := do
  io plan .readTemp
  if existing.bytes = raw then do
    syncFile plan .syncTempExisting ⟨path,false⟩
    io plan .closeTempExisting
  else do
    refuseIf (conflictsWith stream raw existing.bytes) .temporaryConflict
    let additional : Int := raw.length - existing.bytes.length
    reserveCapacity env plan additional
    onError (rewriteTemporary plan path raw) World.invalidateCapacity
    update (World.adjustCapacity additional)

def writeTemporary (raw : List UInt8) : Run Unit := do
  let handle : Handle := ⟨path,false⟩
  writeFull plan .writeTemp handle raw
  syncFile plan .syncTemp handle
  io plan .closeTemp

def createTemporary (raw : List UInt8) : Run Unit := do
  openNoFollow plan .createTemp path
  onError (writeTemporary plan path raw) World.invalidateCapacity
  update (World.adjustCapacity raw.length)

def recordMarkerIntent (intent : MarkerIntent) : Run SinkStream :=
  match stream.markerIntent with
  | some _ => pure stream
  | none => do
      let recorded := { stream with markerIntent := some intent }
      putSinkStream plan .putMarkerIntent recorded
      pure recorded

def stageMarker (intent : MarkerIntent) (raw : List UInt8) : Run SinkStream := do
  refuseIf (stream.markerIntent.any (· ≠ intent)) .markerIntentConflict
  io plan .openTemp
  match ← read fun w => w.files.lookup intent.tempPath with
  | some existing => do
      resumeTemporary env plan stream intent.tempPath raw existing
      recordMarkerIntent plan stream intent
  | none => do
      reserveCapacity env plan raw.length
      let recorded ← recordMarkerIntent plan stream intent
      createTemporary plan intent.tempPath raw
      pure recorded

def renameMarker (source target : String) : Run Unit := do
  match ← read fun w => w.files.lookup target with
  | some _ => fail (.io .renameMarker)
  | none =>
      perform (plan .renameMarker) (World.renameFile source target)
        (fun n w => if n = 0 then w else if n = 1 then w.linkFile source target
          else w.renameFile source target)
        (fun n w => if n = 0 then w else if n = 1 then w.linkFile source target
          else w.renameFile source target)
        (.io .renameMarker)

def adoptPublished (source target : String) (raw : List UInt8) (cause : SinkError) : Run Unit := do
  io plan .rereadMarker
  match ← read fun w => w.files.lookup target with
  | none => fail (.joined cause (.io .rereadMarker))
  | some existing => do
      refuseIf (existing.bytes ≠ raw) .markerConflict
      io plan .syncPublished
      removeTemporaryMarker plan source
      update World.invalidateCapacity

def publishMarker (source target : String) (raw : List UInt8) : Run Unit := do
  let failure ← catchError (do
    renameMarker plan source target
    pure none) fun e => pure (some e)
  match failure with
  | none => io plan .syncMarkerDir
  | some cause => adoptPublished plan source target raw cause

def finalizeNew (intent : MarkerIntent) (raw : List UInt8) : Run Unit := do
  let recorded ← stageMarker env plan stream intent raw
  io plan .syncTempDir
  onError (publishMarker plan intent.tempPath intent.path raw) World.invalidateCapacity
  recordFinalized plan .putFinalized recorded intent.revision

def finalize : Run Unit := do
  io plan (.context 0)
  io plan (.context 1)
  refuseIf (request.resource.clusterName ≠ env.cfg.clusterID) .clusterMismatch
  let stream ← finalizeTarget env plan request
  refuseIf (request.revision < stream.finalizedRevision ∨
    request.revision > uint64 (stream.finalizedRevision + 1)) .revisionNotContinuous
  verifyClosedFiles env plan request.resource stream
  io plan (.context 3)
  let raw ← ofExcept (encodeMarker env request stream.closedObjects)
  let dir ← ofExcept (familyDir env request.resource)
  io plan .mkdirMarker
  io plan .readMarker
  let intent := markerIntentOf env dir request raw
  match ← read fun w => w.files.lookup intent.path with
  | some existing =>
      adoptMarker plan stream request.revision intent.tempPath raw existing
  | none => finalizeNew env plan stream intent raw

end Finalize

end OpenSandbox.NodeAgent.FileSink
