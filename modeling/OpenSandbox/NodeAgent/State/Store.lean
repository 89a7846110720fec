import Mathlib.Data.List.AList
import OpenSandbox.Library.Runs
import OpenSandbox.Library.SecondaryIndex
import OpenSandbox.NodeAgent.State.Records

namespace OpenSandbox.NodeAgent

open Outcome

abbrev Bucket (K V : Type) [DecidableEq K] := AList fun _ : K => V

inductive SourceRecord where
  | checkpoint (c : FileCheckpoint)
  | stream (s : SourceStream)
  deriving DecidableEq

def SourceRecord.streamRef : SourceRecord → String
  | .checkpoint c => c.streamRef
  | .stream s => s.streamRef

def preferCheckpoint (left right : FileCheckpoint) : Bool :=
  if left.revision ≠ right.revision then left.revision > right.revision
  else if left.offset ≠ right.offset then left.offset > right.offset
  else if left.observedSize ≠ right.observedSize then left.observedSize > right.observedSize
  else if left.modTimeUnixNano ≠ right.modTimeUnixNano then
    left.modTimeUnixNano > right.modTimeUnixNano
  else left.path > right.path

def checkpointCursorRegresses (candidate persisted : FileCheckpoint) : Bool :=
  candidate.revision < persisted.revision ||
    (candidate.revision = persisted.revision && candidate.offset < persisted.offset)

def decodeFileCheckpoint : SourceRecord → Except StateError (Option FileCheckpoint)
  | .stream _ => .ok none
  | .checkpoint c =>
      if c.path = "" then .ok none
      else do
        validateFileCheckpoint c
        return some c

section Keyed

variable {K : Type} [DecidableEq K] (stateKey : String → String → K)

structure FileBuckets (K : Type) [DecidableEq K] where
  source : Bucket K SourceRecord
  index : Bucket K K

structure DB (K : Type) [DecidableEq K] extends FileBuckets K where
  pipeline : Bucket K FinalizeIntent
  sink : Bucket K SinkStream

def DB.empty : DB K := ⟨⟨∅,∅⟩,∅,∅⟩

def sourceFileIndexKey (streamRef fileID : String) : K := stateKey streamRef fileID

def indexedFileCheckpoint (source : Bucket K SourceRecord) (checkpointKey : K)
    (streamRef fileID : String) : Except StateError FileCheckpoint :=
  match source.lookup checkpointKey with
  | none => .error (.indexMissingRecord streamRef fileID)
  | some record => do
      match ← decodeFileCheckpoint record with
      | none => .error (.indexOfOtherRecord streamRef fileID)
      | some c => do
          reject [
            (c.streamRef ≠ streamRef ∨ c.fileID ≠ fileID, .indexOfOtherRecord streamRef fileID),
            (stateKey c.streamRef c.path ≠ checkpointKey, .indexWrongKey streamRef fileID)]
          return c

def existingAtPath (source : Bucket K SourceRecord) (c : FileCheckpoint) :
    Except StateError (Option FileCheckpoint) :=
  match source.lookup (stateKey c.streamRef c.path) with
  | none => .ok none
  | some record => do
      match ← decodeFileCheckpoint record with
      | none => .error (.notACheckpoint c.path)
      | some existing =>
          if stateKey existing.streamRef existing.path = stateKey c.streamRef c.path then
            .ok (some existing)
          else .error (.notACheckpoint c.path)

def detachIndexed (files : FileBuckets K) (c : FileCheckpoint) :
    Except StateError (Bucket K SourceRecord) :=
  match files.index.lookup (sourceFileIndexKey stateKey c.streamRef c.fileID) with
  | none => .ok files.source
  | some indexedKey => do
      let indexed ← indexedFileCheckpoint stateKey files.source indexedKey c.streamRef c.fileID
      if indexedKey = stateKey c.streamRef c.path then
        if checkpointCursorRegresses c indexed then .error (.superseded c indexed)
        else .ok files.source
      else if preferCheckpoint c indexed then .ok (files.source.erase indexedKey)
      else .error (.superseded c indexed)

def evictIndex (index : Bucket K K) (c : FileCheckpoint) : Option FileCheckpoint → Bucket K K
  | none => index
  | some existing =>
      let oldIndexKey := sourceFileIndexKey stateKey existing.streamRef existing.fileID
      if existing.fileID ≠ c.fileID ∧
          index.lookup oldIndexKey = some (stateKey c.streamRef c.path) then
        index.erase oldIndexKey
      else index

def putFileCheckpoint (files : FileBuckets K) (c : FileCheckpoint) :
    Except StateError (FileBuckets K) := do
  let existing ← existingAtPath stateKey files.source c
  let source ← detachIndexed stateKey files c
  let index := files.index.insert (sourceFileIndexKey stateKey c.streamRef c.fileID)
    (stateKey c.streamRef c.path)
  return ⟨source.insert (stateKey c.streamRef c.path) (.checkpoint c),
    evictIndex stateKey index c existing⟩

def putFileCheckpoints : FileBuckets K → List FileCheckpoint → Except StateError (FileBuckets K)
  | files, [] => .ok files
  | files, c :: cs => do
      let files ← putFileCheckpoint stateKey files c
      putFileCheckpoints files cs

def mergeCheckpoint (c : FileCheckpoint) : List FileCheckpoint → List FileCheckpoint
  | [] => [c]
  | d :: ds =>
      if sourceFileIndexKey stateKey d.streamRef d.fileID =
          sourceFileIndexKey stateKey c.streamRef c.fileID then
        (if preferCheckpoint c d then c else d) :: ds
      else d :: mergeCheckpoint c ds

def normalizeFileCheckpoints (cs : List FileCheckpoint) : List FileCheckpoint :=
  cs.foldl (fun normalized c => mergeCheckpoint stateKey c normalized) []

def validateBatch (streamRef : String) (cs : List FileCheckpoint) : Except StateError Unit :=
  cs.forM fun c => do
    reject [(c.streamRef ≠ streamRef, .checkpointOfOtherStream)]
    validateFileCheckpoint c

def DB.commitSource (db : DB K) (checkpoints : List FileCheckpoint) (stream : SourceStream) :
    Except StateError (DB K) := do
  validateSourceStream stream
  validateBatch stream.streamRef checkpoints
  let files ← putFileCheckpoints stateKey db.toFileBuckets
    (normalizeFileCheckpoints stateKey checkpoints)
  return { db with
    source := files.source.insert (stateKey "stream" stream.streamRef) (.stream stream)
    index := files.index }

def DB.putSourceStream (db : DB K) (stream : SourceStream) : Except StateError (DB K) := do
  validateSourceStream stream
  return { db with
    source := db.source.insert (stateKey "stream" stream.streamRef) (.stream stream) }

def keysWhere {V : Type} (p : V → Bool) (bucket : Bucket K V) : List K :=
  (bucket.entries.filter fun entry => p entry.2).map (·.1)

def eraseAll {V : Type} (bucket : Bucket K V) (keys : List K) : Bucket K V :=
  keys.foldl (fun b key => b.erase key) bucket

def checkpointIndexKey (streamRef : String) : SourceRecord → Option K
  | .stream _ => none
  | .checkpoint c =>
      if c.streamRef = streamRef ∧ c.path ≠ "" then
        some (sourceFileIndexKey stateKey streamRef c.fileID)
      else none

def DB.deleteStream (db : DB K) (streamRef : String) : DB K where
  source := eraseAll db.source (keysWhere (fun r => r.streamRef = streamRef) db.source)
  index := eraseAll db.index
    (db.source.entries.filterMap fun entry => checkpointIndexKey stateKey streamRef entry.2)
  pipeline := eraseAll db.pipeline (keysWhere (fun i => i.streamRef = streamRef) db.pipeline)
  sink := eraseAll db.sink (keysWhere (fun s => s.streamRef = streamRef) db.sink)

def expectIndex (index : Bucket K K) :
    Bucket K K → List (Sigma fun _ : K => SourceRecord) → Except StateError (Bucket K K)
  | expected, [] => .ok expected
  | expected, ⟨key,record⟩ :: rest => do
      match ← decodeFileCheckpoint record with
      | none => expectIndex index expected rest
      | some c => do
          let indexKey := sourceFileIndexKey stateKey c.streamRef c.fileID
          reject [
            (stateKey c.streamRef c.path ≠ key, .nonCanonicalKey),
            ((expected.lookup indexKey).isSome, .duplicateIndexKey),
            (index.lookup indexKey ≠ some key, .indexMismatch c.streamRef c.fileID)]
          expectIndex index (expected.insert indexKey key) rest

def validateIndexEntry (expected : Bucket K K) (entry : Sigma fun _ : K => K) :
    Except StateError Unit :=
  match expected.lookup entry.1 with
  | none => .error .indexWithoutCheckpoint
  | some key => if entry.2 = key then .ok () else .error .indexWithoutCheckpoint

def validateSourceFileIndex (files : FileBuckets K) : Except StateError Unit := do
  let expected ← expectIndex stateKey files.index ∅ files.source.entries
  files.index.entries.forM (validateIndexEntry expected)

def validateStoredSource (entry : Sigma fun _ : K => SourceRecord) : Except StateError Unit :=
  match entry.2 with
  | .checkpoint c =>
      if c.path ≠ "" then .ok ()
      else .error (.invalidSourceStream c.streamRef c.revision)
  | .stream s => do
      validateSourceStream s
      reject [(entry.1 ≠ stateKey "stream" s.streamRef, .nonCanonicalKey)]

def validateStoredSink (entry : Sigma fun _ : K => SinkStream) : Except StateError Unit := do
  validateSinkStream entry.2
  reject [(entry.1 ≠ stateKey entry.2.sinkName entry.2.streamRef, .nonCanonicalKey)]

def validateStoredIntent (targetID : String) (entry : Sigma fun _ : K => FinalizeIntent) :
    Except StateError Unit := do
  validateFinalizeIntent entry.2
  reject [
    (entry.2.targetID ≠ targetID, .intentTargetMismatch),
    (entry.1 ≠ stateKey entry.2.streamRef (Decimal.formatUint entry.2.revision), .nonCanonicalKey)]

def validateStoredState (targetID : String) (db : DB K) : Except StateError Unit := do
  db.source.entries.forM (validateStoredSource stateKey)
  db.sink.entries.forM (validateStoredSink stateKey)
  db.pipeline.entries.forM (validateStoredIntent stateKey targetID)

def DB.initializeState (targetID : String) (db : DB K) : Except StateError Unit := do
  validateSourceFileIndex stateKey db.toFileBuckets
  validateStoredState stateKey targetID db

inductive Call where
  | commitSource (checkpoints : List FileCheckpoint) (stream : SourceStream)
  | putSourceStream (stream : SourceStream)
  | deleteStream (streamRef : String)

def Call.streamRef : Call → String
  | .commitSource _ stream | .putSourceStream stream => stream.streamRef
  | .deleteStream streamRef => streamRef

def DB.apply (db : DB K) : Call → Except StateError (DB K)
  | .commitSource checkpoints stream => db.commitSource stateKey checkpoints stream
  | .putSourceStream stream => db.putSourceStream stateKey stream
  | .deleteStream streamRef => .ok (db.deleteStream stateKey streamRef)

def FileBuckets.HasCheckpoint (files : FileBuckets K) (c : FileCheckpoint) : Prop :=
  ∃ key, files.source.lookup key = some (.checkpoint c)

def Next (db : DB K) (call : Call) (db' : DB K) : Prop :=
  db.apply stateKey call = .ok db' ∨ db' = db

def Reachable : DB K → Prop :=
  Runs.Reach (Next stateKey) (fun _ call => call.streamRef ≠ "stream") (· = DB.empty)

end Keyed

end OpenSandbox.NodeAgent
