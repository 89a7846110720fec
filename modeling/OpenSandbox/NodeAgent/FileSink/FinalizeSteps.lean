import OpenSandbox.NodeAgent.FileSink.Finalize
import OpenSandbox.NodeAgent.FileSink.Open

namespace OpenSandbox.NodeAgent.FileSink

open Fallible Prog SegmentLog

theorem joinPath_pair_suffix (a : String) {b : String} (hb : b ≠ "") :
    ∃ start, joinPath [a,b] = start ++ b := by
  by_cases ha : a = ""
  · exact ⟨"",by simp [joinPath,ha,hb]⟩
  · exact ⟨a ++ "/",joinPath_pair ha hb⟩

theorem getLast_append (start : String) {ending : String} {c : Char}
    (h : ending.toList.getLast? = some c) : (start ++ ending).toList.getLast? = some c := by
  rw [String.toList_append,List.getLast?_append,h]
  rfl

theorem getLast_joinPath (a : String) {b : String} {c : Char} (h : b.toList.getLast? = some c) :
    (joinPath [a,b]).toList.getLast? = some c := by
  have hb : b ≠ "" := by
    rintro rfl
    cases h
  obtain ⟨start,hstart⟩ := joinPath_pair_suffix a hb
  rw [hstart]
  exact getLast_append start h

theorem DataPath.last {env : Env} {path : String} (h : DataPath env path) :
    path.toList.getLast? = some 'g' := by
  obtain ⟨r,generation,rfl⟩ := h
  refine getLast_append _ (getLast_joinPath _ ?_)
  unfold generationName
  split_ifs
  all_goals exact getLast_append _ rfl

def OffData (env : Env) (path : String) : Prop := ¬ DataPath env path

theorem offData_markerPath (env : Env) (dir : String) (request : FinalizeRequest) :
    OffData env (markerPath dir request) := by
  intro h
  have hlast : (markerPath dir request).toList.getLast? = some 'n' :=
    getLast_joinPath dir (getLast_append _ rfl)
  rw [h.last] at hlast
  cases hlast

theorem offData_temporaryPath (env : Env) (dir : String) (request : FinalizeRequest)
    (digest : String) : OffData env (temporaryPath dir request digest) := by
  intro h
  have hlast : (temporaryPath dir request digest).toList.getLast? = some 'p' :=
    getLast_joinPath dir (getLast_append _ rfl)
  rw [h.last] at hlast
  cases hlast

structure SameData (env : Env) (strict : Prop) (w w' : World) : Prop where
  persisted : w'.persisted = w.persisted
  writer : w'.writer = w.writer
  committed : w'.committed = w.committed
  refused : strict → w'.refused = w.refused
  files : ∀ path, DataPath env path → w'.files.lookup path = w.files.lookup path

def Off (env : Env) (strict : Prop) {α : Type} (m : Run α) (w : World) : Prop :=
  (m w).Sat (fun _ w' => SameData env strict w w') (fun _ w' => SameData env strict w w')
    fun w' => SameData env strict w w'

section Frames

variable {env : Env} {strict : Prop} {plan : Site → Fate} {log : List (Nat × List UInt8)}
  {w w' w'' : World} {α β : Type} {path : String}

namespace SameData

theorem refl (w : World) : SameData env strict w w := ⟨rfl,rfl,rfl,fun _ => rfl,fun _ _ => rfl⟩

theorem trans (h : SameData env strict w w') (h' : SameData env strict w' w'') :
    SameData env strict w w'' where
  persisted := h'.persisted.trans h.persisted
  writer := h'.writer.trans h.writer
  committed := h'.committed.trans h.committed
  refused := fun hstrict => (h'.refused hstrict).trans (h.refused hstrict)
  files := fun path hdata => (h'.files path hdata).trans (h.files path hdata)

theorem of_same (h : SameSink strict w w') : SameData env strict w w' :=
  { h with files := fun _ _ => by rw [h.files] }

theorem kept (h : SameData env strict w w') (hkept : Kept env strict log w) :
    Kept env strict log w' := by
  refine .intro ?_ ?_ (h.committed.trans hkept.2) ?_
  · rw [h.persisted]
    refine hkept.disk.extend ?_ ?_
    · intro path f hdata hlookup
      rw [h.files path hdata,hlookup]
    · intro path f hdata hlookup
      exact .inl ((h.files path hdata).symm.trans hlookup)
  · intro wr hwr
    rw [h.persisted]
    refine (hkept.writerOk (h.writer.symm.trans hwr)).extend ?_
    intro path f hdata hlookup
    rw [h.files path hdata,hlookup]
  · intro hstrict
    rw [h.refused hstrict,hkept.accepted hstrict]

section

variable (hoff : OffData env path)

include hoff

theorem insert (f : DiskFile) (w : World) :
    SameData env strict w { w with files := w.files.insert path f } := by
  refine ⟨rfl,rfl,rfl,fun _ => rfl,?_⟩
  intro path' hdata
  refine AList.lookup_insert_ne ?_
  rintro rfl
  exact hoff hdata

theorem modifyFile (change : DiskFile → DiskFile) (w : World) :
    SameData env strict w (w.modifyFile path change) := by
  unfold World.modifyFile
  split
  · exact .refl w
  · exact insert hoff _ w

theorem createFile (w : World) : SameData env strict w (w.createFile path) := by
  unfold World.createFile
  split
  · exact .refl w
  · have h : SameData env strict w { w with
        files := w.files.insert path ⟨[],0,0,w.device,w.nextInode⟩ } := insert hoff _ w
    exact { h with }

theorem removeFile (w : World) : SameData env strict w (w.removeFile path) := by
  refine ⟨rfl,rfl,rfl,fun _ => rfl,?_⟩
  intro path' hdata
  refine AList.lookup_erase_ne ?_
  rintro rfl
  exact hoff hdata

end

theorem linkFile {target : String} (hoff : OffData env target) (source : String) (w : World) :
    SameData env strict w (w.linkFile source target) := by
  unfold World.linkFile
  split
  · exact .refl w
  · exact insert hoff _ w

theorem renameFile {source target : String} (hsource : OffData env source)
    (htarget : OffData env target) (w : World) :
    SameData env strict w (w.renameFile source target) :=
  (linkFile htarget source w).trans (removeFile hsource _)

end SameData

theorem off_pure (a : α) : Off env strict (pure a : Run α) w := SameData.refl w

variable {m : Run α}

theorem off_bind {f : α → Run β} (hm : Off env strict m w)
    (hf : ∀ a w', SameData env strict w w' → Off env strict (f a) w') :
    Off env strict (m >>= f) w := by
  refine sat_bind hm ?_
  intro a w' hsame
  exact (hf a w' hsame).mono (fun _ _ => hsame.trans) (fun _ _ => hsame.trans) fun _ => hsame.trans

theorem off_read (f : World → α) : Off env strict (read f : Run α) w := SameData.refl w

theorem off_fail (e : SinkError) : Off env strict (fail e : Run α) w := SameData.refl w

theorem off_io (site : Site) : Off env strict (io plan site) w :=
  sat_attempt (SameData.refl w) (SameData.refl w) (SameData.refl w)

theorem off_check (refused : Bool) (e : SinkError) : Off env strict (check refused e) w :=
  sat_check (fun _ => SameData.refl w) fun _ => SameData.refl w

theorem off_update {change : World → World} (h : SameData env strict w (change w)) :
    Off env strict (update change : Run Unit) w := h

theorem off_perform {fate : Fate} {full : World → World} {failed crashed : Nat → World → World}
    {e : SinkError} (hfull : SameData env strict w (full w))
    (hfailed : ∀ n, SameData env strict w (failed n w))
    (hcrashed : ∀ n, SameData env strict w (crashed n w)) :
    Off env strict (perform fate full failed crashed e) w :=
  sat_perform (fun _ => hfull) (fun n _ => hfailed n) fun n _ => hcrashed n

theorem off_changeDisk (site : Site) {change : World → World}
    (h : SameData env strict w (change w)) : Off env strict (changeDisk plan site change) w := by
  refine off_perform h ?_ ?_
  · intro n
    split_ifs
    · exact .refl w
    · exact h
  · intro n
    split_ifs
    · exact .refl w
    · exact h

theorem off_catchError {handle : SinkError → Run α} (hm : Off env strict m w)
    (hhandle : ∀ e w', SameData env strict w w' → Off env strict (handle e) w') :
    Off env strict (catchError m handle) w := by
  refine sat_catchError (hm.mono (fun _ _ => id) ?_ fun _ => id)
  intro e w' hsame
  exact (hhandle e w' hsame).mono (fun _ _ => hsame.trans) (fun _ _ => hsame.trans)
    fun _ => hsame.trans

theorem off_onError {cleanup : World → World} (hm : Off env strict m w)
    (hcleanup : ∀ w, SameData env strict w (cleanup w)) : Off env strict (onError m cleanup) w := by
  refine off_catchError hm ?_
  intro e w' _
  exact off_bind (off_update (hcleanup w')) fun _ _ _ => off_fail e

theorem off_ite {c : Prop} [Decidable c] {m' : Run α} (h : Off env strict m w)
    (h' : Off env strict m' w) : Off env strict (if c then m else m') w := by
  split_ifs
  · exact h
  · exact h'

theorem off_onHandle (site : Site) (handle : Handle) {m : Run Unit} (hm : Off env strict m w) :
    Off env strict (onHandle site handle m) w := by
  refine sat_guard (SameData.refl w) fun _ => ?_
  exact hm

theorem keeps_off (h : Kept env strict log w) (hm : Off env strict m w) :
    Keeps env strict log (m w) fun _ w' => SameData env strict w w' :=
  hm.mono (fun _ _ => id) (fun _ _ hsame => hsame.kept h) fun _ hsame => (hsame.kept h).diskOk

theorem sameData_invalidate (w : World) : SameData env strict w w.invalidateCapacity :=
  .of_same ⟨rfl,rfl,rfl,rfl,fun _ => rfl⟩

variable {handle : Handle}

theorem off_syncFile (site : Site) (hoff : OffData env handle.path) :
    Off env strict (syncFile plan site handle) w :=
  off_onHandle site handle (off_perform (.modifyFile hoff _ w) (fun _ => .refl w) fun _ => .refl w)

theorem off_writeFull (site : Site) (hoff : OffData env handle.path) (data : List UInt8) :
    Off env strict (writeFull plan site handle data) w :=
  off_onHandle site handle (off_perform (.modifyFile hoff _ w) (fun _ => .modifyFile hoff _ w)
    fun _ => .modifyFile hoff _ w)

theorem off_loadCapacity : Off env strict (loadCapacity plan) w := by
  refine off_bind (off_read _) fun known _ _ => off_ite (off_pure ()) ?_
  refine off_bind (off_io _) fun _ _ _ => off_bind (off_read _) fun used _ _ => ?_
  refine off_bind (off_check _ _) fun _ _ _ => off_update ?_
  exact .of_same ⟨rfl,rfl,rfl,rfl,fun _ => rfl⟩

theorem off_reserveCapacity (additional : Int) :
    Off env strict (reserveCapacity env plan additional) w := by
  refine off_bind (off_check _ _) fun _ _ _ => off_ite (off_pure ()) ?_
  refine off_bind off_loadCapacity fun _ _ _ => off_bind (off_read _) fun used _ _ => ?_
  exact off_ite (off_ite (off_fail _) (off_fail _)) (off_pure ())

theorem off_removeTemporaryMarker (hoff : OffData env path) :
    Off env strict (removeTemporaryMarker plan path) w :=
  off_catchError (off_changeDisk _ (.removeFile hoff w)) fun _ _ _ => off_pure ()

theorem off_rewriteTemporary (hoff : OffData env path) (raw : List UInt8) :
    Off env strict (rewriteTemporary plan path raw) w := by
  refine off_bind (off_onHandle _ _ (off_changeDisk _ (.modifyFile hoff _ w))) fun _ _ _ => ?_
  refine off_bind (off_io _) fun _ _ _ => ?_
  refine off_bind (off_writeFull _ hoff _) fun _ _ _ => ?_
  exact off_bind (off_syncFile _ hoff) fun _ _ _ => off_io _

theorem off_resumeTemporary (stream : SinkStream) (hoff : OffData env path) (raw : List UInt8)
    (existing : DiskFile) :
    Off env strict (resumeTemporary env plan stream path raw existing) w := by
  refine off_bind (off_io _) fun _ _ _ => off_ite ?_ ?_
  · exact off_bind (off_syncFile _ hoff) fun _ _ _ => off_io _
  · refine off_bind (off_check _ _) fun _ _ _ => off_bind (off_reserveCapacity _) fun _ _ _ => ?_
    refine off_bind (off_onError (off_rewriteTemporary hoff raw) sameData_invalidate)
      fun _ w' _ => ?_
    exact off_update (.of_same (sameSink_adjustCapacity _ w'))

theorem off_createTemporary (hoff : OffData env path) (raw : List UInt8) :
    Off env strict (createTemporary plan path raw) w := by
  refine off_bind (off_changeDisk _ (.createFile hoff w)) fun _ _ _ => ?_
  refine off_bind (off_onError ?_ sameData_invalidate) fun _ w' _ => ?_
  · refine off_bind (off_writeFull _ hoff _) fun _ _ _ => ?_
    exact off_bind (off_syncFile _ hoff) fun _ _ _ => off_io _
  · exact off_update (.of_same (sameSink_adjustCapacity _ w'))

variable {source target : String}

variable (hsource : OffData env source)

include hsource

theorem off_renameMarker (htarget : OffData env target) :
    Off env strict (renameMarker plan source target) w := by
  refine off_bind (off_read _) fun existing w' _ => ?_
  have heffect (n : Nat) : SameData env strict w' (if n = 0 then w' else
      if n = 1 then w'.linkFile source target else w'.renameFile source target) := by
    split_ifs
    · exact .refl w'
    · exact .linkFile htarget source w'
    · exact .renameFile hsource htarget w'
  cases existing with
  | some file => exact off_fail _
  | none => exact off_perform (.renameFile hsource htarget w') heffect heffect

theorem off_adoptPublished (raw : List UInt8) (cause : SinkError) :
    Off env strict (adoptPublished plan source target raw cause) w := by
  refine off_bind (off_io _) fun _ _ _ => off_bind (off_read _) fun existing _ _ => ?_
  cases existing with
  | none => exact off_fail _
  | some file =>
    refine off_bind (off_check _ _) fun _ _ _ => off_bind (off_io _) fun _ _ _ => ?_
    refine off_bind (off_removeTemporaryMarker hsource) fun _ w' _ => ?_
    exact off_update (sameData_invalidate w')

theorem off_publishMarker (htarget : OffData env target) (raw : List UInt8)
    : Off env strict (publishMarker plan source target raw) w := by
  refine off_bind (off_catchError ?_ fun _ _ _ => off_pure _) fun failure _ _ => ?_
  · exact off_bind (off_renameMarker hsource htarget) fun _ _ _ => off_pure _
  · cases failure with
    | none => exact off_io _
    | some cause => exact off_adoptPublished hsource raw cause

end Frames

def marked (s : SinkStream) (revision : Nat) (intent : Option MarkerIntent) : SinkStream :=
  { s with finalizedRevision := revision, markerIntent := intent }

section Targets

variable {env : Env} {strict : Prop} {plan : Site → Fate} {log : List (Nat × List UInt8)}
  {w w' : World} {s : SinkStream} {wr : Writer} {α : Type}

theorem StreamOk.marked (h : StreamOk env strict w.files log s) (revision : Nat)
    (intent : Option MarkerIntent) :
    StreamOk env strict w.files log (marked s revision intent) :=
  { h with sound := fun hstrict => { h.sound hstrict with } }

theorem Bare.marked (h : Bare env strict s) (revision : Nat) (intent : Option MarkerIntent) :
    Bare env strict (marked s revision intent) :=
  { h with sound := fun hstrict => { h.sound hstrict with } }

structure Target (env : Env) (strict : Prop) (committed : List (Nat × List UInt8)) (w : World)
    (s : SinkStream) : Prop where
  kept : Kept env strict committed w
  idle : ∀ p, w.persisted = some p → p.appendIntent = none
  shape : (Bare env strict s ∧ committed = [] ∧ w.writer = none) ∨
    (StreamOk env strict w.files committed s ∧ s.appendIntent = none)
  writer : ∀ wr, w.writer = some wr → wr.file = none ∧
    ∃ revision intent, wr.stream = marked s revision intent

namespace Target

variable (h : Target env strict log w s)

include h

theorem same (hsame : SameData env strict w w') : Target env strict log w' s where
  kept := hsame.kept h.kept
  idle := hsame.persisted ▸ h.idle
  shape := by
    rcases h.shape with ⟨hbare,hempty,hwriter⟩ | ⟨hs,hnone⟩
    · exact .inl ⟨hbare,hempty,hsame.writer.trans hwriter⟩
    · refine .inr ⟨hs.mono ?_,hnone⟩
      intro path f hdata hlookup
      rw [hsame.files path hdata,hlookup]
  writer := hsame.writer ▸ h.writer

theorem idle_writer (hw : w.writer = some wr) : wr.stream.appendIntent = none := by
  obtain ⟨-,revision,intent,hstream⟩ := h.writer wr hw
  rcases h.shape with ⟨-,-,hnone⟩ | ⟨-,hnone⟩
  · rw [hw] at hnone
    cases hnone
  · rwa [hstream]

theorem valid (hstrict : strict) : validateSinkStream s = .ok () := by
  rcases h.shape with ⟨hbare,-,-⟩ | ⟨hs,-⟩
  · exact hbare.valid hstrict
  · exact hs.valid hstrict

theorem named : s.sinkName = "file" := by
  rcases h.shape with ⟨hbare,-,-⟩ | ⟨hs,-⟩
  · exact hbare.named
  · exact hs.named

theorem marked (revision : Nat) (intent : Option MarkerIntent) :
    Target env strict log w (marked s revision intent) where
  kept := h.kept
  idle := h.idle
  shape := by
    rcases h.shape with ⟨hbare,hempty,hwriter⟩ | ⟨hs,hnone⟩
    · exact .inl ⟨hbare.marked revision intent,hempty,hwriter⟩
    · exact .inr ⟨hs.marked revision intent,hnone⟩
  writer := by
    intro wr hw
    obtain ⟨hfile,revision',intent',hstream⟩ := h.writer wr hw
    exact ⟨hfile,revision',intent',hstream⟩

theorem put : Target env strict log { w with persisted := some s } s := by
  have hquiet : ∀ path f, DataPath env path → w.files.lookup path = some f → Quiet f :=
    fun _ _ => h.kept.disk.quiet_of_idle h.idle
  have hnone : s.appendIntent = none := by
    rcases h.shape with ⟨hbare,-,-⟩ | ⟨-,hnone⟩
    · exact hbare.intent
    · exact hnone
  refine ⟨?_,?_,h.shape,h.writer⟩
  · refine .intro ?_ ?_ h.kept.2 h.kept.accepted
    · rcases h.shape with ⟨hbare,hempty,-⟩ | ⟨hs,-⟩
      · refine ⟨nofun,?_,fun path f hdata hlookup => .inl (hquiet path f hdata hlookup)⟩
        intro p hp
        cases hp
        exact .inl ⟨hbare,hempty⟩
      · exact .putQuiet hs hquiet
    · intro wr hw
      have hwr := h.kept.writerOk hw
      refine { hwr with stored := ⟨s,rfl,?_,?_⟩ }
      · rw [h.idle_writer hw]
        nofun
      · rw [hnone]
        nofun
  · intro p hp
    cases hp
    exact hnone

theorem keeps_put (site : Site) : Keeps env strict log (putSinkStream plan site s w) fun _ w' =>
      w' = { w with persisted := some s } ∧ Target env strict log w' s := by
  refine (sat_putSinkStreamWith h.named h.valid (fun _ _ hsame => h.kept.same hsame)
    (Q := fun _ w' => w' = { w with persisted := some s }) rfl h.kept.diskOk
    h.put.kept.diskOk).post ?_
  rintro _ _ rfl
  exact ⟨rfl,h.put⟩

theorem setWriter : Kept env strict log (w.updateWriter fun w => { w with stream := s }) := by
  cases hw : w.writer with
  | none =>
    have hsame : w.updateWriter (fun w => { w with stream := s }) = w := by
      rw [World.updateWriter,hw,Option.map_none,← hw]
    rw [hsame]
    exact h.kept
  | some wr =>
    have hwr := h.kept.writerOk hw
    obtain ⟨hfile,revision,intent,hstream⟩ := h.writer wr hw
    have hs : StreamOk env strict w.files log s ∧ s.appendIntent = none := by
      rcases h.shape with ⟨-,-,hnone⟩ | hs
      · rw [hw] at hnone
        cases hnone
      · exact hs
    refine h.kept.setWriter rfl rfl rfl (fun _ => rfl) (World.updateWriter_writer hw _)
      ⟨hs.1,hwr.safe,?_,hwr.stored_idle (h.idle_writer hw) hs.2,?_,?_,?_⟩
    · have hkeyed := hwr.keyed
      rwa [hstream] at hkeyed
    · have hclosed := hwr.closed
      rwa [hstream] at hclosed
    · intro handle hhandle
      rw [show wr.file = some handle from hhandle] at hfile
      cases hfile
    · intro _ hopen
      rw [show wr.file = none from hfile] at hopen
      cases hopen

theorem after {β : Type} {m : Run α} {f : α → Run β}
    {Q : β → World → Prop} (hm : Off env strict m w)
    (hf : ∀ a w', Target env strict log w' s → Keeps env strict log (f a w') Q) :
    Keeps env strict log ((m >>= f) w) Q :=
  sat_bind (keeps_off h.kept hm) fun a w' hsame => hf a w' (h.same hsame)

end Target

section

variable (h : Target env strict log w s)

include h

theorem keeps_recordFinalized (site : Site) (revision : Nat) :
    Keeps env strict log (recordFinalized plan site s revision w) fun _ w' =>
      Kept env strict log w' := by
  refine sat_bind ((h.marked revision none).keeps_put site) ?_
  rintro _ w₁ ⟨-,h₁⟩
  exact h₁.setWriter

theorem keeps_adoptMarker (revision : Nat)
    {temporary : String} (hoff : OffData env temporary) (raw : List UInt8) (existing : DiskFile) :
    Keeps env strict log (adoptMarker plan s revision temporary raw existing w) fun _ w' =>
      Kept env strict log w' := by
  refine h.after (off_check _ _) fun _ w₁ h => ?_
  refine h.after (off_io _) fun _ w₂ h => ?_
  refine h.after (off_removeTemporaryMarker hoff) fun _ w₃ h => ?_
  refine sat_bind (keeps_off h.kept (off_update (sameData_invalidate w₃))) fun _ w₄ h₄ => ?_
  exact keeps_recordFinalized (h.same h₄) _ revision

theorem keeps_recordMarkerIntent (intent : MarkerIntent) :
    Keeps env strict log (recordMarkerIntent plan s intent w) fun a w' =>
      Target env strict log w' a := by
  unfold recordMarkerIntent
  cases s.markerIntent with
  | some recorded => exact h
  | none =>
    refine sat_bind ((h.marked s.finalizedRevision (some intent)).keeps_put _) ?_
    rintro _ w₁ ⟨-,h₁⟩
    exact h₁

theorem keeps_stageMarker {intent : MarkerIntent}
    (hoff : OffData env intent.tempPath) (raw : List UInt8) :
    Keeps env strict log (stageMarker env plan s intent raw w) fun a w' =>
      Target env strict log w' a := by
  refine h.after (off_check _ _) fun _ w₁ h => ?_
  refine h.after (off_io _) fun _ w₂ h => ?_
  refine h.after (off_read _) fun existing w₃ h => ?_
  cases existing with
  | some file =>
    refine sat_bind (keeps_off h.kept (off_resumeTemporary s hoff raw file)) fun _ w₄ h₄ => ?_
    exact keeps_recordMarkerIntent (h.same h₄) intent
  | none =>
    refine sat_bind (keeps_off h.kept (off_reserveCapacity _)) fun _ w₄ h₄ => ?_
    refine sat_bind (keeps_recordMarkerIntent (h.same h₄) intent) fun recorded w₅ h₅ => ?_
    refine sat_bind (keeps_off h₅.kept (off_createTemporary hoff raw)) fun _ w₆ h₆ => ?_
    exact h₅.same h₆

theorem keeps_finalizeNew {intent : MarkerIntent}
    (htemporary : OffData env intent.tempPath) (hmarker : OffData env intent.path)
    (raw : List UInt8) :
    Keeps env strict log (finalizeNew env plan s intent raw w) fun _ w' =>
      Kept env strict log w' := by
  refine sat_bind (keeps_stageMarker h htemporary raw) fun recorded w₁ h₁ => ?_
  refine h₁.after (off_io _) fun _ w₂ h₁ => ?_
  refine sat_bind (keeps_off h₁.kept
    (off_onError (off_publishMarker htemporary hmarker raw) sameData_invalidate)) fun _ w₃ h₃ => ?_
  exact keeps_recordFinalized (h₁.same h₃) _ _

end

def HoldsData (w : World) : Prop :=
  (∀ wr, w.writer = some wr → wr.file.isSome → 0 < wr.stream.position) ∧
    (w.writer = none → ∀ p, w.persisted = some p → p.currentClosed = false → 0 < p.position)

theorem keeps_closeWriter (h : Kept env strict log w) (hw : w.writer = some wr)
    (hposition : strict → wr.file.isSome → 0 < wr.stream.position) (request : FinalizeRequest) :
    Keeps env strict log (closeWriter plan request w) fun a w' =>
      Target env strict log w' a := by
  refine sat_bind (keeps_currentWriter hw) ?_
  rintro wr w ⟨rfl,rfl⟩
  refine sat_guard h fun _ => ?_
  refine sat_bind (keeps_closeGeneration h hw hposition) ?_
  rintro _ w₁ ⟨h₁,wr₁,hw₁,hfile⟩
  refine sat_bind (keeps_currentWriter hw₁) ?_
  rintro wr₁ w₁ ⟨rfl,rfl⟩
  have hwr := h₁.writerOk hw₁
  have hnone : wr₁.stream.appendIntent = none :=
    hwr.stream.intent_none_of_closed (by rw [hwr.closed,hfile]; rfl)
  refine ⟨h₁,hwr.idle hnone,.inr ⟨hwr.stream,hnone⟩,?_⟩
  intro wr hwr'
  cases hw₁.symm.trans hwr'
  exact ⟨hfile,_,_,rfl⟩

theorem keeps_finalizeTarget (hroot : env.cfg.root ≠ "")
    (hreferenced : strict → env.streamRef ≠ "") (h : Kept env strict log w)
    (hdata : strict → HoldsData w) (request : FinalizeRequest) :
    Keeps env strict log (finalizeTarget env plan request w) fun a w' =>
      Target env strict log w' a := by
  unfold finalizeTarget
  refine sat_let fun writer hwriter => ?_
  cases writer with
  | some wr =>
    exact keeps_closeWriter h hwriter.symm (fun hstrict => (hdata hstrict).1 wr hwriter.symm)
      request
  | none =>
    refine sat_then (keeps_getSinkStream h) fun stored hstored => ?_
    have hopened : ∀ wr, w.writer = some wr → wr.file = none ∧
        ∃ revision intent, wr.stream = marked (newSinkStream env) revision intent := by
      intro wr hwr
      cases hwriter.trans hwr
    cases stored with
    | none =>
      have hbare : Bare env strict (newSinkStream env) := ⟨rfl,rfl,rfl,rfl,rfl,rfl,rfl,rfl,
        fun hstrict => ⟨rfl,hreferenced hstrict,nofun,nofun⟩⟩
      refine ⟨h,?_,.inl ⟨hbare,h.2.symm.trans ?_,hwriter.symm⟩,hopened⟩
      · intro p hp
        cases hstored.trans hp
      · exact h.diskOk.1.fresh hstored.symm
    | some s =>
      refine sat_ite (fun hclosed => ?_) fun hclosed => ?_
      · have hs : StreamOk env strict w.files log s := by
          rcases h.disk.stream s hstored.symm with ⟨hbare,-⟩ | hs
          · rw [hbare.opened] at hclosed
            cases hclosed
          · exact hs
        have hnone := hs.intent_none_of_closed hclosed
        refine ⟨h,?_,.inr ⟨hs,hnone⟩,?_⟩
        · intro p hp
          cases hstored.trans hp
          exact hnone
        · intro wr hwr
          cases hwriter.trans hwr
      have hopen : Keeps env strict log (getWriter env plan request.resource w) fun _ w' =>
          Kept env strict log w' ∧ ∃ wr, w'.writer = some wr ∧
            (strict → 0 < wr.stream.position) := by
        unfold getWriter
        refine sat_let fun a ha => ?_
        rw [ha,← hwriter]
        refine (keeps_openWriter hroot hreferenced h hwriter.symm _).post ?_
        rintro _ w₁ ⟨h₁,wr,hw₁,-,hstream⟩
        refine ⟨h₁,wr,hw₁,fun hstrict => ?_⟩
        rw [← hstored,Option.getD_some] at hstream
        rw [hstream]
        exact (hdata hstrict).2 hwriter.symm s hstored.symm (by simpa using hclosed)
      refine sat_bind hopen ?_
      rintro _ w₁ ⟨h₁,wr,hw₁,hposition⟩
      exact keeps_closeWriter h₁ hw₁ (fun hstrict _ => hposition hstrict) request

theorem off_verifyEach (objects : List ClosedObject) :
    Off env strict (verifyEach env plan objects) w := by
  induction objects generalizing w with
  | nil => exact off_pure ()
  | cons o objects ih =>
    refine off_bind ?_ fun _ _ _ => ih
    refine off_bind (off_io _) fun _ _ _ => off_bind (off_io _) fun _ _ _ => ?_
    refine off_bind (off_read _) fun file _ _ => ?_
    cases file with
    | none => exact off_fail _
    | some file =>
      refine off_bind (off_io _) fun _ _ _ => off_bind (off_check _ _) fun _ _ _ => ?_
      refine off_bind (off_io _) fun _ _ _ => off_bind (off_io _) fun _ _ _ => ?_
      exact off_check _ _

theorem off_ofExcept (x : Except SinkError α) : Off env strict (ofExcept x : Run α) w :=
  sat_ofExcept (fun _ _ => SameData.refl w) fun _ _ => SameData.refl w

theorem keeps_finalize (hroot : env.cfg.root ≠ "") (hreferenced : strict → env.streamRef ≠ "")
    (h : Kept env strict log w) (hdata : strict → HoldsData w) (request : FinalizeRequest) :
    Keeps env strict log (finalize env plan request w) fun _ w' =>
      Kept env strict log w' := by
  refine sat_io h h.diskOk ?_
  refine sat_io h h.diskOk ?_
  refine sat_guard h fun _ => ?_
  refine sat_bind (keeps_finalizeTarget hroot hreferenced h hdata request) fun s w₁ h₁ => ?_
  refine h₁.after (off_check _ _) fun _ w₂ h₁ => ?_
  refine h₁.after (off_bind (off_io _) fun _ _ _ => off_bind (off_ofExcept _)
    fun _ _ _ => off_verifyEach _) fun _ w₃ h₁ => ?_
  refine h₁.after (off_io _) fun _ w₄ h₁ => ?_
  refine h₁.after (off_ofExcept _) fun raw w₅ h₁ => ?_
  refine h₁.after (off_ofExcept _) fun dir w₆ h₁ => ?_
  refine h₁.after (off_io _) fun _ w₇ h₁ => ?_
  refine h₁.after (off_io _) fun _ w₈ h₁ => ?_
  refine h₁.after (off_read _) fun existing w₉ h₁ => ?_
  have htemporary := offData_temporaryPath env dir request (env.sha256 raw)
  cases existing with
  | some file => exact keeps_adoptMarker h₁ _ htemporary raw file
  | none => exact keeps_finalizeNew h₁ htemporary (offData_markerPath env dir request) raw

end Targets

end OpenSandbox.NodeAgent.FileSink
