import OpenSandbox.NodeAgent.FileSink.Disk

namespace OpenSandbox.NodeAgent.FileSink

open Fallible Prog SegmentLog List Option AList World

def Kept (env : Env) (strict : Prop) (committed : List (Nat × List UInt8)) (w : World) : Prop :=
  Inv env strict w ∧ w.committed = committed

abbrev Keeps (env : Env) (strict : Prop) (committed : List (Nat × List UInt8)) {α : Type}
    (result : Result World SinkError α) (Q : α → World → Prop) : Prop :=
  result.Sat Q (fun _ w => Kept env strict committed w) (DiskOk env strict)

structure SameSink (strict : Prop) (w w' : World) : Prop where
  persisted : w'.persisted = w.persisted
  writer : w'.writer = w.writer
  files : w'.files = w.files
  committed : w'.committed = w.committed
  refused : strict → w'.refused = w.refused

namespace World

variable {w : World} {path : String} {f : DiskFile}

section

variable (h : w.files.lookup path = some f)

include h

theorem modifyFile_eq (change : DiskFile → DiskFile) :
    w.modifyFile path change = { w with files := w.files.insert path (change f) } := by
  unfold modifyFile
  rw [h]

theorem lookup_modifyFile (change : DiskFile → DiskFile) :
    (w.modifyFile path change).files.lookup path = some (change f) := by
  rw [modifyFile_eq h,lookup_insert]

theorem createFile_eq : w.createFile path = w := by
  unfold createFile
  rw [h]

end

theorem createFile_new (h : w.files.lookup path = none) :
    w.createFile path = { w with
      files := w.files.insert path ⟨[],0,0,w.device,w.nextInode⟩
      nextInode := w.nextInode + 1 } := by
  unfold createFile
  rw [h]

@[simp] theorem modifyFile_writer (w : World) (path : String) (change : DiskFile → DiskFile) :
    (w.modifyFile path change).writer = w.writer := by
  unfold modifyFile
  split <;> rfl

@[simp] theorem modifyFile_persisted (w : World) (path : String) (change : DiskFile → DiskFile) :
    (w.modifyFile path change).persisted = w.persisted := by
  unfold modifyFile
  split <;> rfl

@[simp] theorem createFile_writer (w : World) (path : String) :
    (w.createFile path).writer = w.writer := by
  unfold createFile
  split <;> rfl

@[simp] theorem createFile_persisted (w : World) (path : String) :
    (w.createFile path).persisted = w.persisted := by
  unfold createFile
  split <;> rfl

theorem exists_createFile (w : World) (path : String) :
    ∃ f, (w.createFile path).files.lookup path = some f := by
  cases hlookup : w.files.lookup path with
  | some f => exact ⟨f,by rw [createFile_eq hlookup,hlookup]⟩
  | none => exact ⟨_,by rw [createFile_new hlookup,lookup_insert]⟩

theorem updateWriter_writer {wr : Writer} (h : w.writer = some wr) (change : Writer → Writer) :
    (w.updateWriter change).writer = some (change wr) := by
  rw [updateWriter,h]
  rfl

end World

theorem sync_of_quiet {f : DiskFile} (h : Quiet f) : f.sync = f := by
  obtain ⟨hstable,hpeak⟩ := h
  cases f
  simp_all [DiskFile.sync]

section Steps

variable {env : Env} {strict : Prop} {plan : Site → Fate} {log : List (Nat × List UInt8)}
  {w w' : World}
  {wr : Writer} {s : SinkStream} {α : Type}

namespace Kept

section

variable (h : Kept env strict log w)

include h

theorem diskOk : DiskOk env strict w := h.1.1

theorem writerOk (hw : w.writer = some wr) :
    WriterOk env strict w.persisted w.files log wr := h.2 ▸ h.1.2 wr hw

theorem disk : DiskInv env strict w.persisted w.files log := h.2 ▸ h.1.1.1

theorem accepted : strict → w.refused = [] := h.1.1.2

theorem same (hsame : SameSink strict w w') : Kept env strict log w' := by
  obtain ⟨hpersisted,hwriter,hfiles,hcommitted,hrefused⟩ := hsame
  unfold Kept Inv DiskOk at *
  rw [hpersisted,hwriter,hfiles,hcommitted]
  exact ⟨⟨⟨h.1.1.1,fun hstrict => (hrefused hstrict).trans (h.1.1.2 hstrict)⟩,h.1.2⟩,h.2⟩

end

theorem intro (hdisk : DiskInv env strict w.persisted w.files log)
    (hwriter : ∀ wr, w.writer = some wr → WriterOk env strict w.persisted w.files log wr)
    (hcommitted : w.committed = log) (hrefused : strict → w.refused = []) :
    Kept env strict log w := by
  subst hcommitted
  exact ⟨⟨⟨hdisk,hrefused⟩,hwriter⟩,rfl⟩

variable (h : Kept env strict log w)

include h

theorem extend (hpersisted : w'.persisted = w.persisted)
    (hwriter : w'.writer = w.writer) (hcommitted : w'.committed = w.committed)
    (hrefused : w'.refused = w.refused)
    (hkeep : ∀ path f, DataPath env path → w.files.lookup path = some f →
      w'.files.lookup path = some f)
    (hnew : ∀ path f, DataPath env path → w'.files.lookup path = some f →
      w.files.lookup path = some f ∨ Quiet f) : Kept env strict log w' := by
  refine intro ?_ ?_ (hcommitted.trans h.2) (hrefused ▸ h.accepted)
  · rw [hpersisted]
    exact h.disk.extend hkeep hnew
  · intro wr hw
    rw [hpersisted]
    exact (h.writerOk (hwriter ▸ hw)).extend hkeep

theorem createFile (path : String) : Kept env strict log (w.createFile path) := by
  cases hlookup : w.files.lookup path with
  | some f =>
    rwa [createFile_eq hlookup]
  | none =>
    rw [createFile_new hlookup]
    refine h.extend rfl rfl rfl rfl ?_ ?_
    · intro path' f _ hf
      have hne : path' ≠ path := by
        rintro rfl
        rw [hlookup] at hf
        cases hf
      exact (lookup_insert_ne hne).trans hf
    · intro path' f _ hf
      by_cases hne : path' = path
      · subst hne
        rw [lookup_insert] at hf
        cases hf
        exact .inr ⟨rfl,rfl⟩
      · exact .inl ((lookup_insert_ne hne).symm.trans hf)

theorem syncQuiet {path : String} {f : DiskFile}
    (hlookup : w.files.lookup path = some f) (hquiet : Quiet f) :
    Kept env strict log (w.modifyFile path DiskFile.sync) := by
  rw [modifyFile_eq hlookup,sync_of_quiet hquiet]
  have hsame (path' : String) : (w.files.insert path f).lookup path' = w.files.lookup path' := by
    by_cases hne : path' = path
    · subst hne
      rw [lookup_insert,hlookup]
    · exact lookup_insert_ne hne
  refine h.extend rfl rfl rfl rfl ?_ ?_
  · intro path' f' _ hf
    exact (hsame path').trans hf
  · intro path' f' _ hf
    exact .inl ((hsame path').symm.trans hf)

theorem streamOk (hp : w.persisted = some s)
    (hsome : s.appendIntent.isSome) : StreamOk env strict w.files log s := by
  rcases h.disk.stream s hp with ⟨hbare,-⟩ | hok
  · rw [hbare.intent] at hsome
    cases hsome
  · exact hok

theorem modifyCurrent (hp : w.persisted = some s)
    (hsome : s.appendIntent.isSome) {change : DiskFile → DiskFile}
    (hchange : ∀ f, w.files.lookup (objectPath env s.objectKey) = some f →
      FileOk f (content log s.generation) (slack s) →
      FileOk (change f) (content log s.generation) (slack s))
    (hidentity : ∀ f, (change f).device = f.device ∧ (change f).inode = f.inode) :
    Kept env strict log (w.modifyFile (objectPath env s.objectKey) change) := by
  have hs := h.streamOk hp hsome
  obtain ⟨intent,hintent⟩ := isSome_iff_exists.mp hsome
  obtain ⟨f,hlookup,hok⟩ := hs.file
  have hother (path : String) (hne : path ≠ objectPath env s.objectKey) :
      (w.files.insert (objectPath env s.objectKey) (change f)).lookup path =
        w.files.lookup path := lookup_insert_ne hne
  have hs' := hs.replace (hs.intent intent hintent).2.1 hother
    ⟨change f,lookup_insert _,hchange f hlookup hok⟩ (by
      intro f' hf'
      rw [lookup_insert] at hf'
      cases hf'
      rw [(hidentity f).1,(hidentity f).2]
      exact hs.identity f hlookup)
  rw [modifyFile_eq hlookup]
  refine intro ?_ ?_ h.2 h.accepted
  · have hdisk := h.disk
    rw [hp] at hdisk
    rw [hp]
    exact hdisk.replace hs' hsome hother
  intro wr hw
  have hwr := h.writerOk hw
  have heq : s = wr.stream := by
    obtain ⟨p,hp',-,hback⟩ := hwr.stored
    rw [hp] at hp'
    cases hp'
    exact hback hsome
  subst heq
  exact ⟨hs',hwr.safe,hwr.keyed,hwr.stored,hwr.closed,hwr.handle,hwr.crc⟩

end Kept

theorem keeps_currentWriter (hw : w.writer = some wr) :
    Keeps env strict log (currentWriter w) fun a w' => w' = w ∧ a = wr := by
  refine sat_let fun a ha => ?_
  rw [ha,hw]
  exact ⟨rfl,rfl⟩

variable {Q : Unit → World → Prop} {f : DiskFile}

section

variable (h : Kept env strict log w)

include h

theorem keeps_openedWriter :
    Keeps env strict log (currentWriter w) fun a w' => w' = w ∧ w.writer = some a := by
  cases hw : w.writer with
  | some wr => exact (keeps_currentWriter hw).post fun a _ ha => ⟨ha.1,by rw [ha.2]⟩
  | none =>
    refine sat_let fun a ha => ?_
    rwa [ha,hw]

theorem keeps_changeDisk (site : Site) {change : World → World}
    (h' : Kept env strict log (change w)) :
    Keeps env strict log (changeDisk plan site change w) fun _ w' => w' = change w := by
  refine sat_perform (fun _ => rfl) ?_ ?_
  · intro n _
    split_ifs
    · exact h
    · exact h'
  · intro n _
    split_ifs
    · exact h.diskOk
    · exact h'.diskOk

theorem keeps_onHandle (site : Site) (handle : Handle) {m : Run Unit}
    (hm : Keeps env strict log (m w) Q) :
    Keeps env strict log (onHandle site handle m w) Q := by
  refine sat_guard h fun _ => ?_
  exact hm

theorem keeps_statFile (site : Site) {path : String} (hlookup : w.files.lookup path = some f) :
    Keeps env strict log (statFile plan site path w) fun a w' => w' = w ∧ a = f := by
  refine sat_io h h.diskOk ?_
  exact ⟨rfl,by simp [hlookup]⟩

end

namespace Kept

theorem setWriter (h : Kept env strict log w) (hpersisted : w'.persisted = w.persisted)
    (hfiles : w'.files = w.files) (hcommitted : w'.committed = w.committed)
    (hrefused : strict → w'.refused = w.refused) (hw : w'.writer = some wr)
    (hwr : WriterOk env strict w.persisted w.files log wr) : Kept env strict log w' := by
  refine intro ?_ ?_ (hcommitted.trans h.2) ?_
  · rw [hpersisted,hfiles]
    exact h.disk
  · intro wr' hw'
    rw [hw] at hw'
    cases hw'
    rwa [hpersisted,hfiles]
  · intro hstrict
    rw [hrefused hstrict,h.accepted hstrict]

theorem dropWriter (h : DiskOk env strict w) (hcommitted : w.committed = log) :
    Kept env strict log w.dropWriter := by
  refine ⟨⟨h,?_⟩,hcommitted⟩
  intro wr hwr
  cases hwr

theorem putIdle (h : Kept env strict log w) (hw : w.writer = some wr)
    (hwriter : wr.stream.appendIntent = none) (hs : StreamOk env strict w.files log s)
    (hnone : s.appendIntent = none) :
    Kept env strict log { w with persisted := some s } := by
  have hwr := h.writerOk hw
  refine intro ?_ ?_ h.2 h.accepted
  · exact .putQuiet hs fun _ _ => h.disk.quiet_of_idle (hwr.idle hwriter)
  intro wr' hw'
  rw [hw] at hw'
  cases hw'
  refine { hwr with stored := ⟨s,rfl,?_,?_⟩ }
  · rw [hwriter]
    nofun
  · rw [hnone]
    nofun

end Kept

theorem keeps_updateWriter (h : Kept env strict log w) (hw : w.writer = some wr)
    {change : Writer → Writer} (hwr : WriterOk env strict w.persisted w.files log (change wr)) :
    Keeps env strict log (update (World.updateWriter change) w) fun _ w' =>
      Kept env strict log w' ∧ w'.writer = some (change wr) ∧ w'.persisted = w.persisted ∧
        w'.files = w.files :=
  sat_update ⟨h.setWriter rfl rfl rfl (fun _ => rfl) (updateWriter_writer hw change) hwr,
    updateWriter_writer hw change,rfl,rfl⟩

variable {E : SinkError → World → Prop}

theorem sat_putSinkStreamWith {site : Site} {also : World → World} {C : World → Prop}
    (hname : s.sinkName = "file") (hvalid : strict → validateSinkStream s = .ok ())
    (hstay : ∀ e w', SameSink strict w w' → E e w')
    (hok : Q () (also { w with persisted := some s })) (hcrash : C w)
    (hlate : C (also { w with persisted := some s })) :
    (putSinkStreamWith plan site s also w).Sat Q E C := by
  have hstored : { s with sinkName := "file" } = s := by rw [← hname]
  unfold putSinkStreamWith
  refine sat_skip (sat_check (fun _ => rfl) fun _ => ?_) fun _ => ?_
  · exact hstay _ w ⟨rfl,rfl,rfl,rfl,fun _ => rfl⟩
  simp only [hstored]
  cases hresult : validateSinkStream s with
  | error e =>
    refine hstay _ _ ⟨rfl,rfl,rfl,rfl,fun hstrict => ?_⟩
    rw [hvalid hstrict] at hresult
    cases hresult
  | ok _ =>
    refine sat_perform (fun _ => hok) (fun _ _ => hstay _ _ ⟨rfl,rfl,rfl,rfl,fun _ => rfl⟩) ?_
    intro n _
    split_ifs
    · exact hcrash
    · exact hlate

theorem sat_putSinkStream {files : GoMap DiskFile} {site : Site} {C : World → Prop}
    (hs : StreamOk env strict files log s) (hstay : ∀ e w', SameSink strict w w' → E e w')
    (hok : Q () { w with persisted := some s }) (hcrash : C w)
    (hlate : C { w with persisted := some s }) : (putSinkStream plan site s w).Sat Q E C :=
  sat_putSinkStreamWith hs.named hs.valid hstay hok hcrash hlate

theorem keeps_putWriter (h : Kept env strict log w) (hw : w.writer = some wr)
    (hnone : wr.stream.appendIntent = none) (site : Site) :
    Keeps env strict log (putSinkStream plan site wr.stream w) fun _ w' =>
      Kept env strict log w' ∧ w'.writer = some wr := by
  have hs := (h.writerOk hw).stream
  have hput := h.putIdle hw hnone hs hnone
  exact sat_putSinkStream hs (fun _ _ hsame => h.same hsame) ⟨hput,hw⟩ h.diskOk hput.diskOk

theorem getElem?_concat {l : List α} {a b : α} {i : Nat} (h : (l ++ [a])[i]? = some b) :
    l[i]? = some b ∨ i = l.length ∧ b = a := by
  rw [getElem?_append] at h
  split_ifs at h with hlt
  · exact .inl h
  · rw [getElem?_singleton] at h
    split_ifs at h with hzero
    · exact .inr ⟨by omega,(some.inj h).symm⟩

theorem closedStream_closedObjects (hs : StreamOk env strict w.files log s)
    (hopen : s.currentClosed = false) (crc : BitVec 64) :
    (closedStream s crc).closedObjects = s.closedObjects ++
      [⟨s.objectKey,s.generation,s.position,Decimal.formatUint crc.toNat⟩] := by
  have hlast : lastGeneration s.closedObjects ≠ some s.generation := by
    rw [lastGeneration,getLast?_eq_getElem?]
    cases hobject : s.closedObjects[s.closedObjects.length - 1]? with
    | none => nofun
    | some o =>
      have hbound := (List.getElem?_eq_some_iff.mp hobject).1
      have hcount := hs.count
      rw [hopen] at hcount
      have hgeneration := (hs.closed _ o hobject).1
      simp only [map_some,ne_eq,some.injEq]
      simp only [Bool.false_eq_true,if_false] at hcount
      omega
  simp only [closedStream,hlast,if_false]

theorem Keyed.close {r : Resource} (hkeyed : Keyed r s) (hs : StreamOk env strict w.files log s)
    (hopen : s.currentClosed = false) (crc : BitVec 64) : Keyed r (closedStream s crc) := by
  have hcount := hs.count
  rw [hopen] at hcount
  refine ⟨hkeyed.1,?_⟩
  intro i o ho
  rw [closedStream_closedObjects hs hopen] at ho
  rcases getElem?_concat ho with hold | ⟨rfl,rfl⟩
  · exact hkeyed.2 i o hold
  · rw [hcount]
    exact hkeyed.1

theorem StreamOk.close (hs : StreamOk env strict w.files log s) (hopen : s.currentClosed = false)
    (hnone : s.appendIntent = none) (hposition : strict → 0 < s.position) :
    StreamOk env strict w.files log
      (closedStream s (Crc64.checksum (content log s.generation))) := by
  have hobjects := closedStream_closedObjects hs hopen (Crc64.checksum (content log s.generation))
  have hcount := hs.count
  rw [hopen] at hcount
  refine ⟨hs.named,?_,hs.position,hs.crc,hs.file,?_,?_,?_,hs.latest,hs.identity,?_⟩
  · obtain ⟨r,hsafe,hkeyed⟩ := hs.keyed
    exact ⟨r,hsafe,hkeyed.close hs hopen _⟩
  · intro i o ho
    rw [hobjects] at ho
    rcases getElem?_concat ho with hold | ⟨rfl,rfl⟩
    · exact hs.closed i o hold
    have hfile := hs.file
    rw [StreamOk.slack_eq_zero hnone] at hfile
    rw [hcount]
    exact ⟨rfl,hs.position,rfl,hfile⟩
  · rw [hobjects,length_append,hcount]
    rfl
  · intro i hi
    rw [show (closedStream s _).appendIntent = s.appendIntent from rfl,hnone] at hi
    cases hi
  intro hstrict
  have hsound := hs.sound hstrict
  refine ⟨hsound.reference,hsound.referenced,?_,hsound.intent⟩
  rw [hobjects]
  exact forall_mem_append.mpr ⟨hsound.sized,forall_mem_singleton.mpr (hposition hstrict)⟩

theorem keeps_syncFile (h : Kept env strict log w) (site : Site) (handle : Handle) :
    Keeps env strict log (syncFile plan site handle w)
      fun _ w' => w' = w.modifyFile handle.path DiskFile.sync :=
  keeps_onHandle h site handle (sat_perform (fun _ => rfl) (fun _ _ => h) fun _ _ => h.diskOk)

section

variable (hwr : WriterOk env strict w.persisted w.files log wr)

include hwr

theorem WriterOk.setFile {handle : Handle} (hfile : wr.file = some handle) (closed : Bool) :
    WriterOk env strict w.persisted w.files log { wr with file := some ⟨handle.path,closed⟩ } :=
  { hwr with
    closed := by
      have := hwr.closed
      rw [hfile] at this
      exact this
    handle := by
      rintro _ heq
      cases heq
      exact hwr.handle handle hfile
    crc := fun hnone _ => hwr.crc hnone (isSome_of_eq_some hfile) }

theorem WriterOk.opened (hfile : wr.file.isSome) : wr.stream.currentClosed = false := by
  rw [hwr.closed]
  simpa [isSome_iff_ne_none] using hfile

end

variable {handle : Handle}

theorem WriterOk.close (hwr : WriterOk env strict w.persisted w.files log wr)
    (hfile : wr.file = some handle) (hnone : wr.stream.appendIntent = none)
    (hposition : strict → 0 < wr.stream.position) :
    WriterOk env strict w.persisted w.files log
      { wr with file := none, stream := closedStream wr.stream wr.crc } := by
  have hsome := isSome_of_eq_some hfile
  have hopen := hwr.opened hsome
  have hcrc := hwr.crc hnone hsome
  refine ⟨?_,hwr.safe,hwr.keyed.close hwr.stream hopen _,hwr.stored_idle hnone hnone,rfl,
    nofun,nofun⟩
  rw [hcrc]
  exact hwr.stream.close hopen hnone hposition

theorem keeps_closeGeneration (h : Kept env strict log w) (hw : w.writer = some wr)
    (hposition : strict → wr.file.isSome → 0 < wr.stream.position) :
    Keeps env strict log (closeGeneration plan w) fun _ w' => Kept env strict log w' ∧
      ∃ wr', w'.writer = some wr' ∧ wr'.file = none := by
  have hwr := h.writerOk hw
  unfold closeGeneration
  refine sat_bind (keeps_currentWriter hw) ?_
  rintro wr w ⟨rfl,rfl⟩
  cases hfile : wr.file with
  | none => exact ⟨h,wr,hw,hfile⟩
  | some handle =>
    refine sat_guard h fun hidle => ?_
    have hnone : wr.stream.appendIntent = none := by simpa using hidle
    refine sat_bind (keeps_syncFile h _ handle) ?_
    rintro _ _ rfl
    obtain ⟨f,hlookup,hok⟩ := hwr.stream.file
    rw [StreamOk.slack_eq_zero hnone] at hok
    rw [hwr.handle handle hfile]
    have hsynced := h.syncQuiet hlookup hok.quiet
    have hw' : (w.modifyFile (objectPath env wr.stream.objectKey) DiskFile.sync).writer =
      some wr := by rw [modifyFile_writer,hw]
    generalize w.modifyFile (objectPath env wr.stream.objectKey) DiskFile.sync = w₁ at hsynced hw'
    have hwr' := hsynced.writerOk hw'
    refine sat_skip ?_ fun _ => ?_
    · refine keeps_onHandle hsynced _ _ (sat_perform (fun _ => rfl) ?_ ?_)
      · intro _ _
        exact hsynced.setWriter rfl rfl rfl (fun _ => rfl) (updateWriter_writer hw' _)
          (hwr'.setFile hfile true)
      · exact fun _ _ => hsynced.diskOk
    refine sat_bind (keeps_updateWriter hsynced hw' (hwr'.close hfile hnone ?_)) ?_
    · exact fun hstrict => hposition hstrict (isSome_of_eq_some hfile)
    rintro _ w₂ ⟨hkept,hw₂,-,-⟩
    exact (keeps_putWriter hkept hw₂ hnone _).post fun _ _ hput => ⟨hput.1,_,hput.2,rfl⟩

theorem StreamOk.content_next (hs : StreamOk env strict w.files log s) :
    content log (s.generation + 1) = [] :=
  content_eq_nil fun entry hentry => Nat.lt_succ_of_le (hs.latest entry hentry)

theorem StreamOk.next {r : Resource} (hs : StreamOk env strict w.files log s) (hsafe : Safe r)
    (hkeyed : Keyed r s) (hclosed : s.currentClosed = true) {info : DiskFile}
    (hlookup : w.files.lookup (objectPath env (objectKeyOf r (s.generation + 1))) = some info)
    (hempty : info.bytes = []) (hquiet : Quiet info) :
    StreamOk env strict w.files log (nextStream s (objectKeyOf r (s.generation + 1)) info) where
  named := hs.named
  keyed := ⟨r,hsafe,rfl,hkeyed.2⟩
  position := by
    change (0 : Int) = ((content log (s.generation + 1)).length : Int)
    rw [hs.content_next]
    rfl
  crc := by
    change restoredCrc _ = some (Crc64.checksum (content log (s.generation + 1)))
    rw [hs.content_next]
    rfl
  file := by
    have hslack : slack (nextStream s (objectKeyOf r (s.generation + 1)) info) = 0 :=
      StreamOk.slack_eq_zero (hs.intent_none_of_closed hclosed)
    refine ⟨info,hlookup,?_⟩
    change FileOk info (content log (s.generation + 1)) _
    rw [hslack,hs.content_next]
    exact FileOk.of_quiet hquiet hempty
  closed := hs.closed
  count := by
    have := hs.count
    rw [hclosed] at this
    exact this
  intent := by
    intro i hi
    change s.appendIntent = some i at hi
    rw [hs.intent_none_of_closed hclosed] at hi
    cases hi
  latest := fun entry hentry => Nat.le_succ_of_le (hs.latest entry hentry)
  identity := by
    intro f hf
    cases hlookup.symm.trans hf
    exact ⟨rfl,rfl⟩
  sound := fun hstrict =>
    ⟨(hs.sound hstrict).reference,(hs.sound hstrict).referenced,(hs.sound hstrict).sized,
      (hs.sound hstrict).intent⟩

theorem keeps_recordTransition (h : Kept env strict log w) (hw : w.writer = some wr)
    (hnone : wr.stream.appendIntent = none) (transition : GenerationTransition) :
    Keeps env strict log (recordTransition plan wr.stream transition w) fun _ w' =>
      Kept env strict log w' ∧ ∃ t, w'.writer =
        some { wr with stream := { wr.stream with generationTransition := t } } := by
  have hwr := h.writerOk hw
  have hset (t : Option GenerationTransition) : WriterOk env strict w.persisted w.files log
      { wr with stream := { wr.stream with generationTransition := t } } :=
    ⟨hwr.stream.setTransition t,hwr.safe,hwr.keyed,hwr.stored_idle hnone hnone,hwr.closed,
      hwr.handle,hwr.crc⟩
  unfold recordTransition
  cases hrecorded : wr.stream.generationTransition with
  | some recorded =>
    refine sat_check (fun _ => ⟨h,some recorded,?_⟩) fun _ => h
    rw [hw,← hrecorded]
  | none =>
    refine sat_bind (keeps_updateWriter h hw (hset (some transition))) ?_
    rintro _ w₁ ⟨hkept,hw₁,hpersisted,hfiles⟩
    have hs := (hkept.writerOk hw₁).stream
    have hput := hkept.putIdle hw₁ hnone hs hnone
    refine sat_onError (sat_putSinkStream hs ?_ ⟨hput,some transition,hw₁⟩ hkept.diskOk
      hput.diskOk)
    intro e w₂ hsame
    refine (hkept.same hsame).setWriter rfl rfl rfl (fun _ => rfl)
      (updateWriter_writer (hsame.writer.trans hw₁) _) ?_
    rw [hsame.persisted,hsame.files,hpersisted,hfiles]
    exact hset none

theorem keeps_openNoFollow (h : Kept env strict log w) (site : Site) (path : String) :
    Keeps env strict log (openNoFollow plan site path w) fun _ w' => Kept env strict log w' ∧
      w'.writer = w.writer ∧ w'.persisted = w.persisted ∧ ∃ f, w'.files.lookup path = some f := by
  refine (keeps_changeDisk h site (h.createFile path)).post ?_
  rintro _ _ rfl
  exact ⟨h.createFile path,w.createFile_writer path,w.createFile_persisted path,
    w.exists_createFile path⟩

structure Settled (env : Env) (strict : Prop) (committed : List (Nat × List UInt8)) (w : World)
    (wr : Writer) : Prop where
  kept : Kept env strict committed w
  writer : w.writer = some wr
  crc : wr.file.isSome → wr.crc = Crc64.checksum (content committed wr.stream.generation)
  bytes : ∀ f, w.files.lookup (objectPath env wr.stream.objectKey) = some f →
    f.bytes = content committed wr.stream.generation

theorem Settled.of_idle (h : Kept env strict log w) (hw : w.writer = some wr)
    (hnone : wr.stream.appendIntent = none) : Settled env strict log w wr where
  kept := h
  writer := hw
  crc := (h.writerOk hw).crc hnone
  bytes := by
    intro f hlookup
    obtain ⟨f',hlookup',hok⟩ := (h.writerOk hw).stream.file
    rw [hlookup'] at hlookup
    cases hlookup
    rw [StreamOk.slack_eq_zero hnone] at hok
    exact hok.bytes_eq

theorem keeps_startNextGeneration (hroot : env.cfg.root ≠ "") (h : Kept env strict log w)
    (hw : w.writer = some wr) (hfile : wr.file = none) :
    Keeps env strict log (startNextGeneration env plan w) fun _ w' =>
      ∃ wr', Settled env strict log w' wr' ∧ wr'.file.isSome ∧ wr'.stream.position = 0 := by
  have hwr := h.writerOk hw
  have hclosed : wr.stream.currentClosed = true := by
    rw [hwr.closed,hfile]
    rfl
  have hnone := hwr.stream.intent_none_of_closed hclosed
  unfold startNextGeneration
  refine sat_bind (keeps_currentWriter hw) ?_
  rintro wr w ⟨rfl,rfl⟩
  refine sat_guard h fun _ => ?_
  refine sat_except h fun dir hdir => ?_
  refine sat_bind (keeps_recordTransition h hw hnone _) ?_
  rintro _ w₁ ⟨h₁,t,hw₁⟩
  refine sat_bind (keeps_openNoFollow h₁ _ _) ?_
  rintro _ w₂ ⟨h₂,hsame,-,f,hlookup⟩
  have hw₂ := hsame.trans hw₁
  refine sat_bind (keeps_statFile h₂ _ hlookup) ?_
  rintro info w₂ ⟨rfl,rfl⟩
  refine sat_guard h₂ fun hlength => ?_
  have hempty : info.bytes = [] := by simpa using hlength
  refine sat_io h₂ h₂.diskOk ?_
  have hwr₂ := h₂.writerOk hw₂
  rw [generationPath_eq hroot hdir] at hlookup ⊢
  have hquiet := h₂.disk.quiet_of_idle (hwr₂.idle hnone) ⟨_,_,rfl⟩ hlookup
  have hstarted : StreamOk env strict w₂.files log
      (nextStream wr.stream (objectKeyOf wr.resource (wr.stream.generation + 1)) info) :=
    hwr₂.stream.next hwr₂.safe hwr₂.keyed hclosed hlookup hempty hquiet
  refine sat_bind (keeps_updateWriter h₂ hw₂ ?_) ?_
  · refine ⟨hstarted,hwr₂.safe,⟨rfl,hwr₂.keyed.2⟩,hwr₂.stored_idle hnone hnone,rfl,?_,?_⟩
    · rintro _ heq
      cases heq
      rfl
    · intro _ _
      have hcontent := hwr₂.stream.content_next
      change Crc64.init = Crc64.checksum (content log (wr.stream.generation + 1))
      rw [hcontent]
      rfl
  rintro _ w₃ ⟨h₃,hw₃,-,-⟩
  refine (keeps_putWriter h₃ hw₃ hnone _).post ?_
  rintro _ w₄ ⟨h₄,hw₄⟩
  exact ⟨_,.of_idle h₄ hw₄ hnone,rfl,rfl⟩

theorem keeps_truncateFile (h : Kept env strict log w) (hp : w.persisted = some s)
    {intent : AppendIntent} (hintent : s.appendIntent = some intent) (site : Site)
    (hhandle : handle.path = objectPath env s.objectKey) :
    Keeps env strict log (truncateFile plan site handle intent.position w) fun _ w' =>
      Kept env strict log w' ∧ w'.persisted = w.persisted ∧ w'.writer = w.writer ∧
        ∃ f, w'.files.lookup (objectPath env s.objectKey) = some f ∧
          f.bytes = content log s.generation := by
  have hsome := isSome_of_eq_some hintent
  have hs := h.streamOk hp hsome
  obtain ⟨f,hlookup,hok⟩ := hs.file
  have hposition : intent.position.toNat = (content log s.generation).length := by
    rw [(hs.intent intent hintent).1,hs.position]
    rfl
  have hkept := h.modifyCurrent hp hsome (fun f _ hok => hok.truncate) fun _ => ⟨rfl,rfl⟩
  unfold truncateFile
  rw [hhandle,hposition]
  refine keeps_onHandle h site handle ((keeps_changeDisk h site hkept).post ?_)
  rintro _ _ rfl
  exact ⟨hkept,modifyFile_persisted ..,modifyFile_writer ..,_,
    lookup_modifyFile hlookup _,hok.truncate_bytes⟩

theorem keeps_syncCurrent (h : Kept env strict log w) (hp : w.persisted = some s)
    (hsome : s.appendIntent.isSome) (site : Site)
    (hhandle : handle.path = objectPath env s.objectKey)
    (hlookup : w.files.lookup (objectPath env s.objectKey) = some f) :
    Keeps env strict log (syncFile plan site handle w) fun _ w' =>
      Kept env strict log w' ∧ w'.persisted = w.persisted ∧ w'.writer = w.writer ∧
        w'.files.lookup (objectPath env s.objectKey) = some f.sync := by
  refine (keeps_syncFile h site handle).post ?_
  rintro _ _ rfl
  rw [hhandle]
  exact ⟨h.modifyCurrent hp hsome (fun f _ hok => hok.sync) fun _ => ⟨rfl,rfl⟩,
    modifyFile_persisted ..,modifyFile_writer ..,lookup_modifyFile hlookup _⟩

theorem WriterOk.setCrc (hwr : WriterOk env strict w.persisted w.files log wr)
    (hsome : wr.stream.appendIntent.isSome) (crc : BitVec 64) :
    WriterOk env strict w.persisted w.files log { wr with crc := crc } := by
  refine { hwr with crc := ?_ }
  intro hnone
  change wr.stream.appendIntent = none at hnone
  rw [hnone] at hsome
  cases hsome

section

variable (h : Kept env strict log w)

include h

theorem keeps_recoverAppend (retried : Bool) :
    Keeps env strict log (recoverAppend plan retried w) fun _ w' =>
      ∃ wr', Settled env strict log w' wr' := by
  unfold recoverAppend
  refine sat_then (keeps_openedWriter h) fun wr hw => ?_
  have hwr := h.writerOk hw
  cases hintent : wr.stream.appendIntent with
  | none => exact ⟨wr,.of_idle h hw hintent⟩
  | some intent =>
    have hsome := isSome_of_eq_some hintent
    have hp := hwr.persisted_eq hsome
    cases hfile : wr.file with
    | none => exact h
    | some handle =>
      have hhandle := hwr.handle handle hfile
      refine sat_bind (keeps_truncateFile h hp hintent _ hhandle) ?_
      rintro _ w₁ ⟨h₁,hp₁,hw₁,f,hlookup,hbytes⟩
      rw [hp] at hp₁
      refine sat_bind (keeps_syncCurrent h₁ hp₁ hsome _ hhandle hlookup) ?_
      rintro _ w₂ ⟨h₂,hp₂,hw₂,hlookup₂⟩
      refine sat_io h₂ h₂.diskOk ?_
      rw [hwr.stream.crc]
      have hwriter : w₂.writer = some wr := by rw [hw₂,hw₁,hw]
      have hwr₂ := h₂.writerOk hwriter
      refine (keeps_updateWriter h₂ hwriter (hwr₂.setCrc hsome _)).post ?_
      rintro _ w₃ ⟨h₃,hw₃,hp₃,hfiles⟩
      refine ⟨_,h₃,hw₃,fun _ => rfl,?_⟩
      intro f' hlookup'
      rw [hfiles,hlookup₂] at hlookup'
      cases hlookup'
      exact hbytes

theorem keeps_recoverFailedAppend (cause : SinkError) :
    Keeps env strict log (recoverFailedAppend plan cause w) Q := by
  unfold recoverFailedAppend
  refine sat_bind (Q := fun _ w' => Kept env strict log w') (sat_catchError ?_) ?_
  · refine (keeps_recoverAppend h true).mono ?_ ?_ fun _ => id
    · rintro _ w₁ ⟨wr',hsettled⟩
      exact hsettled.kept
    · intro e w₁ h₁
      exact h₁.same ⟨rfl,rfl,rfl,rfl,fun _ => rfl⟩
  · intro _ w₁ h₁
    exact h₁

theorem keeps_resumeIntent (length : Int) (digest : String) :
    Keeps env strict log (resumeIntent plan length digest w) fun _ w' =>
      ∃ wr', Settled env strict log w' wr' := by
  unfold resumeIntent
  refine sat_then (keeps_openedWriter h) fun wr hw => ?_
  cases hintent : wr.stream.appendIntent with
  | none => exact ⟨wr,.of_idle h hw hintent⟩
  | some recorded =>
    refine sat_guard h fun _ => ?_
    exact keeps_recoverAppend h false

theorem keeps_loadCapacity :
    Keeps env strict log (loadCapacity plan w) fun _ w' => SameSink strict w w' := by
  unfold loadCapacity
  refine sat_let fun known _ => ?_
  refine sat_ite (fun _ => ⟨rfl,rfl,rfl,rfl,fun _ => rfl⟩) fun _ => ?_
  refine sat_io h h.diskOk ?_
  refine sat_let fun used _ => ?_
  refine sat_guard h fun _ => ?_
  exact ⟨rfl,rfl,rfl,rfl,fun _ => rfl⟩

theorem keeps_reserveCapacity (additional : Int) :
    Keeps env strict log (reserveCapacity env plan additional w) fun _ => SameSink strict w := by
  unfold reserveCapacity
  refine sat_guard h fun _ => ?_
  refine sat_ite (fun _ => ⟨rfl,rfl,rfl,rfl,fun _ => rfl⟩) fun _ => ?_
  refine sat_bind (keeps_loadCapacity h) ?_
  intro _ w₁ hsame
  have h₁ := h.same hsame
  refine sat_let fun used _ => ?_
  refine sat_ite (fun _ => sat_ite (fun _ => h₁) fun _ => h₁) fun _ => hsame

end

theorem Settled.same {wr : Writer} (h : Settled env strict log w wr)
    (hsame : SameSink strict w w') : Settled env strict log w' wr where
  kept := h.kept.same hsame
  writer := hsame.writer.trans h.writer
  crc := h.crc
  bytes := hsame.files ▸ h.bytes

theorem keeps_prepareGeneration (hroot : env.cfg.root ≠ "") (h : Settled env strict log w wr)
    (length : Int) :
    Keeps env strict log (prepareGeneration env plan length w) fun _ w' =>
      ∃ wr', Settled env strict log w' wr' ∧ wr'.file.isSome ∧
        (wr'.stream.position = 0 ∨ wr'.stream.position ≤ env.cfg.maxFileBytes - length) := by
  have hwr := h.kept.writerOk h.writer
  unfold prepareGeneration
  refine sat_bind (keeps_currentWriter h.writer) ?_
  rintro wr w ⟨rfl,rfl⟩
  refine sat_guard h.kept fun _ => ?_
  refine sat_bind (keeps_reserveCapacity h.kept length) ?_
  intro _ w₁ hsame
  have h₁ := h.same hsame
  refine sat_ite ?_ ?_
  · intro hclosed
    have hfile : wr.file = none := by
      rw [hwr.closed] at hclosed
      exact isNone_iff_eq_none.mp hclosed
    refine (keeps_startNextGeneration hroot h₁.kept h₁.writer hfile).post ?_
    rintro _ _ ⟨wr',hsettled,hfile,hzero⟩
    exact ⟨wr',hsettled,hfile,.inl hzero⟩
  intro hopen
  refine sat_ite ?_ ?_
  · rintro ⟨hposition,-⟩
    refine sat_bind (keeps_closeGeneration h₁.kept h₁.writer fun _ _ => hposition) ?_
    rintro _ w₂ ⟨h₂,wr₂,hw₂,hfile⟩
    refine (keeps_startNextGeneration hroot h₂ hw₂ hfile).post ?_
    rintro _ _ ⟨wr',hsettled,hfile,hzero⟩
    exact ⟨wr',hsettled,hfile,.inl hzero⟩
  intro hroom
  refine sat_pure ⟨wr,h₁,?_,?_⟩
  · rw [hwr.closed] at hopen
    simpa [isSome_iff_ne_none] using hopen
  have hnonneg : 0 ≤ wr.stream.position := by
    rw [hwr.stream.position]
    exact Int.natCast_nonneg _
  omega

structure Ready (env : Env) (strict : Prop) (committed : List (Nat × List UInt8)) (length : Int)
    (w : World) (wr : Writer) : Prop extends Settled env strict committed w wr where
  opened : wr.file.isSome
  intent : ∃ intent, wr.stream.appendIntent = some intent ∧ intent.length = length

theorem keeps_recordIntent (h : Settled env strict log w wr) (hfile : wr.file.isSome)
    {length : Int} {digest : String} (hsound : strict → 0 < length ∧
      wr.stream.position ≤ maxInt64 - length ∧ canonicalDigest digest = true) :
    Keeps env strict log (recordIntent plan length digest w) fun _ w' =>
      ∃ wr', Ready env strict log length w' wr' := by
  have hwr := h.kept.writerOk h.writer
  have hopen := hwr.opened hfile
  unfold recordIntent
  refine sat_bind (keeps_currentWriter h.writer) ?_
  rintro wr w ⟨rfl,rfl⟩
  cases hintent : wr.stream.appendIntent with
  | some recorded =>
    refine sat_check (fun heq => ?_) fun _ => h.kept
    simp only [ne_eq,decide_not,Bool.not_eq_false',decide_eq_true_eq] at heq
    subst heq
    exact ⟨wr,h,hfile,_,hintent,rfl⟩
  | none =>
    let intent := fileAppendIntent wr.stream length digest
    have hs : StreamOk env strict w.files log { wr.stream with appendIntent := some intent } :=
      hwr.stream.setIntent hintent hopen hsound
    have hw' := updateWriter_writer h.writer fun w =>
      { w with stream := { w.stream with appendIntent := some intent } }
    have hput : Kept env strict log { setIntent (some intent) w with
        persisted := some { wr.stream with appendIntent := some intent } } := by
      have hdisk := DiskInv.putQuiet hs fun _ _ => h.kept.disk.quiet_of_idle (hwr.idle hintent)
      refine .intro hdisk ?_ h.kept.2 h.kept.accepted
      intro wr' hwr'
      cases hw'.symm.trans hwr'
      exact ⟨hs,hwr.safe,hwr.keyed,⟨_,rfl,fun _ => rfl,fun _ => rfl⟩,hwr.closed,hwr.handle,nofun⟩
    refine sat_set ?_
    refine sat_onError (sat_putSinkStream hs ?_ ?_ h.kept.diskOk hput.diskOk)
    · intro e w₁ hsame
      refine h.kept.setWriter hsame.persisted hsame.files hsame.committed hsame.refused ?_ hwr
      rw [setIntent,updateWriter_writer (hsame.writer.trans hw'),← hintent]
    · exact ⟨_,⟨hput,hw',h.crc,h.bytes⟩,hfile,intent,rfl,rfl⟩

theorem restoredCrc_appendedStream (s : SinkStream) (crc : BitVec 64) (length : Int) :
    restoredCrc (appendedStream s crc length) = some crc := by
  have hstate : (appendedStream s crc length).crc64State = Crc64.marshalBinary crc := rfl
  rw [restoredCrc,hstate,if_pos (by simp [Crc64.marshalBinary,Crc64.header])]
  exact Crc64.unmarshalBinary_marshalBinary crc

theorem StreamOk.appended (hs : StreamOk env strict w.files log s) (hopen : s.currentClosed = false)
    {data : List UInt8} {f : DiskFile}
    (hlookup : w.files.lookup (objectPath env s.objectKey) = some f) (hquiet : Quiet f)
    (hbytes : f.bytes = content log s.generation ++ data) :
    StreamOk env strict w.files (log ++ [(s.generation, data)])
      (appendedStream s (Crc64.write (Crc64.checksum (content log s.generation)) data)
        data.length) where
  named := hs.named
  keyed := hs.keyed
  position := by
    change s.position + data.length = ((content _ s.generation).length : Int)
    rw [content_append_same,length_append,hs.position]
    rfl
  crc := by
    change restoredCrc _ = some (Crc64.checksum (content _ s.generation))
    rw [content_append_same,Crc64.checksum_append,restoredCrc_appendedStream]
  file := by
    change FileAt env w.files s.objectKey (content _ s.generation) 0
    rw [content_append_same]
    exact ⟨f,hlookup,.of_quiet hquiet hbytes⟩
  closed := by
    intro i o ho
    have hcount := hs.count
    rw [hopen] at hcount
    have hne : s.generation ≠ i := by
      have hbound := (List.getElem?_eq_some_iff.mp ho).1
      exact (hcount ▸ hbound).ne'
    rw [content_append_other log hne]
    exact hs.closed i o ho
  count := hs.count
  intent := nofun
  latest := forall_mem_append.mpr ⟨hs.latest,forall_mem_singleton.mpr le_rfl⟩
  identity := hs.identity
  sound := fun hstrict =>
    ⟨(hs.sound hstrict).reference,(hs.sound hstrict).referenced,(hs.sound hstrict).sized,nofun⟩

variable {data : List UInt8}

theorem Ready.slack_eq (h : Ready env strict log data.length w wr) :
    slack wr.stream = data.length := by
  obtain ⟨intent,hintent,hlength⟩ := h.intent
  rw [slack,hintent,map_some,hlength]
  rfl

theorem Ready.isSome {length : Int} (h : Ready env strict log length w wr) :
    wr.stream.appendIntent.isSome := by
  obtain ⟨intent,hintent,-⟩ := h.intent
  exact isSome_of_eq_some hintent

theorem keeps_writeData (h : Ready env strict log data.length w wr)
    (hp : w.persisted = some wr.stream) (site : Site)
    (hhandle : handle.path = objectPath env wr.stream.objectKey)
    (hlookup : w.files.lookup (objectPath env wr.stream.objectKey) = some f) :
    Keeps env strict log (writeFull plan site handle data w) fun _ w' =>
      Kept env strict log w' ∧ w'.persisted = w.persisted ∧ w'.writer = w.writer ∧
        w'.files.lookup (objectPath env wr.stream.objectKey) = some (f.append data) := by
  have hwrite (part : List UInt8) (hpart : part.length ≤ data.length) : Kept env strict log
      (w.modifyFile (objectPath env wr.stream.objectKey) (DiskFile.append part)) := by
    refine h.kept.modifyCurrent hp h.isSome ?_ fun _ => ⟨rfl,rfl⟩
    intro f' hlookup' hok
    exact hok.append (h.bytes f' hlookup') (h.slack_eq.symm ▸ hpart)
  have hpart (n : Nat) := hwrite (data.take n) (length_take_le' n data)
  unfold writeFull
  rw [hhandle]
  refine keeps_onHandle h.kept site handle (sat_perform (fun _ => ?_) (fun n _ => hpart n)
    fun n _ => (hpart n).diskOk)
  exact ⟨hwrite data le_rfl,modifyFile_persisted ..,modifyFile_writer ..,
    lookup_modifyFile hlookup _⟩

theorem Kept.quiet_synced (h : Kept env strict log w) (hp : w.persisted = some s)
    (hlookup : w.files.lookup (objectPath env s.objectKey) = some f.sync) (path : String)
    (f' : DiskFile) (hdata : DataPath env path) (hlookup' : w.files.lookup path = some f') :
    Quiet f' := by
  rcases h.disk.quiet path f' hdata hlookup' with hquiet | ⟨p,hp',-,hpath⟩
  · exact hquiet
  rw [hp] at hp'
  cases hp'
  rw [hpath,hlookup] at hlookup'
  cases hlookup'
  exact FileOk.quiet_sync f

theorem sameSink_adjustCapacity (delta : Int) (w : World) :
    SameSink strict w (w.adjustCapacity delta) := by
  unfold adjustCapacity
  split_ifs <;> exact ⟨rfl,rfl,rfl,rfl,fun _ => rfl⟩

theorem sat_appendData (h : Ready env strict log data.length w wr) : (appendData plan data w).Sat
      (fun _ w' => Kept env strict (log ++ [(wr.stream.generation, data)]) w')
      (fun _ w' => Kept env strict log w') (DiskOk env strict) := by
  have hwr := h.kept.writerOk h.writer
  have hsome := h.isSome
  have hp := hwr.persisted_eq hsome
  obtain ⟨handle,hfile⟩ := isSome_iff_exists.mp h.opened
  have hhandle := hwr.handle handle hfile
  have hopen := hwr.opened h.opened
  obtain ⟨f,hlookup,-⟩ := hwr.stream.file
  have hbytes := h.bytes f hlookup
  unfold appendData
  refine sat_bind (keeps_currentWriter h.writer) ?_
  rintro wr w ⟨rfl,rfl⟩
  simp only [hfile]
  refine sat_bind (keeps_writeData h hp _ hhandle hlookup) ?_
  rintro _ w₁ ⟨h₁,hp₁,hw₁,hlookup₁⟩
  rw [hp] at hp₁
  refine sat_bind (keeps_syncCurrent h₁ hp₁ hsome _ hhandle hlookup₁) ?_
  rintro _ w₂ ⟨h₂,hp₂,hw₂,hlookup₂⟩
  have hwriter₂ : w₂.writer = some wr := by rw [hw₂,hw₁,h.writer]
  have hcrc := h.crc h.opened
  rw [hcrc]
  refine sat_bind (keeps_updateWriter h₂ hwriter₂ ((h₂.writerOk hwriter₂).setCrc hsome _)) ?_
  rintro _ w₃ ⟨h₃,hw₃,hp₃,hfiles⟩
  rw [hcrc] at hw₃
  have hwr₃ := h₃.writerOk hw₃
  have hlookup₃ : w₃.files.lookup (objectPath env wr.stream.objectKey) =
      some (f.append data).sync := by rw [hfiles,hlookup₂]
  have hnext := hwr₃.stream.appended hopen hlookup₃ (FileOk.quiet_sync _)
    (show f.bytes ++ data = _ by rw [hbytes])
  have hdisk := DiskInv.putQuiet hnext (h₃.quiet_synced (hwr₃.persisted_eq hsome) hlookup₃)
  refine sat_bind (sat_putSinkStreamWith hnext.named hnext.valid (fun _ _ hsame => h₃.same hsame)
    (Q := fun _ w' => w' = { w₃ with
      persisted := some (appendedStream wr.stream _ data.length)
      committed := w₃.committed ++ [(wr.stream.generation, data)] }) rfl h₃.diskOk ?_) ?_
  · refine ⟨?_,h₃.accepted⟩
    change DiskInv env strict _ w₃.files (w₃.committed ++ [(wr.stream.generation, data)])
    rwa [h₃.2]
  rintro _ _ rfl
  refine sat_set ?_
  refine sat_update (Kept.same (.intro hdisk ?_ ?_ ?_) (sameSink_adjustCapacity _ _))
  · intro wr' hwr'
    cases (updateWriter_writer hw₃ _).symm.trans hwr'
    refine ⟨hnext,hwr₃.safe,hwr₃.keyed,⟨_,rfl,fun _ => rfl,fun _ => rfl⟩,hwr₃.closed,hwr₃.handle,?_⟩
    intro _ _
    change _ = Crc64.checksum (content _ wr.stream.generation)
    rw [content_append_same,Crc64.checksum_append]
  · change w₃.committed ++ _ = _
    rw [h₃.2]
  · exact h₃.accepted

end Steps

end OpenSandbox.NodeAgent.FileSink
