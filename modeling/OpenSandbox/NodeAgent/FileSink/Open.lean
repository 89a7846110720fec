import OpenSandbox.NodeAgent.FileSink.Steps

namespace OpenSandbox.NodeAgent.FileSink

open Fallible Prog SegmentLog Option Bool

theorem key_of_closedLayoutOk {r : Resource} {objects : List ClosedObject} {index : Nat}
    (h : closedLayoutOk r index objects = true) {i : Nat} {o : ClosedObject}
    (ho : objects[i]? = some o) : o.key = objectKeyOf r (index + i) := by
  induction objects generalizing index i with
  | nil => cases ho
  | cons object rest ih =>
    simp only [closedLayoutOk,and_eq_true,decide_eq_true_eq] at h
    obtain ⟨⟨hgeneration,hkey⟩,hrest⟩ := h
    cases i with
    | zero =>
      cases ho
      rw [hkey,hgeneration]
      rfl
    | succ i =>
      have hnext := ih hrest ho
      rw [hnext]
      congr 1
      omega

section Open

variable {env : Env} {strict : Prop} {plan : Site → Fate} {log : List (Nat × List UInt8)}
  {w w' : World}
  {s : SinkStream} {r : Resource}

theorem closedLayout_of_ok (h : validateClosedFileLayout env r s = .ok ()) {i : Nat}
    {o : ClosedObject} (ho : s.closedObjects[i]? = some o) : o.key = objectKeyOf r i := by
  unfold validateClosedFileLayout at h
  obtain ⟨dir,-,hreject⟩ := Outcome.bind_eq_ok.mp h
  have hlayout := Outcome.reject_eq_ok.mp hreject
  have hok : closedLayoutOk r 0 s.closedObjects = true := by
    simpa using hlayout _ (List.mem_cons_of_mem _ List.mem_cons_self)
  simpa using key_of_closedLayoutOk hok ho

theorem Sound.settled (h : Sound env s) {t : SinkStream} (hreference : t.streamRef = s.streamRef)
    (hclosed : t.closedObjects = s.closedObjects) (hidle : t.appendIntent = none) :
    Sound env t where
  reference := hreference.trans h.reference
  referenced := h.referenced
  sized := hclosed ▸ h.sized
  intent := by
    rw [hidle]
    nofun

def SameStream (s t : SinkStream) : Prop :=
  t = { s with
    objectKey := t.objectKey, device := t.device, inode := t.inode, appendIntent := t.appendIntent }

structure Opened (env : Env) (strict : Prop) (committed : List (Nat × List UInt8)) (r : Resource)
    (s : SinkStream) (w : World) : Prop where
  kept : Kept env strict committed w
  stream : StreamOk env strict w.files committed s
  idle : s.appendIntent = none
  opened : s.currentClosed = false
  safe : Safe r
  keyed : Keyed r s
  quiet : ∀ path f, DataPath env path → w.files.lookup path = some f → Quiet f

theorem keeps_loadCrc (h : Opened env strict log r s w) :
    Keeps env strict log (loadCrc plan (objectPath env s.objectKey) s w) fun crc w' =>
      w' = w ∧ crc = Crc64.checksum (content log s.generation) := by
  have hcrc := h.stream.crc
  unfold restoredCrc at hcrc
  unfold loadCrc
  refine sat_ite ?_ ?_
  · intro hstate
    rw [if_pos hstate] at hcrc
    rw [hcrc]
    exact ⟨rfl,rfl⟩
  intro hstate
  rw [if_neg hstate] at hcrc
  refine sat_ite ?_ fun _ => ⟨rfl,some.inj hcrc⟩
  intro hpositive
  refine sat_io h.kept h.kept.diskOk ?_
  refine sat_let fun _ hread => ?_
  subst hread
  refine sat_pure ⟨rfl,?_⟩
  obtain ⟨f,hlookup,hok⟩ := h.stream.file
  rw [StreamOk.slack_eq_zero h.idle] at hok
  rw [hlookup,h.stream.position]
  simp [hok.bytes_eq]

theorem keeps_attachWriter (h : Opened env strict log r s w) :
    Keeps env strict log (attachWriter plan s r (objectPath env s.objectKey) w) fun _ w' =>
      Kept env strict log w' ∧ ∃ wr, w'.writer = some wr ∧ wr.resource = r ∧ wr.stream = s := by
  unfold attachWriter
  refine sat_io h.kept h.kept.diskOk ?_
  refine sat_bind (keeps_loadCrc h) ?_
  rintro _ w ⟨rfl,rfl⟩
  let wr : Writer := ⟨s,r,some ⟨objectPath env s.objectKey,false⟩,
    Crc64.checksum (content log s.generation)⟩
  refine sat_set ?_
  have hput : Kept env strict log { w with writer := some wr, persisted := some s } := by
    refine .intro (.putQuiet h.stream h.quiet) ?_ h.kept.2 h.kept.accepted
    intro wr' hwr'
    cases hwr'
    refine ⟨h.stream,h.safe,h.keyed,⟨s,rfl,fun _ => rfl,fun _ => rfl⟩,h.opened,?_,fun _ _ => rfl⟩
    rintro _ heq
    cases heq
    rfl
  refine sat_onError (sat_skip (sat_attempt rfl ?_ h.kept.diskOk) fun _ => ?_)
  · exact Kept.dropWriter h.kept.diskOk h.kept.2
  refine sat_putSinkStream h.stream ?_ ⟨hput,wr,rfl,rfl,rfl⟩ h.kept.diskOk hput.diskOk
  intro e w₁ hsame
  refine Kept.dropWriter ?_ (hsame.committed.trans h.kept.2)
  unfold DiskOk
  rw [hsame.persisted,hsame.files,hsame.committed]
  refine ⟨h.kept.diskOk.1,fun hstrict => ?_⟩
  rw [hsame.refused hstrict]
  exact h.kept.accepted hstrict

theorem Kept.streamOk_of_keyed (h : Kept env strict log w) (hp : w.persisted = some s)
    (hkeyed : ∃ r, Safe r ∧ Keyed r s) : StreamOk env strict w.files log s := by
  rcases h.disk.stream s hp with ⟨hbare,-⟩ | hok
  · obtain ⟨r,-,hkey,-⟩ := hkeyed
    rw [hbare.unkeyed] at hkey
    exact absurd hkey.symm (objectKeyOf_ne_empty r s.generation)
  · exact hok

theorem StreamOk.setIdentity (hs : StreamOk env strict w.files log s)
    (hidle : s.appendIntent = none) {info : DiskFile}
    (hlookup : w.files.lookup (objectPath env s.objectKey) = some info) :
    StreamOk env strict w.files log { s with device := info.device, inode := info.inode } :=
  { hs with
    intent := by
      intro i hi
      rw [show s.appendIntent = some i from hi] at hidle
      cases hidle
    identity := by
      intro f hf
      cases hlookup.symm.trans hf
      exact ⟨rfl,rfl⟩
    sound := fun hstrict => (hs.sound hstrict).settled rfl rfl hidle }

variable {intent : AppendIntent}

section

variable (h : Kept env strict log w)

include h

theorem keeps_quarantineOrphan (hfree : w.persisted = none) (hwriter : w.writer = none)
    (path : String) : Keeps env strict log (quarantineOrphan plan path w) fun _ w' =>
      Kept env strict log w' ∧ w'.persisted = none ∧ w'.writer = none := by
  have hmoved : Kept env strict log (w.quarantine path) ∧ (w.quarantine path).persisted = none ∧
      (w.quarantine path).writer = none := by
    unfold World.quarantine
    cases hlookup : w.files.lookup path with
    | none => exact ⟨h,hfree,hwriter⟩
    | some file =>
      refine ⟨.intro ⟨h.disk.fresh,?_,?_⟩ ?_ h.2 h.accepted,hfree,hwriter⟩
      · intro p hp
        rw [show w.persisted = some p from hp] at hfree
        cases hfree
      · intro path' f hdata hf
        have hne : path' ≠ path := by
          rintro rfl
          rw [AList.lookup_erase] at hf
          cases hf
        rw [AList.lookup_erase_ne hne] at hf
        exact h.disk.quiet path' f hdata hf
      · intro wr hwr
        rw [show w.writer = some wr from hwr] at hwriter
        cases hwriter
  unfold quarantineOrphan
  refine sat_io h h.diskOk ?_
  refine sat_bind (keeps_changeDisk h _ hmoved.1) ?_
  rintro _ _ rfl
  refine sat_io hmoved.1 hmoved.1.diskOk ?_
  exact sat_attempt hmoved hmoved.1 hmoved.1.diskOk

theorem keeps_openGenerationFile (hwriter : w.writer = none) (found : Bool)
    (hfree : found = false → w.persisted = none) (path : String) :
    Keeps env strict log (openGenerationFile plan found path w) fun info w' =>
      Kept env strict log w' ∧ w'.persisted = w.persisted ∧ w'.writer = none ∧
        w'.files.lookup path = some info := by
  unfold openGenerationFile
  refine sat_io h h.diskOk ?_
  refine sat_bind (keeps_openNoFollow h _ path) ?_
  rintro _ w₁ ⟨h₁,hw₁,hp₁,f,hlookup⟩
  refine sat_bind (keeps_statFile h₁ _ hlookup) ?_
  rintro info w₁ ⟨rfl,rfl⟩
  refine sat_ite ?_ fun _ => ⟨h₁,hp₁,hw₁.trans hwriter,hlookup⟩
  rintro ⟨hfound,-⟩
  have hnone := hfree hfound
  refine sat_bind (keeps_quarantineOrphan h₁ (hp₁.trans hnone) (hw₁.trans hwriter) path) ?_
  rintro _ w₂ ⟨h₂,hp₂,hw₂⟩
  refine sat_bind (keeps_openNoFollow h₂ _ path) ?_
  rintro _ w₃ ⟨h₃,hw₃,hp₃,f,hlookup₃⟩
  refine (keeps_statFile h₃ _ hlookup₃).post ?_
  rintro info w₃ ⟨rfl,rfl⟩
  exact ⟨h₃,by rw [hp₃,hp₂,hnone],hw₃.trans hw₂,hlookup₃⟩

theorem keeps_resolveIntent (hwriter : w.writer = none) (hp : w.persisted = some s)
    (hintent : s.appendIntent = some intent) (info : DiskFile) :
    Keeps env strict log (resolveIntent plan (objectPath env s.objectKey) info
        { s with device := info.device, inode := info.inode } intent w) fun a w' =>
      Kept env strict log w' ∧ w'.writer = none ∧ w'.persisted = some s ∧
        (∃ f : DiskFile, w'.files.lookup (objectPath env s.objectKey) = some f.sync ∧
          f.bytes = content log s.generation) ∧
        a.1 = { s with
          device := info.device, inode := info.inode, position := intent.position
          appendIntent := none } := by
  have hsome := isSome_of_eq_some hintent
  unfold resolveIntent
  refine sat_guard h fun _ => ?_
  refine sat_guard h fun _ => ?_
  refine sat_bind (keeps_truncateFile h hp hintent _ rfl) ?_
  rintro _ w₁ ⟨h₁,hp₁,hw₁,f,hlookup,hbytes⟩
  refine sat_bind (sat_onError ((keeps_syncCurrent h₁ (hp₁.trans hp) hsome _ rfl hlookup).mono
    (fun _ _ => id) ?_ fun _ => id)) ?_
  · intro e w₂ h₂
    exact h₂.same ⟨rfl,rfl,rfl,rfl,fun _ => rfl⟩
  rintro _ w₂ ⟨h₂,hp₂,hw₂,hlookup₂⟩
  refine sat_bind
    (sat_update (Q := fun _ w' => SameSink strict w₂ w') (sameSink_adjustCapacity _ _)) ?_
  intro _ w₃ hsame
  refine sat_pure ⟨h₂.same hsame,?_,?_,⟨f,?_,hbytes⟩,rfl⟩
  · rw [hsame.writer,hw₂,hw₁,hwriter]
  · rw [hsame.persisted,hp₂,hp₁,hp]
  · rw [hsame.files,hlookup₂]

end

structure Blank (env : Env) (strict : Prop) (r : Resource) (s : SinkStream) : Prop where
  named : s.sinkName = "file"
  key : s.objectKey = objectKeyOf r s.generation
  position : s.position = 0
  crc : s.crc64State = []
  closed : s.closedObjects = []
  generation : s.generation = 0
  opened : s.currentClosed = false
  intent : s.appendIntent = none
  sound : strict → Sound env s

theorem Blank.keyed (h : Blank env strict r s) : Keyed r s := by
  refine ⟨h.key,?_⟩
  rw [h.closed]
  nofun

theorem Blank.streamOk (h : Blank env strict r s) (hsafe : Safe r) {info : DiskFile}
    (hlookup : w.files.lookup (objectPath env s.objectKey) = some info) (hempty : info.bytes = [])
    (hquiet : Quiet info) (hidentity : info.device = s.device ∧ info.inode = s.inode) :
    StreamOk env strict w.files [] s where
  named := h.named
  keyed := ⟨r,hsafe,h.keyed⟩
  position := h.position
  crc := by
    rw [restoredCrc,h.crc,if_neg (not_not.mpr rfl),h.generation]
    rfl
  file := by
    refine ⟨info,hlookup,?_⟩
    rw [StreamOk.slack_eq_zero h.intent]
    exact .of_quiet hquiet hempty
  closed := by
    rw [h.closed]
    simp
  count := by
    rw [h.closed,h.opened,h.generation]
    rfl
  intent := by
    rw [h.intent]
    simp
  latest := nofun
  identity := by
    intro f hf
    cases hlookup.symm.trans hf
    exact hidentity
  sound := h.sound

theorem settleIntent_idle (hidle : s.appendIntent = none) (found : Bool) (path : String)
    (info : DiskFile) :
    settleIntent plan found path info s = pure (s, (info.bytes.length : Int)) := by
  unfold settleIntent
  split
  · simp_all
  · rfl

def Attached (env : Env) (strict : Prop) (log : List (Nat × List UInt8)) (r : Resource)
    (s : SinkStream) (w : World) : Prop :=
  Kept env strict log w ∧ ∃ wr, w.writer = some wr ∧ wr.resource = r ∧ SameStream s wr.stream

section

variable (h : Kept env strict log w) (hwriter : w.writer = none)

include h hwriter

theorem keeps_openStream_blank (found : Bool) (hfree : found = false → w.persisted = none)
    (hidle : ∀ p, w.persisted = some p → p.appendIntent = none) (hempty : log = [])
    (hsafe : Safe r) (hblank : Blank env strict r s) :
    Keeps env strict log (openStream plan found s r (objectPath env s.objectKey) w) fun _ =>
      Attached env strict log r s := by
  rw [openStream,if_neg (eq_false_iff.mp hblank.opened)]
  unfold openCurrent
  refine sat_bind (keeps_openGenerationFile h hwriter found hfree _) ?_
  rintro info w₁ ⟨h₁,hp₁,hw₁,hlookup⟩
  refine sat_guard h₁ fun _ => ?_
  let opened : SinkStream := { s with device := info.device, inode := info.inode }
  have hopened : Blank env strict r opened := ⟨hblank.named,hblank.key,hblank.position,
    hblank.crc,hblank.closed,hblank.generation,hblank.opened,hblank.intent,
    fun hstrict => (hblank.sound hstrict).settled rfl rfl hblank.intent⟩
  refine sat_bind (Q := fun a w' => w' = w₁ ∧ a = (opened, (info.bytes.length : Int))) ?_ ?_
  · rw [settleIntent_idle hopened.intent]
    exact ⟨rfl,rfl⟩
  rintro _ w₁ ⟨rfl,rfl⟩
  refine sat_guard h₁ fun hsize => ?_
  have hbytes : info.bytes = [] := by
    rw [show opened.position = 0 from hblank.position] at hsize
    simpa using hsize
  have hquiet : ∀ path f, DataPath env path → w₁.files.lookup path = some f → Quiet f :=
    fun _ _ => h₁.disk.quiet_of_idle fun p hp => hidle p (hp₁ ▸ hp)
  have hdata : DataPath env (objectPath env s.objectKey) := ⟨r,s.generation,by rw [hblank.key]⟩
  subst hempty
  refine (keeps_attachWriter (s := opened) ⟨h₁,
    hopened.streamOk hsafe hlookup hbytes (hquiet _ _ hdata hlookup) ⟨rfl,rfl⟩,hblank.intent,
    hblank.opened,hsafe,hopened.keyed,hquiet⟩).post ?_
  rintro _ w₂ ⟨h₂,wr,hw₂,hresource,hstream⟩
  exact ⟨h₂,wr,hw₂,hresource,by rw [hstream]; rfl⟩

theorem keeps_openStored (hp : w.persisted = some s) (hs : StreamOk env strict w.files log s)
    (hopen : s.currentClosed = false) (hsafe : Safe r) (hkeyed : Keyed r s) :
    Keeps env strict log (openCurrent plan true s r (objectPath env s.objectKey) w) fun _ =>
      Attached env strict log r s := by
  unfold openCurrent
  refine sat_bind (keeps_openGenerationFile h hwriter true nofun _) ?_
  rintro info w₁ ⟨h₁,hp₁,hw₁,hlookup⟩
  rw [hp] at hp₁
  have hs₁ := h₁.streamOk_of_keyed hp₁ hs.keyed
  refine sat_guard h₁ fun _ => ?_
  refine sat_bind (Q := fun a w' => Opened env strict log r a.1 w' ∧
    a.1.objectKey = s.objectKey ∧ SameStream s a.1) ?_ ?_
  · obtain hintent | ⟨intent,hintent⟩ := eq_none_or_eq_some s.appendIntent
    · have hidle : ∀ p, w₁.persisted = some p → p.appendIntent = none := by
        intro p hp
        cases hp₁.symm.trans hp
        exact hintent
      rw [settleIntent_idle (s := { s with device := info.device, inode := info.inode }) hintent]
      exact ⟨⟨h₁,hs₁.setIdentity hintent hlookup,hintent,hopen,hsafe,hkeyed,
        fun _ _ => h₁.disk.quiet_of_idle hidle⟩,rfl,rfl⟩
    · simp only [settleIntent,hintent]
      refine (keeps_resolveIntent h₁ hw₁ hp₁ hintent info).post ?_
      rintro ⟨resolved,size⟩ w₂ ⟨h₂,hw₂,hp₂,⟨f,hlookup₂,hbytes⟩,rfl⟩
      have hfile : FileAt env w₂.files s.objectKey (content log s.generation) 0 :=
        ⟨_,hlookup₂,.of_quiet (FileOk.quiet_sync f) hbytes⟩
      have hs₂ := h₂.streamOk_of_keyed hp₂ hs.keyed
      have hidentity : ∀ f, w₂.files.lookup (objectPath env s.objectKey) = some f →
          f.device = info.device ∧ f.inode = info.inode := by
        intro f hf
        rw [(hs₂.identity f hf).1,(hs₂.identity f hf).2,(hs₁.identity info hlookup).1,
          (hs₁.identity info hlookup).2]
        exact ⟨rfl,rfl⟩
      refine ⟨⟨h₂,{ hs₂ with
        position := (hs₂.intent intent hintent).1.trans hs₂.position
        file := hfile
        intent := nofun
        identity := hidentity
        sound := fun hstrict => (hs₂.sound hstrict).settled rfl rfl rfl },rfl,hopen,hsafe,
          hkeyed,h₂.quiet_synced hp₂ hlookup₂⟩,rfl,?_⟩
      rw [(hs₂.intent intent hintent).1]
      rfl
  rintro ⟨resolved,size⟩ w₂ ⟨hresolved,hkey,hsame⟩
  refine sat_guard hresolved.kept fun _ => ?_
  rw [← hkey]
  refine (keeps_attachWriter hresolved).post ?_
  rintro _ w₃ ⟨h₃,wr,hw₃,hresource,rfl⟩
  exact ⟨h₃,wr,hw₃,hresource,hsame⟩

theorem keeps_openStream_stored (hp : w.persisted = some s)
    (hs : StreamOk env strict w.files log s) (hsafe : Safe r) (hkeyed : Keyed r s) :
    Keeps env strict log (openStream plan true s r (objectPath env s.objectKey) w) fun _ =>
      Attached env strict log r s := by
  unfold openStream
  refine sat_ite (fun hclosed => ?_) fun hopen =>
    keeps_openStored h hwriter hp hs (eq_false_iff.mpr hopen) hsafe hkeyed
  have hidle := hs.intent_none_of_closed hclosed
  refine sat_guard h fun _ => ?_
  refine sat_update ⟨?_,_,rfl,rfl,rfl⟩
  exact h.setWriter rfl rfl rfl (fun _ => rfl) rfl
    ⟨hs,hsafe,hkeyed,⟨s,hp,fun _ => rfl,fun _ => rfl⟩,hclosed,nofun,nofun⟩

end

theorem keeps_getSinkStream (h : Kept env strict log w) :
    Keeps env strict log (getSinkStream env plan w) fun a w' => w' = w ∧ a = w.persisted := by
  unfold getSinkStream
  refine sat_io h h.diskOk ?_
  refine sat_let fun stored hstored => ?_
  cases stored with
  | none => exact ⟨rfl,hstored⟩
  | some stream =>
    refine sat_except h fun _ _ => ?_
    refine sat_guard h fun _ => ?_
    exact ⟨rfl,hstored⟩

theorem keeps_openWriter (hroot : env.cfg.root ≠ "") (hreferenced : strict → env.streamRef ≠ "")
    (h : Kept env strict log w) (hwriter : w.writer = none) (r : Resource) :
    Keeps env strict log (openWriter env plan r w) fun _ =>
      Attached env strict log r (w.persisted.getD (newSinkStream env)) := by
  unfold openWriter
  refine sat_then (keeps_getSinkStream h) fun stored hstored => ?_
  refine sat_except h fun dir hdir => ?_
  obtain ⟨hsafe,-⟩ := familyDir_eq_ok hdir
  refine sat_guard h fun hmismatch => ?_
  refine sat_guard h fun _ => ?_
  refine sat_except h fun _ hlayout => ?_
  rw [generationPath_eq hroot hdir,← hstored]
  cases stored with
  | none =>
    have hblank : Blank env strict r { newSinkStream env with objectKey := objectKeyOf r 0 } :=
      ⟨rfl,rfl,rfl,rfl,rfl,rfl,rfl,rfl,fun hstrict => ⟨rfl,hreferenced hstrict,nofun,nofun⟩⟩
    have hidle : ∀ q, w.persisted = some q → q.appendIntent = none := by
      intro q hq
      cases hstored.trans hq
    exact keeps_openStream_blank h hwriter false (fun _ => hstored.symm) hidle
      (h.disk.fresh hstored.symm) hsafe hblank
  | some p =>
    rcases h.disk.stream p hstored.symm with ⟨hbare,hempty⟩ | hs
    · have hblank : Blank env strict r { p with objectKey := objectKeyOf r p.generation } :=
        ⟨hbare.named,rfl,hbare.position,hbare.crc,hbare.closed,hbare.generation,hbare.opened,
          hbare.intent,fun hstrict => (hbare.sound hstrict).settled rfl rfl hbare.intent⟩
      have hidle : ∀ q, w.persisted = some q → q.appendIntent = none := by
        intro q hq
        cases hstored.trans hq
        exact hbare.intent
      exact keeps_openStream_blank h hwriter true nofun hidle hempty hsafe hblank
    have hkey : p.objectKey = objectKeyOf r p.generation := by
      obtain ⟨r',-,hkey',-⟩ := hs.keyed
      have hne := objectKeyOf_ne_empty r' p.generation
      rw [← hkey'] at hne
      simpa [hne] using hmismatch
    have hsame : { p with objectKey := objectKeyOf r p.generation } = p := by rw [← hkey]
    simp only [getD_some,isSome_some,hsame,if_true] at hlayout ⊢
    rw [← hkey]
    exact keeps_openStream_stored h hwriter hstored.symm hs hsafe
      ⟨hkey,fun i o ho => closedLayout_of_ok hlayout ho⟩

theorem keeps_getWriter (hroot : env.cfg.root ≠ "") (hreferenced : strict → env.streamRef ≠ "")
    (h : Kept env strict log w) (r : Resource) :
    Keeps env strict log (getWriter env plan r w) fun _ w' =>
      Kept env strict log w' ∧ ∃ wr, w'.writer = some wr ∧ wr.resource = r := by
  unfold getWriter
  refine sat_let fun existing hexisting => ?_
  cases existing with
  | none =>
    refine (keeps_openWriter hroot hreferenced h hexisting.symm r).post ?_
    rintro _ w₁ ⟨h₁,wr,hw₁,hresource,-⟩
    exact ⟨h₁,wr,hw₁,hresource⟩
  | some wr =>
    refine sat_check (fun hresource => ?_) fun _ => h
    exact ⟨h,wr,hexisting.symm,by simpa using hresource⟩

end Open

end OpenSandbox.NodeAgent.FileSink
