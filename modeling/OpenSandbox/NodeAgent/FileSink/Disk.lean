import OpenSandbox.Library.SegmentLog
import OpenSandbox.NodeAgent.FileSink.Model

namespace OpenSandbox.NodeAgent.FileSink

open SegmentLog List

structure FileOk (f : DiskFile) (bytes : List UInt8) (slack : Nat) : Prop where
  start : f.bytes.take bytes.length = bytes
  kept : bytes.length ≤ f.stable
  within : f.stable ≤ f.bytes.length
  reached : f.bytes.length ≤ f.peak
  bounded : f.peak ≤ bytes.length + slack

def Quiet (f : DiskFile) : Prop := f.stable = f.bytes.length ∧ f.peak = f.bytes.length

namespace FileOk

variable {f : DiskFile} {bytes : List UInt8} {slack : Nat}

theorem bytes_eq (h : FileOk f bytes 0) : f.bytes = bytes := by
  have hlength : f.bytes.length ≤ bytes.length := by
    have := h.reached
    have := h.bounded
    omega
  rw [← h.start,take_of_length_le hlength]

theorem quiet (h : FileOk f bytes 0) : Quiet f := by
  have heq := congrArg length h.bytes_eq
  have := h.kept
  have := h.within
  have := h.reached
  have := h.bounded
  constructor <;> omega

theorem of_quiet (hquiet : Quiet f) (heq : f.bytes = bytes) : FileOk f bytes 0 := by
  obtain ⟨hstable,hpeak⟩ := hquiet
  subst heq
  exact ⟨take_length,hstable.ge,hstable.le,hpeak.ge,by omega⟩

section

variable (h : FileOk f bytes slack)

include h

theorem truncate_bytes : (f.truncate bytes.length).bytes = bytes := by
  have hlength : bytes.length ≤ f.bytes.length := h.kept.trans h.within
  rw [DiskFile.truncate,Nat.sub_eq_zero_of_le hlength,replicate_zero,append_nil,h.start]

theorem truncate : FileOk (f.truncate bytes.length) bytes slack where
  start := by rw [h.truncate_bytes,take_length]
  kept := by
    have := h.kept
    simp only [DiskFile.truncate]
    omega
  within := by
    rw [h.truncate_bytes]
    exact min_le_right _ _
  reached := by
    rw [h.truncate_bytes]
    exact le_max_right _ _
  bounded := by
    have := h.bounded
    simp only [DiskFile.truncate]
    omega

theorem sync : FileOk f.sync bytes slack where
  start := h.start
  kept := h.kept.trans h.within
  within := le_rfl
  reached := le_rfl
  bounded := h.reached.trans h.bounded

end

theorem quiet_sync (f : DiskFile) : Quiet f.sync := ⟨rfl,rfl⟩

theorem append (h : FileOk f bytes slack) (heq : f.bytes = bytes) {data : List UInt8}
    (hdata : data.length ≤ slack) : FileOk (f.append data) bytes slack where
  start := by simp [DiskFile.append,heq]
  kept := h.kept
  within := by
    have := h.within
    simp only [DiskFile.append,length_append]
    omega
  reached := by
    simp only [DiskFile.append,length_append]
    exact le_max_right _ _
  bounded := by
    have := h.bounded
    have hlen := congrArg length heq
    simp only [DiskFile.append]
    omega

theorem afterCrash (h : FileOk f bytes slack) (tail : List UInt8) :
    FileOk (f.afterCrash tail) bytes slack := by
  have hkept := h.kept
  have hwithin := h.within
  have hreached := h.reached
  have hbounded := h.bounded
  have htake : (f.bytes.take f.stable).length = f.stable := by
    rw [length_take]
    omega
  have hstart : (f.afterCrash tail).bytes.take bytes.length = bytes := by
    rw [DiskFile.afterCrash,take_append_of_le_length (by omega),take_take,min_eq_left hkept,h.start]
  refine ⟨hstart,?_,le_rfl,le_rfl,?_⟩
  all_goals
    simp only [DiskFile.afterCrash,length_append,htake,length_take]
    omega

end FileOk

def objectPath (env : Env) (key : String) : String := env.cfg.root ++ "/" ++ key

def Safe (r : Resource) : Prop := r.segments.any unsafeSegment = false

theorem familyDir_eq_ok {env : Env} {r : Resource} {dir : String} (h : familyDir env r = .ok dir) :
    Safe r ∧ dir = joinPath [env.cfg.root,familyPrefixOf "" r] := by
  simp only [familyDir] at h
  split_ifs at h with hunsafe
  · exact ⟨Bool.eq_false_iff.mpr hunsafe,(Except.ok.inj h).symm⟩

theorem familyPrefixOf_ne_empty {r : Resource} (h : Safe r) : familyPrefixOf "" r ≠ "" := by
  have hcluster : r.clusterName ≠ "" := by
    rintro heq
    simp [Safe,Resource.segments,unsafeSegment,heq] at h
  exact joinPath_ne_empty (by simp) hcluster

theorem objectKeyOf_injective {r : Resource} (h : Safe r) : Function.Injective (objectKeyOf r) :=
  dataKey_injective (familyPrefixOf_ne_empty h) r.container

theorem generationPath_eq {env : Env} (hroot : env.cfg.root ≠ "") {r : Resource} {dir : String}
    (h : familyDir env r = .ok dir) (generation : Nat) :
    generationPath dir r generation = objectPath env (objectKeyOf r generation) := by
  obtain ⟨hsafe,rfl⟩ := familyDir_eq_ok h
  have hfamily := familyPrefixOf_ne_empty hsafe
  have hdir : env.cfg.root ++ "/" ++ familyPrefixOf "" r ≠ "" := by
    simp [String.append_eq_empty_iff]
  rw [generationPath,objectPath,objectKeyOf,dataKey_eq hfamily,joinPath_pair hroot hfamily,
    joinPath_pair hdir (generationName_ne_empty r.container generation)]
  simp only [String.append_assoc]

def slack (s : SinkStream) : Nat := (s.appendIntent.map fun intent => intent.length.toNat).getD 0

def Keyed (r : Resource) (s : SinkStream) : Prop :=
  s.objectKey = objectKeyOf r s.generation ∧
    ∀ (i : Nat) o, s.closedObjects[i]? = some o → o.key = objectKeyOf r i

def FileAt (env : Env) (files : GoMap DiskFile) (key : String) (bytes : List UInt8)
    (allowed : Nat) : Prop :=
  ∃ f, files.lookup (objectPath env key) = some f ∧ FileOk f bytes allowed

structure Sound (env : Env) (s : SinkStream) : Prop where
  reference : s.streamRef = env.streamRef
  referenced : env.streamRef ≠ ""
  sized : ∀ o ∈ s.closedObjects, 0 < o.size
  intent : ∀ i, s.appendIntent = some i → 0 < i.length ∧ i.position ≤ maxInt64 - i.length ∧
    canonicalDigest i.sha256 = true

structure StreamOk (env : Env) (strict : Prop) (files : GoMap DiskFile)
    (committed : List (Nat × List UInt8)) (s : SinkStream) : Prop where
  named : s.sinkName = "file"
  keyed : ∃ r, Safe r ∧ Keyed r s
  position : s.position = (content committed s.generation).length
  crc : restoredCrc s = some (Crc64.checksum (content committed s.generation))
  file : FileAt env files s.objectKey (content committed s.generation) (slack s)
  closed : ∀ (i : Nat) o, s.closedObjects[i]? = some o → o.generation = i ∧
    o.size = ((content committed i).length : Int) ∧
    o.crc64 = Decimal.formatUint (Crc64.checksum (content committed i)).toNat ∧
    FileAt env files o.key (content committed i) 0
  count : s.closedObjects.length = if s.currentClosed then s.generation + 1 else s.generation
  intent : ∀ i, s.appendIntent = some i → i.position = s.position ∧ s.currentClosed = false ∧
    i.device = s.device ∧ i.inode = s.inode
  latest : ∀ entry ∈ committed, entry.1 ≤ s.generation
  identity : ∀ f, files.lookup (objectPath env s.objectKey) = some f →
    f.device = s.device ∧ f.inode = s.inode
  sound : strict → Sound env s

structure Bare (env : Env) (strict : Prop) (s : SinkStream) : Prop where
  named : s.sinkName = "file"
  unkeyed : s.objectKey = ""
  position : s.position = 0
  generation : s.generation = 0
  crc : s.crc64State = []
  closed : s.closedObjects = []
  opened : s.currentClosed = false
  intent : s.appendIntent = none
  sound : strict → Sound env s

def DataPath (env : Env) (path : String) : Prop :=
  ∃ r generation, path = objectPath env (objectKeyOf r generation)

structure DiskInv (env : Env) (strict : Prop) (persisted : Option SinkStream)
    (files : GoMap DiskFile) (committed : List (Nat × List UInt8)) : Prop where
  fresh : persisted = none → committed = []
  stream : ∀ p, persisted = some p →
    (Bare env strict p ∧ committed = []) ∨ StreamOk env strict files committed p
  quiet : ∀ path f, DataPath env path → files.lookup path = some f → Quiet f ∨
    ∃ p, persisted = some p ∧ p.appendIntent.isSome ∧ path = objectPath env p.objectKey

structure WriterOk (env : Env) (strict : Prop) (persisted : Option SinkStream)
    (files : GoMap DiskFile) (committed : List (Nat × List UInt8)) (wr : Writer) : Prop where
  stream : StreamOk env strict files committed wr.stream
  safe : Safe wr.resource
  keyed : Keyed wr.resource wr.stream
  stored : ∃ p, persisted = some p ∧ (wr.stream.appendIntent.isSome → p = wr.stream) ∧
    (p.appendIntent.isSome → p = wr.stream)
  closed : wr.stream.currentClosed = wr.file.isNone
  handle : ∀ h, wr.file = some h → h.path = objectPath env wr.stream.objectKey
  crc : wr.stream.appendIntent = none → wr.file.isSome →
    wr.crc = Crc64.checksum (content committed wr.stream.generation)

def DiskOk (env : Env) (strict : Prop) (w : World) : Prop :=
  DiskInv env strict w.persisted w.files w.committed ∧ (strict → w.refused = [])

def Inv (env : Env) (strict : Prop) (w : World) : Prop :=
  DiskOk env strict w ∧
    ∀ wr, w.writer = some wr → WriterOk env strict w.persisted w.files w.committed wr

section Invariants

variable {env : Env} {strict : Prop} {persisted : Option SinkStream} {files files' : GoMap DiskFile}
  {committed : List (Nat × List UInt8)} {s : SinkStream} {wr : Writer}

theorem FileAt.mono {key : String} {bytes : List UInt8} {allowed : Nat}
    (h : FileAt env files key bytes allowed) (hdata : DataPath env (objectPath env key))
    (hkeep : ∀ path f, DataPath env path → files.lookup path = some f →
      files'.lookup path = some f) : FileAt env files' key bytes allowed := by
  obtain ⟨f,hlookup,hok⟩ := h
  exact ⟨f,hkeep _ f hdata hlookup,hok⟩

theorem objectPath_injective (env : Env) : Function.Injective (objectPath env) := by
  intro a b h
  have hlists := congrArg String.toList h
  simp only [objectPath,String.toList_append,append_cancel_left_eq] at hlists
  exact String.toList_inj.mp hlists

namespace StreamOk

section

variable (h : StreamOk env strict files committed s)

include h

theorem dataPath : DataPath env (objectPath env s.objectKey) := by
  obtain ⟨r,-,hkey,-⟩ := h.keyed
  exact ⟨r,s.generation,by rw [hkey]⟩

theorem closed_dataPath {i : Nat} {o : ClosedObject} (ho : s.closedObjects[i]? = some o)
    : DataPath env (objectPath env o.key) := by
  obtain ⟨r,-,-,hclosed⟩ := h.keyed
  exact ⟨r,i,by rw [hclosed i o ho]⟩

theorem mono
    (hkeep : ∀ path f, DataPath env path → files.lookup path = some f → files'.lookup path = some f)
    : StreamOk env strict files' committed s :=
  { h with
    file := h.file.mono h.dataPath hkeep
    closed := by
      intro i o ho
      obtain ⟨hgeneration,hsize,hcrc,hfile⟩ := h.closed i o ho
      exact ⟨hgeneration,hsize,hcrc,hfile.mono (h.closed_dataPath ho) hkeep⟩
    identity := by
      intro f' hlookup'
      obtain ⟨f,hlookup,-⟩ := h.file
      rw [hkeep _ f h.dataPath hlookup] at hlookup'
      cases hlookup'
      exact h.identity f' hlookup }

end

theorem slack_eq_zero (hintent : s.appendIntent = none) : slack s = 0 := by
  rw [slack,hintent]
  rfl

variable (h : StreamOk env strict files committed s)

include h

theorem intent_none_of_closed (hclosed : s.currentClosed = true) : s.appendIntent = none := by
  cases hintent : s.appendIntent with
  | none => rfl
  | some intent =>
    have hopen := (h.intent intent hintent).2.1
    rw [hclosed] at hopen
    cases hopen

theorem closed_key_ne (hopen : s.currentClosed = false)
    {i : Nat} {o : ClosedObject} (ho : s.closedObjects[i]? = some o) : o.key ≠ s.objectKey := by
  obtain ⟨r,hsafe,hkey,hclosed⟩ := h.keyed
  have hlt : i < s.generation := by
    have hbound := (List.getElem?_eq_some_iff.mp ho).1
    rwa [h.count,hopen] at hbound
  rw [hclosed i o ho,hkey]
  exact fun heq => hlt.ne (objectKeyOf_injective hsafe heq)

theorem replace (hopen : s.currentClosed = false)
    (hother : ∀ path, path ≠ objectPath env s.objectKey →
      files'.lookup path = files.lookup path)
    (hfile : FileAt env files' s.objectKey (content committed s.generation) (slack s))
    (hidentity : ∀ f, files'.lookup (objectPath env s.objectKey) = some f →
      f.device = s.device ∧ f.inode = s.inode) :
    StreamOk env strict files' committed s :=
  { h with
    file := hfile
    closed := by
      intro i o ho
      obtain ⟨hgeneration,hsize,hcrc,f,hlookup,hok⟩ := h.closed i o ho
      have hne : objectPath env o.key ≠ objectPath env s.objectKey := fun heq =>
        h.closed_key_ne hopen ho (objectPath_injective env heq)
      exact ⟨hgeneration,hsize,hcrc,f,by rw [hother _ hne,hlookup],hok⟩
    identity := hidentity }

theorem setTransition (transition : Option GenerationTransition) :
    StreamOk env strict files committed { s with generationTransition := transition } :=
  { h with sound := fun hstrict => { h.sound hstrict with } }

theorem setIntent (hnone : s.appendIntent = none)
    (hopen : s.currentClosed = false) {length : Int} {digest : String}
    (hsound : strict → 0 < length ∧ s.position ≤ maxInt64 - length ∧
      canonicalDigest digest = true) :
    StreamOk env strict files committed { s with
      appendIntent := some (fileAppendIntent s length digest) } :=
  { h with
    file := by
      obtain ⟨f,hlookup,hok⟩ := h.file
      rw [slack_eq_zero hnone] at hok
      exact ⟨f,hlookup,{ hok with bounded := hok.bounded.trans (Nat.le_add_right _ _) }⟩
    intent := by
      rintro i hi
      cases hi
      exact ⟨rfl,hopen,rfl,rfl⟩
    sound := by
      intro hstrict
      have hs := h.sound hstrict
      refine ⟨hs.reference,hs.referenced,hs.sized,?_⟩
      rintro i hi
      cases hi
      exact hsound hstrict }

end StreamOk

namespace DiskInv

theorem extend (h : DiskInv env strict persisted files committed)
    (hkeep : ∀ path f, DataPath env path → files.lookup path = some f →
      files'.lookup path = some f)
    (hnew : ∀ path f, DataPath env path → files'.lookup path = some f →
      files.lookup path = some f ∨ Quiet f) :
    DiskInv env strict persisted files' committed where
  fresh := h.fresh
  stream := by
    intro p hp
    rcases h.stream p hp with hbare | hok
    · exact .inl hbare
    · exact .inr (hok.mono hkeep)
  quiet := by
    intro path f hdata hlookup
    rcases hnew path f hdata hlookup with hold | hquiet
    · exact h.quiet path f hdata hold
    · exact .inl hquiet

theorem quiet_of_idle (h : DiskInv env strict persisted files committed)
    (hidle : ∀ p, persisted = some p → p.appendIntent = none) {path : String} {f : DiskFile}
    (hdata : DataPath env path) (hlookup : files.lookup path = some f) : Quiet f := by
  rcases h.quiet path f hdata hlookup with hquiet | ⟨p,hp,hsome,-⟩
  · exact hquiet
  · rw [hidle p hp] at hsome
    cases hsome

theorem put (hs : StreamOk env strict files committed s)
    (hquiet : ∀ path f, DataPath env path → files.lookup path = some f → Quiet f ∨
      s.appendIntent.isSome ∧ path = objectPath env s.objectKey) :
    DiskInv env strict (some s) files committed where
  fresh := nofun
  stream := by
    rintro p hp
    cases hp
    exact .inr hs
  quiet := by
    intro path f hdata hlookup
    rcases hquiet path f hdata hlookup with hquiet | ⟨hsome,hpath⟩
    · exact .inl hquiet
    · exact .inr ⟨s,rfl,hsome,hpath⟩

theorem putQuiet (hs : StreamOk env strict files committed s)
    (hquiet : ∀ path f, DataPath env path → files.lookup path = some f → Quiet f) :
    DiskInv env strict (some s) files committed :=
  put hs fun path f hdata hlookup => .inl (hquiet path f hdata hlookup)

theorem replace (h : DiskInv env strict (some s) files committed)
    (hs : StreamOk env strict files' committed s)
    (hsome : s.appendIntent.isSome)
    (hother : ∀ path, path ≠ objectPath env s.objectKey →
      files'.lookup path = files.lookup path) :
    DiskInv env strict (some s) files' committed := by
  refine put hs ?_
  intro path f hdata hlookup
  by_cases hpath : path = objectPath env s.objectKey
  · exact .inr ⟨hsome,hpath⟩
  rw [hother path hpath] at hlookup
  rcases h.quiet path f hdata hlookup with hquiet | ⟨p,hp,-,heq⟩
  · exact .inl hquiet
  · cases hp
    exact absurd heq hpath

end DiskInv

namespace WriterOk

variable (h : WriterOk env strict persisted files committed wr)

include h

theorem extend (hkeep : ∀ path f, DataPath env path → files.lookup path = some f →
      files'.lookup path = some f) :
    WriterOk env strict persisted files' committed wr :=
  ⟨h.stream.mono hkeep,h.safe,h.keyed,h.stored,h.closed,h.handle,h.crc⟩

theorem idle (hnone : wr.stream.appendIntent = none) :
    ∀ p, persisted = some p → p.appendIntent = none := by
  intro p hp
  obtain ⟨p',hp',-,hback⟩ := h.stored
  rw [hp'] at hp
  cases hp
  cases hintent : p.appendIntent with
  | none => rfl
  | some intent =>
    rw [hback (by rw [hintent]; rfl),hnone] at hintent
    cases hintent

theorem stored_idle (hnone : wr.stream.appendIntent = none) (hs : s.appendIntent = none) :
    ∃ p, persisted = some p ∧ (s.appendIntent.isSome → p = s) ∧
      (p.appendIntent.isSome → p = s) := by
  obtain ⟨p,hp,-,-⟩ := h.stored
  refine ⟨p,hp,?_,?_⟩
  · rw [hs]
    nofun
  · rw [h.idle hnone p hp]
    nofun

theorem persisted_eq (hsome : wr.stream.appendIntent.isSome) : persisted = some wr.stream := by
  obtain ⟨p,hp,hforward,-⟩ := h.stored
  rw [hp,hforward hsome]

end WriterOk

theorem objectKeyOf_ne_empty (r : Resource) (generation : Nat) : objectKeyOf r generation ≠ "" :=
  joinPath_ne_empty (by simp) (generationName_ne_empty r.container generation)

theorem Sound.valid (h : Sound env s) (hnamed : s.sinkName = "file") (hposition : 0 ≤ s.position)
    (hintent : ∀ i, s.appendIntent = some i → i.position = s.position ∧ s.currentClosed = false)
    (hclosed : validateClosedObjects s.streamRef 0 s.closedObjects = .ok ()) :
    validateSinkStream s = .ok () := by
  refine validateSinkStream_ok ?_ ?_ hposition ?_ hclosed
  · rw [hnamed]
    decide
  · rw [h.reference]
    exact h.referenced
  intro intent hi
  obtain ⟨heq,hopen⟩ := hintent intent hi
  obtain ⟨hlength,hrange,hdigest⟩ := h.intent intent hi
  exact ⟨heq,hlength,hrange,hdigest,hopen⟩

theorem StreamOk.valid (h : StreamOk env strict files committed s) (hstrict : strict) :
    validateSinkStream s = .ok () := by
  have hsound := h.sound hstrict
  have hclosed : validateClosedObjects s.streamRef 0 s.closedObjects = .ok () := by
    refine validateClosedObjects_ok ?_
    intro i o ho
    obtain ⟨r,-,-,hkeys⟩ := h.keyed
    obtain ⟨hgeneration,-,hcrc,-⟩ := h.closed i o ho
    have hkey : o.key ≠ "" := by
      rw [hkeys i o ho]
      exact objectKeyOf_ne_empty r i
    have hsize := hsound.sized o (mem_of_getElem? ho)
    have hcanonical : canonicalUint o.crc64 = true := by
      rw [hcrc]
      exact Decimal.canonical_formatUint (BitVec.isLt _)
    simp [ClosedObject.invalidAt,hgeneration,hkey,hcanonical,hsize]
  refine hsound.valid h.named ?_ (fun i hi => ⟨(h.intent i hi).1,(h.intent i hi).2.1⟩) hclosed
  rw [h.position]
  exact Int.natCast_nonneg _

theorem Bare.valid (h : Bare env strict s) (hstrict : strict) : validateSinkStream s = .ok () := by
  refine (h.sound hstrict).valid h.named h.position.ge ?_ ?_
  · rw [h.intent]
    nofun
  · rw [h.closed]
    rfl

end Invariants

end OpenSandbox.NodeAgent.FileSink
