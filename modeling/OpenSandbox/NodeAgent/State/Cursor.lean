import OpenSandbox.NodeAgent.State.Store

namespace OpenSandbox.NodeAgent

open Outcome SecondaryIndex List Option AList

section Keyed

variable {K : Type} [DecidableEq K] {stateKey : String → String → K}

def RecordOk (stateKey : String → String → K) (key : K) : SourceRecord → Prop
  | .checkpoint c =>
      validateFileCheckpoint c = .ok () ∧ c.streamRef ≠ "stream" ∧
        key = stateKey c.streamRef c.path
  | .stream s => validateSourceStream s = .ok () ∧ key = stateKey "stream" s.streamRef

def SourceRecord.file : SourceRecord → Option (String × String)
  | .checkpoint c => some (c.streamRef, c.fileID)
  | .stream _ => none

def FileBuckets.view (stateKey : String → String → K) (files : FileBuckets K) :
    Index (String × String) K where
  holds file := files.index.lookup (stateKey file.1 file.2)
  owner key := (files.source.lookup key).bind SourceRecord.file

structure Consistent (stateKey : String → String → K) (files : FileBuckets K) : Prop where
  records : ∀ key record, files.source.lookup key = some record → RecordOk stateKey key record
  exact : (files.view stateKey).Exact
  indexKeys : ∀ indexKey key, files.index.lookup indexKey = some key →
    ∃ streamRef fileID, indexKey = stateKey streamRef fileID

variable {files : FileBuckets K} {key : K} {c : FileCheckpoint}

section

variable (h : Consistent stateKey files)

include h

section

variable (hc : files.source.lookup key = some (.checkpoint c))

include hc

theorem Consistent.key_of_checkpoint : key = stateKey c.streamRef c.path := (h.records key _ hc).2.2

theorem Consistent.indexed : files.index.lookup (stateKey c.streamRef c.fileID) = some key :=
  (h.exact (c.streamRef, c.fileID) key).mpr (by simp [FileBuckets.view,hc,SourceRecord.file])

end

variable {streamRef : String}

theorem Consistent.backed {fileID : String}
    (hkey : files.index.lookup (stateKey streamRef fileID) = some key) :
    ∃ c, files.source.lookup key = some (.checkpoint c) ∧ c.streamRef = streamRef ∧
      c.fileID = fileID := by
  have howner := (h.exact (streamRef, fileID) key).mp hkey
  obtain ⟨record,hrecord,hfile⟩ := bind_eq_some_iff.mp howner
  cases record with
  | stream s => cases hfile
  | checkpoint c =>
    obtain ⟨href,hid⟩ := Prod.mk.inj (some.inj hfile)
    exact ⟨c,hrecord,href,hid⟩

theorem Consistent.sole {d : FileCheckpoint}
    (hc : files.HasCheckpoint c) (hd : files.HasCheckpoint d) (href : c.streamRef = d.streamRef)
    (hid : c.fileID = d.fileID) : c = d := by
  obtain ⟨key,hkey⟩ := hc
  obtain ⟨key',hkey'⟩ := hd
  have hindex := h.indexed hkey
  rw [href,hid,h.indexed hkey'] at hindex
  cases hindex
  rw [hkey] at hkey'
  cases hkey'
  rfl

theorem Consistent.stored_iff : files.HasCheckpoint c ↔
      files.source.lookup (stateKey c.streamRef c.path) = some (.checkpoint c) := by
  constructor
  · rintro ⟨key,hkey⟩
    rwa [← h.key_of_checkpoint hkey]
  · exact fun hc => ⟨_,hc⟩

end

theorem decodeFileCheckpoint_some {record : SourceRecord}
    (h : decodeFileCheckpoint record = .ok (some c)) : record = .checkpoint c := by
  cases record with
  | stream s => cases h
  | checkpoint d =>
    simp only [decodeFileCheckpoint] at h
    split_ifs at h with hpath
    · cases h
    · obtain ⟨_,_,hd⟩ := bind_eq_ok.mp h
      cases hd
      rfl

variable {source : Bucket K SourceRecord}

theorem existingAtPath_ok {existing : Option FileCheckpoint}
    (h : existingAtPath stateKey source c = .ok existing) :
    source.lookup (stateKey c.streamRef c.path) = existing.map .checkpoint := by
  unfold existingAtPath at h
  split at h
  · next hnone =>
    cases h
    exact hnone
  next record hrecord =>
  obtain ⟨decoded,hdecoded,h⟩ := bind_eq_ok.mp h
  cases decoded with
  | none => cases h
  | some d =>
    simp only at h
    split_ifs at h with hkey
    cases h
    rw [hrecord,decodeFileCheckpoint_some hdecoded]
    rfl

theorem indexedFileCheckpoint_ok {fileID : String}
    (h : indexedFileCheckpoint stateKey source key streamRef fileID = .ok c) :
    source.lookup key = some (.checkpoint c) := by
  unfold indexedFileCheckpoint at h
  split at h
  · cases h
  next record hrecord =>
  obtain ⟨decoded,hdecoded,h⟩ := bind_eq_ok.mp h
  cases decoded with
  | none => cases h
  | some d =>
    obtain ⟨_,_,hd⟩ := bind_eq_ok.mp h
    cases hd
    rw [hrecord,decodeFileCheckpoint_some hdecoded]

theorem not_regresses_of_prefer {d : FileCheckpoint} (h : preferCheckpoint c d = true) :
    checkpointCursorRegresses c d = false := by
  unfold preferCheckpoint at h
  unfold checkpointCursorRegresses
  split_ifs at h with hrev hoff
  all_goals
    simp only [Bool.or_eq_false_iff,Bool.and_eq_false_iff,decide_eq_false_iff_not]
    simp only [decide_eq_true_eq] at h
    omega

theorem detachIndexed_ok (h : detachIndexed stateKey files c = .ok source) :
    (∀ old key, files.index.lookup (stateKey c.streamRef c.fileID) = some key →
      files.source.lookup key = some (.checkpoint old) →
        checkpointCursorRegresses c old = false) ∧
    ∀ key, key ≠ stateKey c.streamRef c.path → source.lookup key =
      if files.index.lookup (stateKey c.streamRef c.fileID) = some key then none
      else files.source.lookup key := by
  unfold detachIndexed sourceFileIndexKey at h
  split at h
  · next hnone =>
    cases h
    simp [hnone]
  next indexedKey hindexed =>
  obtain ⟨indexed,hold,h⟩ := bind_eq_ok.mp h
  have hstored := indexedFileCheckpoint_ok hold
  have hsame {old : FileCheckpoint} {key : K}
      (hkey : files.index.lookup (stateKey c.streamRef c.fileID) = some key)
      (hlookup : files.source.lookup key = some (.checkpoint old)) : old = indexed := by
    rw [hindexed] at hkey
    cases hkey
    rw [hstored] at hlookup
    cases hlookup
    rfl
  split_ifs at h with heq hregress hprefer
  · cases h
    refine ⟨fun old key hkey hlookup => ?_,fun key hne => ?_⟩
    · rw [hsame hkey hlookup]
      simpa using hregress
    · rw [hindexed,if_neg]
      intro hkey
      exact hne ((some.inj hkey).symm.trans heq)
  cases h
  refine ⟨fun old key hkey hlookup => ?_,fun key hne => ?_⟩
  · rw [hsame hkey hlookup]
    exact not_regresses_of_prefer hprefer
  rw [hindexed]
  split_ifs with hkey
  · cases hkey
    exact lookup_erase _ _
  · refine lookup_erase_ne ?_
    rintro rfl
    exact hkey rfl

variable {files' : FileBuckets K}

theorem source_of_put (h : putFileCheckpoint stateKey files c = .ok files') (key : K) :
    files'.source.lookup key =
      if key = stateKey c.streamRef c.path then some (.checkpoint c)
      else if files.index.lookup (stateKey c.streamRef c.fileID) = some key then none
      else files.source.lookup key := by
  obtain ⟨existing,_,h⟩ := bind_eq_ok.mp h
  obtain ⟨source,hsource,h⟩ := bind_eq_ok.mp h
  cases h
  change (insert _ _ source).lookup key = _
  split_ifs with hkey hindexed
  · rw [hkey,lookup_insert]
  · rw [lookup_insert_ne hkey,(detachIndexed_ok hsource).2 key hkey,if_pos hindexed]
  · rw [lookup_insert_ne hkey,(detachIndexed_ok hsource).2 key hkey,if_neg hindexed]

variable {x : FileCheckpoint}

theorem lookup_insert_iff {V : Type} (bucket : Bucket K V) (key key' : K) (v : V) :
    (bucket.insert key v).lookup key' = if key' = key then some v else bucket.lookup key' := by
  split_ifs with h
  · rw [h,lookup_insert]
  · exact lookup_insert_ne h

section Put

variable (hinj : Function.Injective2 stateKey) (hfiles : Consistent stateKey files)
  (h : putFileCheckpoint stateKey files c = .ok files')

include hinj hfiles h

theorem index_of_put (indexKey : K) :
    files'.index.lookup indexKey =
      if indexKey = stateKey c.streamRef c.fileID then some (stateKey c.streamRef c.path)
      else if ((files.view stateKey).owner (stateKey c.streamRef c.path)).map
          (fun file => stateKey file.1 file.2) = some indexKey then none
      else files.index.lookup indexKey := by
  obtain ⟨existing,hexisting,h⟩ := bind_eq_ok.mp h
  obtain ⟨source,_,h⟩ := bind_eq_ok.mp h
  cases h
  have hat := existingAtPath_ok hexisting
  have howner : (files.view stateKey).owner (stateKey c.streamRef c.path) =
      existing.map fun x => (x.streamRef, x.fileID) := by
    change (files.source.lookup _).bind _ = _
    rw [hat]
    cases existing <;> rfl
  rw [howner]
  cases existing with
  | none => exact lookup_insert_iff _ _ _ _
  | some x =>
    have href : x.streamRef = c.streamRef := (hinj (hfiles.key_of_checkpoint hat)).1.symm
    have hxindex := hfiles.indexed hat
    simp only [map_some,some.injEq]
    by_cases hid : x.fileID = c.fileID
    · rw [evictIndex,if_neg fun h => h.1 hid,href,hid,sourceFileIndexKey,lookup_insert_iff]
      split_ifs with hkey hkey'
      · rfl
      · exact absurd hkey'.symm hkey
      · rfl
    · have hkeys : stateKey x.streamRef x.fileID ≠ stateKey c.streamRef c.fileID :=
        fun heq => hid (hinj heq).2
      rw [sourceFileIndexKey,evictIndex,sourceFileIndexKey,
        if_pos ⟨hid,by rw [lookup_insert_iff,if_neg hkeys,hxindex]⟩]
      split_ifs with hkey hold
      · rw [hkey,lookup_erase_ne (Ne.symm hkeys),lookup_insert]
      · rw [← hold,lookup_erase]
      · rw [lookup_erase_ne (Ne.symm hold),lookup_insert_iff,if_neg hkey]

theorem view_of_put :
    files'.view stateKey =
      (files.view stateKey).place (c.streamRef, c.fileID) (stateKey c.streamRef c.path) := by
  have hsame (file other : String × String) :
      stateKey file.1 file.2 = stateKey other.1 other.2 ↔ file = other :=
    ⟨fun heq => Prod.ext (hinj heq).1 (hinj heq).2,fun heq => by rw [heq]⟩
  refine congrArg₂ Index.mk (funext fun file => ?_) (funext fun key => ?_)
  · rw [index_of_put hinj hfiles h]
    refine if_congr (hsame file (c.streamRef, c.fileID)) rfl (if_congr ?_ rfl rfl)
    rw [map_eq_some_iff]
    constructor
    · rintro ⟨other,hother,heq⟩
      rwa [(hsame other file).mp heq] at hother
    · exact fun howner => ⟨file,howner,rfl⟩
  · rw [source_of_put h]
    change _ = if key = stateKey c.streamRef c.path then some (c.streamRef, c.fileID)
      else if files.index.lookup (stateKey c.streamRef c.fileID) = some key then none
      else (files.source.lookup key).bind SourceRecord.file
    split_ifs <;> rfl

theorem Consistent.put (hvalid : validateFileCheckpoint c = .ok ())
    (href : c.streamRef ≠ "stream") : Consistent stateKey files' where
  records key record hrecord := by
    rw [source_of_put h] at hrecord
    split_ifs at hrecord with hkey
    · cases hrecord
      exact ⟨hvalid,href,hkey⟩
    · exact hfiles.records key record hrecord
  exact := by
    rw [view_of_put hinj hfiles h]
    exact Index.exact_place hfiles.exact _ _
  indexKeys indexKey key hkey := by
    rw [index_of_put hinj hfiles h] at hkey
    split_ifs at hkey with hnew
    · exact ⟨c.streamRef,c.fileID,hnew⟩
    · exact hfiles.indexKeys indexKey key hkey

end Put

def Displaces (c x : FileCheckpoint) : Prop :=
  x.streamRef = c.streamRef ∧ (x.fileID = c.fileID ∨ x.path = c.path)

theorem stored_put_iff (hinj : Function.Injective2 stateKey) (hfiles : Consistent stateKey files)
    (hfiles' : Consistent stateKey files') (h : putFileCheckpoint stateKey files c = .ok files')
    (x : FileCheckpoint) :
    files'.HasCheckpoint x ↔ x = c ∨ (files.HasCheckpoint x ∧ ¬ Displaces c x) := by
  rw [hfiles'.stored_iff,hfiles.stored_iff,source_of_put h]
  by_cases hkey : stateKey x.streamRef x.path = stateKey c.streamRef c.path
  · rw [if_pos hkey]
    have hdisplaces : Displaces c x := ⟨(hinj hkey).1,.inr (hinj hkey).2⟩
    simp only [some.injEq,SourceRecord.checkpoint.injEq,hdisplaces,not_true_eq_false,
      and_false,or_false]
    exact eq_comm
  have hne : x ≠ c := fun heq => hkey (by rw [heq])
  rw [if_neg hkey]
  split_ifs with hindexed
  · obtain ⟨old,hold,href,hid⟩ := hfiles.backed hindexed
    simp only [hne,false_or,false_iff,not_and,not_not]
    intro hx
    rw [hold] at hx
    cases hx
    exact ⟨href,.inl hid⟩
  · simp only [hne,false_or]
    refine ⟨fun hx => ⟨hx,?_⟩,And.left⟩
    rintro ⟨href,hid | hpath⟩
    · exact hindexed (by rw [← hfiles.indexed hx,href,hid])
    · exact hkey (by rw [href,hpath])

theorem not_regresses_of_put {old : FileCheckpoint} (hfiles : Consistent stateKey files)
    (h : putFileCheckpoint stateKey files c = .ok files') (hold : files.HasCheckpoint old)
    (href : old.streamRef = c.streamRef) (hid : old.fileID = c.fileID) :
    checkpointCursorRegresses c old = false := by
  obtain ⟨existing,_,h⟩ := bind_eq_ok.mp h
  obtain ⟨source,hsource,_⟩ := bind_eq_ok.mp h
  obtain ⟨key,hkey⟩ := hold
  exact (detachIndexed_ok hsource).1 old key (by rw [← href,← hid,hfiles.indexed hkey]) hkey

structure CheckpointBatch (streamRef : String) (cs : List FileCheckpoint) : Prop where
  ofStream : ∀ c ∈ cs, c.streamRef = streamRef
  valid : ∀ c ∈ cs, validateFileCheckpoint c = .ok ()
  distinct : cs.Pairwise fun c d => c.fileID ≠ d.fileID

theorem CheckpointBatch.tail {streamRef : String} {c : FileCheckpoint} {cs : List FileCheckpoint}
    (h : CheckpointBatch streamRef (c :: cs)) : CheckpointBatch streamRef cs where
  ofStream d hd := h.ofStream d (mem_cons_of_mem c hd)
  valid d hd := h.valid d (mem_cons_of_mem c hd)
  distinct := (pairwise_cons.mp h.distinct).2

variable {cs ds : List FileCheckpoint}

theorem putFileCheckpoints_append :
    putFileCheckpoints stateKey files (cs ++ ds) = .ok files' ↔
      ∃ mid, putFileCheckpoints stateKey files cs = .ok mid ∧
        putFileCheckpoints stateKey mid ds = .ok files' := by
  induction cs generalizing files with
  | nil => simp [putFileCheckpoints]
  | cons c cs ih =>
    simp only [cons_append,putFileCheckpoints,bind_eq_ok,ih]
    constructor
    · rintro ⟨first,hfirst,mid,hmid,hrest⟩
      exact ⟨mid,⟨first,hfirst,hmid⟩,hrest⟩
    · rintro ⟨mid,⟨first,hfirst,hmid⟩,hrest⟩
      exact ⟨first,hfirst,mid,hmid,hrest⟩

section Batch

variable (hinj : Function.Injective2 stateKey) (hstream : streamRef ≠ "stream")
  (hbatch : CheckpointBatch streamRef cs) (hfiles : Consistent stateKey files)
  (h : putFileCheckpoints stateKey files cs = .ok files')

include hinj hstream hbatch hfiles h

theorem Consistent.putAll : Consistent stateKey files' := by
  induction cs generalizing files with
  | nil =>
    cases h
    exact hfiles
  | cons c cs ih =>
    obtain ⟨mid,hmid,hrest⟩ := bind_eq_ok.mp h
    have hc := mem_cons_self (a := c) (l := cs)
    have href : c.streamRef ≠ "stream" := hbatch.ofStream c hc ▸ hstream
    exact ih hbatch.tail (hfiles.put hinj hmid (hbatch.valid c hc) href) hrest

theorem stored_putAll_iff (x : FileCheckpoint) :
    files'.HasCheckpoint x ↔
      (∃ pre post, cs = pre ++ x :: post ∧ ∀ c ∈ post, ¬ Displaces c x) ∨
        (files.HasCheckpoint x ∧ ∀ c ∈ cs, ¬ Displaces c x) := by
  induction cs generalizing files with
  | nil =>
    cases h
    simp
  | cons c cs ih =>
    obtain ⟨mid,hmid,hrest⟩ := bind_eq_ok.mp h
    have hc := mem_cons_self (a := c) (l := cs)
    have href : c.streamRef ≠ "stream" := hbatch.ofStream c hc ▸ hstream
    have hmidOk := hfiles.put hinj hmid (hbatch.valid c hc) href
    rw [ih hbatch.tail hmidOk hrest,stored_put_iff hinj hfiles hmidOk hmid]
    constructor
    · rintro (⟨pre,post,rfl,hpost⟩ | ⟨rfl | ⟨hx,hnot⟩,hcs⟩)
      · exact .inl ⟨c :: pre,post,rfl,hpost⟩
      · exact .inl ⟨[],cs,rfl,hcs⟩
      · exact .inr ⟨hx,forall_mem_cons.mpr ⟨hnot,hcs⟩⟩
    rintro (⟨pre,post,heq,hpost⟩ | ⟨hx,hcs⟩)
    · cases pre with
      | nil =>
        cases heq
        exact .inr ⟨.inl rfl,hpost⟩
      | cons d pre =>
        cases heq
        exact .inl ⟨pre,post,rfl,hpost⟩
    · obtain ⟨hnot,hcs⟩ := forall_mem_cons.mp hcs
      exact .inr ⟨.inr ⟨hx,hnot⟩,hcs⟩

end Batch

theorem mem_mergeCheckpoint (h : x ∈ mergeCheckpoint stateKey c ds) : x = c ∨ x ∈ ds := by
  induction ds with
  | nil => exact .inl (mem_singleton.mp h)
  | cons d ds ih =>
    unfold mergeCheckpoint at h
    split_ifs at h with hkey hprefer
    · rcases mem_cons.mp h with rfl | h
      · exact .inl rfl
      · exact .inr (mem_cons_of_mem d h)
    · exact .inr h
    · rcases mem_cons.mp h with rfl | h
      · exact .inr mem_cons_self
      · exact (ih h).imp_right (mem_cons_of_mem d)

theorem distinct_mergeCheckpoint (hinj : Function.Injective2 stateKey)
    (hc : c.streamRef = streamRef) (hbatch : CheckpointBatch streamRef ds) :
    (mergeCheckpoint stateKey c ds).Pairwise fun x y => x.fileID ≠ y.fileID := by
  induction ds with
  | nil => exact pairwise_singleton _ _
  | cons d ds ih =>
    have hd := hbatch.ofStream d mem_cons_self
    obtain ⟨hhead,htail⟩ := pairwise_cons.mp hbatch.distinct
    unfold mergeCheckpoint sourceFileIndexKey
    split_ifs with hkey hprefer
    · exact pairwise_cons.mpr ⟨(hinj hkey).2 ▸ hhead,htail⟩
    · exact hbatch.distinct
    have hne : d.fileID ≠ c.fileID := fun hid => hkey (by rw [hd,hc,hid])
    refine pairwise_cons.mpr ⟨fun x hx => ?_,ih hbatch.tail⟩
    rcases mem_mergeCheckpoint hx with rfl | hx
    · exact hne
    · exact hhead x hx

theorem validateBatch_ok (h : validateBatch streamRef cs = .ok ()) :
    ∀ c ∈ cs, c.streamRef = streamRef ∧ validateFileCheckpoint c = .ok () := by
  intro c hc
  obtain ⟨_,hreject,hvalid⟩ := bind_eq_ok.mp (forM_eq_ok.mp h c hc)
  have href := reject_eq_ok.mp hreject _ mem_cons_self
  simp only [ne_eq,decide_not,Bool.not_eq_false',decide_eq_true_eq] at href
  exact ⟨href,hvalid⟩

section

variable (hinj : Function.Injective2 stateKey)

include hinj

theorem batch_normalize (h : validateBatch streamRef cs = .ok ()) :
    CheckpointBatch streamRef (normalizeFileCheckpoints stateKey cs) := by
  have hcs := validateBatch_ok h
  have hfold (acc : List FileCheckpoint) (hacc : CheckpointBatch streamRef acc) :
      CheckpointBatch streamRef
        (cs.foldl (fun normalized c => mergeCheckpoint stateKey c normalized) acc) := by
    clear h
    induction cs generalizing acc with
    | nil => exact hacc
    | cons c cs ih =>
      obtain ⟨href,hvalid⟩ := hcs c mem_cons_self
      exact ih (fun d hd => hcs d (mem_cons_of_mem c hd)) _
        ⟨fun x hx => (mem_mergeCheckpoint hx).elim (· ▸ href) (hacc.ofStream x),
          fun x hx => (mem_mergeCheckpoint hx).elim (· ▸ hvalid) (hacc.valid x),
          distinct_mergeCheckpoint hinj href hacc⟩
  exact hfold [] ⟨by simp,by simp,List.Pairwise.nil⟩

def Overtaken (before : FileBuckets K) (batch : List FileCheckpoint) : Prop :=
  ∃ pre c post old, batch = pre ++ c :: post ∧ before.HasCheckpoint old ∧
    old.streamRef = c.streamRef ∧ old.fileID = c.fileID ∧
    checkpointCursorRegresses c old = true ∧
    (∃ e ∈ pre, e.path = old.path) ∧ ∀ e ∈ post, e.path ≠ c.path

def CursorLowered (before after : FileBuckets K) : Prop :=
  ∃ old new, before.HasCheckpoint old ∧ after.HasCheckpoint new ∧
    old.streamRef = new.streamRef ∧ old.fileID = new.fileID ∧
    checkpointCursorRegresses new old = true

theorem lowered_putAll_iff (hstream : streamRef ≠ "stream")
    (hbatch : CheckpointBatch streamRef cs) (hfiles : Consistent stateKey files)
    (h : putFileCheckpoints stateKey files cs = .ok files') :
    CursorLowered files files' ↔ Overtaken files cs := by
  have hstored := stored_putAll_iff hinj hstream hbatch hfiles h
  constructor
  · rintro ⟨old,new,hold,hnew,href,hid,hregress⟩
    rcases (hstored new).mp hnew with ⟨pre,post,rfl,hpost⟩ | ⟨hnew,_⟩
    · have hmem : new ∈ pre ++ new :: post := by simp
      have hpostRef : ∀ e ∈ post, e.streamRef = new.streamRef := fun e he => by
        rw [hbatch.ofStream e (by simp [he]),hbatch.ofStream new hmem]
      refine ⟨pre,new,post,old,rfl,hold,href,hid,hregress,?_,fun e he hpath =>
        hpost e he ⟨(hpostRef e he).symm,.inr hpath.symm⟩⟩
      by_contra hkept
      obtain ⟨hpre,hnext,_⟩ := pairwise_append.mp hbatch.distinct
      obtain ⟨mid,hmid,hrest⟩ := putFileCheckpoints_append.mp h
      obtain ⟨_,hput,_⟩ := bind_eq_ok.mp hrest
      have hpreBatch : CheckpointBatch streamRef pre :=
        ⟨fun c hc => hbatch.ofStream c (by simp [hc]),fun c hc => hbatch.valid c (by simp [hc]),
          hpre⟩
      have hmidOk := hfiles.putAll hinj hstream hpreBatch hmid
      have holdMid : mid.HasCheckpoint old := by
        refine (stored_putAll_iff hinj hstream hpreBatch hfiles hmid old).mpr (.inr ⟨hold,?_⟩)
        rintro e he ⟨_,heid | hpath⟩
        · have hne := (pairwise_append.mp hbatch.distinct).2.2 e he new mem_cons_self
          exact hne (heid.symm.trans hid)
        · exact hkept ⟨e,he,hpath.symm⟩
      rw [not_regresses_of_put hmidOk hput holdMid href hid] at hregress
      cases hregress
    · rw [hfiles.sole hold hnew href hid] at hregress
      simp [checkpointCursorRegresses] at hregress
  · rintro ⟨pre,c,post,old,rfl,hold,href,hid,hregress,_,hpost⟩
    refine ⟨old,c,hold,(hstored c).mpr (.inl ⟨pre,post,rfl,?_⟩),href,hid,hregress⟩
    rintro e he ⟨_,heid | hpath⟩
    · have hrest := (pairwise_append.mp hbatch.distinct).2.1
      exact (pairwise_cons.mp hrest).1 e he heid
    · exact hpost e he hpath.symm

theorem Consistent.not_checkpoint_at_stream
    (hfiles : Consistent stateKey files) (streamRef : String) (c : FileCheckpoint) :
    files.source.lookup (stateKey "stream" streamRef) ≠ some (.checkpoint c) := by
  intro hc
  obtain ⟨_,href,hkey⟩ := hfiles.records _ _ hc
  exact href (hinj hkey).1.symm

def FileBuckets.putStream (stateKey : String → String → K) (files : FileBuckets K)
    (s : SourceStream) : FileBuckets K :=
  ⟨files.source.insert (stateKey "stream" s.streamRef) (.stream s),files.index⟩

theorem view_putStream (hfiles : Consistent stateKey files)
    (s : SourceStream) : (files.putStream stateKey s).view stateKey = files.view stateKey := by
  refine congrArg₂ Index.mk rfl (funext fun key => ?_)
  change ((files.source.insert _ _).lookup key).bind _ = _
  rw [lookup_insert_iff]
  split_ifs with hkey
  · subst hkey
    cases hat : files.source.lookup (stateKey "stream" s.streamRef) with
    | none => rfl
    | some record =>
      cases record with
      | stream t => rfl
      | checkpoint c => exact absurd hat (hfiles.not_checkpoint_at_stream hinj _ c)
  · rfl

theorem Consistent.putStream {files : FileBuckets K}
    (hfiles : Consistent stateKey files) {s : SourceStream}
    (hvalid : validateSourceStream s = .ok ()) :
    Consistent stateKey (files.putStream stateKey s) where
  records key record hrecord := by
    change (files.source.insert _ _).lookup key = _ at hrecord
    rw [lookup_insert_iff] at hrecord
    split_ifs at hrecord with hkey
    · cases hrecord
      exact ⟨hvalid,hkey⟩
    · exact hfiles.records key record hrecord
  exact := by
    rw [view_putStream hinj hfiles]
    exact hfiles.exact
  indexKeys := hfiles.indexKeys

end

variable {checkpoints : List FileCheckpoint}

theorem commitSource_ok {db db' : DB K} {stream : SourceStream}
    (h : db.commitSource stateKey checkpoints stream = .ok db') :
    validateSourceStream stream = .ok () ∧ validateBatch stream.streamRef checkpoints = .ok () ∧
      ∃ files, putFileCheckpoints stateKey db.toFileBuckets
          (normalizeFileCheckpoints stateKey checkpoints) = .ok files ∧
        db' = ⟨files.putStream stateKey stream,db.pipeline,db.sink⟩ := by
  obtain ⟨_,hstream,h⟩ := bind_eq_ok.mp h
  obtain ⟨_,hbatch,h⟩ := bind_eq_ok.mp h
  obtain ⟨files,hfiles,h⟩ := bind_eq_ok.mp h
  cases h
  exact ⟨hstream,hbatch,files,hfiles,rfl⟩

theorem commitSource_lowered_iff {db db' : DB K} {stream : SourceStream}
    (hinj : Function.Injective2 stateKey) (hdb : Consistent stateKey db.toFileBuckets)
    (hstream : stream.streamRef ≠ "stream")
    (h : db.commitSource stateKey checkpoints stream = .ok db') :
    CursorLowered db.toFileBuckets db'.toFileBuckets ↔
      Overtaken db.toFileBuckets (normalizeFileCheckpoints stateKey checkpoints) := by
  obtain ⟨_,hvalid,files,hfiles,rfl⟩ := commitSource_ok h
  have hbatch := batch_normalize hinj hvalid
  have hfilesOk := hdb.putAll hinj hstream hbatch hfiles
  rw [← lowered_putAll_iff hinj hstream hbatch hdb hfiles]
  refine exists_congr fun old => exists_congr fun new => and_congr_right fun _ => ?_
  refine and_congr_left fun _ => exists_congr fun key => ?_
  change (files.source.insert _ _).lookup key = _ ↔ _
  rw [lookup_insert_iff]
  split_ifs with hkey
  · subst hkey
    simp [hfilesOk.not_checkpoint_at_stream hinj]
  · rfl

end Keyed

end OpenSandbox.NodeAgent
