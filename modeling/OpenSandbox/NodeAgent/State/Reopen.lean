import OpenSandbox.NodeAgent.State.Cursor

namespace OpenSandbox.NodeAgent

open Outcome SecondaryIndex List Option AList

section Keyed

variable {K : Type} [DecidableEq K] {stateKey : String → String → K}

theorem lookup_eraseAll {V : Type} (bucket : Bucket K V) (keys : List K) (key : K) :
    (eraseAll bucket keys).lookup key = if key ∈ keys then none else bucket.lookup key := by
  unfold eraseAll
  induction keys generalizing bucket with
  | nil => simp
  | cons k keys ih =>
    rw [foldl_cons,ih]
    by_cases hmem : key ∈ keys
    · simp [hmem]
    by_cases hkey : key = k
    · subst hkey
      simp [lookup_erase]
    · simp [hmem,hkey,lookup_erase_ne hkey]

theorem mem_keysWhere {V : Type} {p : V → Bool} {bucket : Bucket K V} {key : K} :
    key ∈ keysWhere p bucket ↔ ∃ v, bucket.lookup key = some v ∧ p v = true := by
  simp only [keysWhere,List.mem_map,List.mem_filter]
  constructor
  · rintro ⟨⟨k,v⟩,⟨hentry,hv⟩,rfl⟩
    exact ⟨v,AList.mem_lookup_iff.mpr hentry,hv⟩
  · rintro ⟨v,hlookup,hv⟩
    exact ⟨⟨key,v⟩,⟨AList.mem_lookup_iff.mp hlookup,hv⟩,rfl⟩

theorem source_deleteStream (db : DB K) (streamRef : String) (key : K) :
    (db.deleteStream stateKey streamRef).source.lookup key =
      (db.source.lookup key).filter fun record => record.streamRef ≠ streamRef := by
  change (eraseAll _ _).lookup key = _
  rw [lookup_eraseAll]
  simp only [mem_keysWhere]
  cases hlookup : db.source.lookup key with
  | none => simp
  | some record => by_cases href : record.streamRef = streamRef <;> simp [href,Option.filter]

theorem path_ne_empty {c : FileCheckpoint} (h : validateFileCheckpoint c = .ok ()) :
    c.path ≠ "" := by
  have hfields := reject_eq_ok.mp h _ mem_cons_self
  simp only [decide_eq_false_iff_not,not_or] at hfields
  exact hfields.2.2.1

variable {db : DB K}

theorem index_deleteStream (hinj : Function.Injective2 stateKey)
    (hdb : Consistent stateKey db.toFileBuckets) (streamRef : String) (file : String × String) :
    (db.deleteStream stateKey streamRef).index.lookup (stateKey file.1 file.2) =
      if file.1 ≠ streamRef then db.index.lookup (stateKey file.1 file.2) else none := by
  change (eraseAll _ _).lookup _ = _
  rw [lookup_eraseAll]
  by_cases href : file.1 = streamRef
  · rw [if_neg (not_not.mpr href)]
    cases hindex : db.index.lookup (stateKey file.1 file.2) with
    | none => simp
    | some key =>
      obtain ⟨c,hc,hcref,hcid⟩ := hdb.backed hindex
      rw [if_pos]
      refine mem_filterMap.mpr ⟨⟨key,.checkpoint c⟩,mem_lookup_iff.mp hc,?_⟩
      have hpath := path_ne_empty (hdb.records key _ hc).1
      simp only [checkpointIndexKey,sourceFileIndexKey]
      rw [if_pos ⟨hcref.trans href,hpath⟩,hcid,href]
  rw [if_pos href,if_neg]
  intro hmem
  obtain ⟨⟨key,record⟩,_,hkey⟩ := mem_filterMap.mp hmem
  cases record with
  | stream s => cases hkey
  | checkpoint c =>
    simp only [checkpointIndexKey,sourceFileIndexKey] at hkey
    split_ifs at hkey with hc
    exact href (hinj (some.inj hkey)).1.symm

theorem Consistent.deleteStream (hinj : Function.Injective2 stateKey)
    (hdb : Consistent stateKey db.toFileBuckets) (streamRef : String) :
    Consistent stateKey (db.deleteStream stateKey streamRef).toFileBuckets where
  records key record hrecord := by
    rw [source_deleteStream,Option.filter_eq_some_iff] at hrecord
    exact hdb.records key record hrecord.1
  exact := by
    have hview : (db.deleteStream stateKey streamRef).toFileBuckets.view stateKey =
        (db.toFileBuckets.view stateKey).keep fun file => file.1 ≠ streamRef := by
      refine congrArg₂ Index.mk (funext (index_deleteStream hinj hdb streamRef))
        (funext fun key => ?_)
      rw [source_deleteStream]
      change _ = ((db.source.lookup key).bind SourceRecord.file).filter _
      cases db.source.lookup key with
      | none => rfl
      | some record =>
        cases record with
        | stream s => by_cases href : s.streamRef = streamRef <;>
            simp [Option.filter,SourceRecord.streamRef,SourceRecord.file,href]
        | checkpoint c => by_cases href : c.streamRef = streamRef <;>
            simp [Option.filter,SourceRecord.streamRef,SourceRecord.file,href]
    rw [hview]
    exact Index.exact_keep hdb.exact _
  indexKeys indexKey key hkey := by
    change (eraseAll _ _).lookup indexKey = _ at hkey
    rw [lookup_eraseAll] at hkey
    split_ifs at hkey
    exact hdb.indexKeys indexKey key hkey

structure DBInv (stateKey : String → String → K) (db : DB K) : Prop where
  files : Consistent stateKey db.toFileBuckets
  noIntents : db.pipeline = ∅
  noSinks : db.sink = ∅

theorem consistent_empty : Consistent stateKey (DB.empty : DB K).toFileBuckets where
  records key record hrecord := by
    rw [DB.empty,lookup_empty] at hrecord
    cases hrecord
  exact file key := by simp [FileBuckets.view,DB.empty]
  indexKeys indexKey key hkey := by
    rw [DB.empty,lookup_empty] at hkey
    cases hkey

theorem DBInv.apply {db' : DB K} (hinj : Function.Injective2 stateKey) (hdb : DBInv stateKey db)
    {call : Call} (hcall : call.streamRef ≠ "stream") (h : db.apply stateKey call = .ok db') :
    DBInv stateKey db' := by
  cases call with
  | commitSource checkpoints stream =>
    obtain ⟨hvalid,hchecked,files,hfiles,rfl⟩ := commitSource_ok h
    have hbatch := batch_normalize hinj hchecked
    exact ⟨(hdb.files.putAll hinj hcall hbatch hfiles).putStream hinj hvalid,hdb.noIntents,
      hdb.noSinks⟩
  | putSourceStream stream =>
    obtain ⟨_,hvalid,h⟩ := bind_eq_ok.mp h
    cases h
    exact ⟨hdb.files.putStream hinj hvalid,hdb.noIntents,hdb.noSinks⟩
  | deleteStream streamRef =>
    cases h
    refine ⟨hdb.files.deleteStream hinj streamRef,?_,?_⟩
    · simp only [DB.deleteStream,hdb.noIntents]
      rfl
    · simp only [DB.deleteStream,hdb.noSinks]
      rfl

theorem DBInv.of_reachable (hinj : Function.Injective2 stateKey) (h : Reachable stateKey db) :
    DBInv stateKey db := by
  refine Runs.Reach.invariant ?_ ?_ h
  · rintro _ rfl
    exact ⟨consistent_empty,rfl,rfl⟩
  · rintro db call db' hdb hcall (happly | rfl)
    · exact hdb.apply hinj hcall happly
    · exact hdb

theorem expectIndex_ok (index : Bucket K K) {entries : List (Sigma fun _ : K => SourceRecord)}
    (hrecords : ∀ entry ∈ entries, RecordOk stateKey entry.1 entry.2)
    (hindexed : ∀ key c, ⟨key,.checkpoint c⟩ ∈ entries →
      index.lookup (stateKey c.streamRef c.fileID) = some key)
    (hkeys : entries.NodupKeys) (expected : Bucket K K)
    (hfresh : ∀ key c, ⟨key,.checkpoint c⟩ ∈ entries →
      expected.lookup (stateKey c.streamRef c.fileID) = none) :
    ∃ expected', expectIndex stateKey index expected entries = .ok expected' ∧
      (∀ indexKey key, expected.lookup indexKey = some key → expected'.lookup indexKey = some key) ∧
      ∀ key c, ⟨key,.checkpoint c⟩ ∈ entries →
        expected'.lookup (stateKey c.streamRef c.fileID) = some key := by
  induction entries generalizing expected with
  | nil => exact ⟨expected,rfl,fun _ _ h => h,by simp⟩
  | cons entry rest ih =>
    obtain ⟨key,record⟩ := entry
    obtain ⟨hnot,hrest⟩ := nodupKeys_cons.mp hkeys
    have hrecords' := (forall_mem_cons.mp hrecords).2
    have hindexed' key c hc := hindexed key c (mem_cons_of_mem _ hc)
    have hfresh' key c hc := hfresh key c (mem_cons_of_mem _ hc)
    cases record with
    | stream s =>
      obtain ⟨expected',hok,hkept,hnew⟩ := ih hrecords' hindexed' hrest expected hfresh'
      refine ⟨expected',hok,hkept,fun key' c hc => hnew key' c ?_⟩
      rcases mem_cons.mp hc with heq | hc
      · cases heq
      · exact hc
    | checkpoint c =>
      obtain ⟨hvalid,_,hkey⟩ := hrecords _ mem_cons_self
      have hpath := path_ne_empty hvalid
      have hatIndex := hindexed key c mem_cons_self
      have hatFresh := hfresh key c mem_cons_self
      have hfresh'' : ∀ key' d, ⟨key',.checkpoint d⟩ ∈ rest →
          (expected.insert (stateKey c.streamRef c.fileID) key).lookup
            (stateKey d.streamRef d.fileID) = none := by
        intro key' d hd
        rw [lookup_insert_iff,if_neg,hfresh' key' d hd]
        intro hsame
        have hother := hindexed' key' d hd
        rw [hsame,hatIndex] at hother
        cases hother
        exact hnot (mem_map.mpr ⟨_,hd,rfl⟩)
      obtain ⟨expected',hok,hkept,hnew⟩ := ih hrecords' hindexed' hrest _ hfresh''
      refine ⟨expected',?_,fun indexKey key' hlookup => hkept indexKey key' ?_,fun key' d hd => ?_⟩
      · have hdecode : decodeFileCheckpoint (.checkpoint c) = .ok (some c) := by
          rw [decodeFileCheckpoint,if_neg hpath,hvalid]
          rfl
        have hreject : reject [
            (decide (stateKey c.streamRef c.path ≠ key), StateError.nonCanonicalKey),
            ((expected.lookup (sourceFileIndexKey stateKey c.streamRef c.fileID)).isSome,
              .duplicateIndexKey),
            (decide (index.lookup (sourceFileIndexKey stateKey c.streamRef c.fileID) ≠ some key),
              .indexMismatch c.streamRef c.fileID)] = .ok () := by
          rw [reject_eq_ok]
          simp [sourceFileIndexKey,← hkey,hatFresh,hatIndex]
        unfold expectIndex
        rw [hdecode]
        change (reject _ >>= fun _ => _) = _
        rwa [hreject]
      · rw [lookup_insert_iff,if_neg,hlookup]
        rintro rfl
        rw [hatFresh] at hlookup
        cases hlookup
      · rcases mem_cons.mp hd with heq | hd
        · cases heq
          exact hkept _ _ (lookup_insert _)
        · exact hnew key' d hd

theorem validateSourceFileIndex_ok {files : FileBuckets K} (hfiles : Consistent stateKey files) :
    validateSourceFileIndex stateKey files = .ok () := by
  have hlookup {key : K} {record : SourceRecord} (h : ⟨key,record⟩ ∈ files.source.entries) :
      files.source.lookup key = some record := mem_lookup_iff.mpr h
  obtain ⟨expected,hexpected,_,hnew⟩ := expectIndex_ok files.index
    (fun entry h => hfiles.records _ _ (hlookup h)) (fun key c h => hfiles.indexed (hlookup h))
    files.source.nodupKeys ∅ (fun _ _ _ => rfl)
  refine bind_eq_ok.mpr ⟨expected,hexpected,forM_eq_ok.mpr ?_⟩
  rintro ⟨indexKey,key⟩ hentry
  have hindex : files.index.lookup indexKey = some key := mem_lookup_iff.mpr hentry
  obtain ⟨streamRef,fileID,rfl⟩ := hfiles.indexKeys indexKey key hindex
  obtain ⟨c,hc,rfl,rfl⟩ := hfiles.backed hindex
  have hfound := hnew key c (mem_lookup_iff.mp hc)
  simp [validateIndexEntry,hfound]

theorem validateStoredState_ok (hdb : DBInv stateKey db) (targetID : String) :
    validateStoredState stateKey targetID db = .ok () := by
  refine bind_eq_ok.mpr ⟨(),forM_eq_ok.mpr ?_,?_⟩
  · rintro ⟨key,record⟩ hentry
    have hrecord := hdb.files.records key record (mem_lookup_iff.mpr hentry)
    cases record with
    | checkpoint c =>
      have hpath := path_ne_empty hrecord.1
      simp [validateStoredSource,hpath]
    | stream s =>
      obtain ⟨hvalid,hkey⟩ := hrecord
      refine bind_eq_ok.mpr ⟨(),hvalid,reject_eq_ok.mpr ?_⟩
      simp [hkey]
  · rw [hdb.noIntents,hdb.noSinks]
    rfl

theorem checkpoint_store_sound (hinj : Function.Injective2 stateKey) {db : DB K}
    (hdb : Reachable stateKey db) (targetID : String) :
    db.initializeState stateKey targetID = .ok () ∧
    (∀ key key' c d, db.source.lookup key = some (.checkpoint c) →
      db.source.lookup key' = some (.checkpoint d) → c.streamRef = d.streamRef →
      c.fileID = d.fileID → key = key') ∧
    ∀ checkpoints stream db', stream.streamRef ≠ "stream" →
      db.commitSource stateKey checkpoints stream = .ok db' →
      (¬ CursorLowered db.toFileBuckets db'.toFileBuckets ↔
        ¬ Overtaken db.toFileBuckets (normalizeFileCheckpoints stateKey checkpoints)) := by
  have hinv := DBInv.of_reachable hinj hdb
  refine ⟨?_,?_,?_⟩
  · exact bind_eq_ok.mpr ⟨(),validateSourceFileIndex_ok hinv.files,
      validateStoredState_ok hinv targetID⟩
  · intro key key' c d hc hd href hid
    have heq := hinv.files.sole ⟨key,hc⟩ ⟨key',hd⟩ href hid
    rw [hinv.files.key_of_checkpoint hc,hinv.files.key_of_checkpoint hd,heq]
  · intro checkpoints stream db' hstream hcommit
    exact not_congr (commitSource_lowered_iff hinj hinv.files hstream hcommit)

end Keyed

def podResource : FrozenResource :=
  ⟨"s","c","n","p","u","w","main","/logs",false⟩

def newStream : SourceStream where
  streamRef := "r"
  resource := podResource
  coverageStartedAt := ⟨0,true⟩
  initialScanComplete := false
  monitoringEpoch := ""
  guarantee := ""
  revision := 1
  acknowledgedRevision := 0
  finalizingRevision := 0
  finalizingOutcome := none
  hadDrops := false
  hadSourceGaps := false
  lossReasons := []
  drops := []
  gaps := []
  latePending := false
  ended := false
  repairDeadline := none

def fileAt (fileID path : String) (offset : Int) : FileCheckpoint :=
  ⟨"r",fileID,path,offset,1,1,"h",4,offset,0,1⟩

def rotatedDB : DB (String × String) :=
  ((DB.empty.commitSource Prod.mk [fileAt "f" "/a" 10,fileAt "g" "/b" 20] newStream).toOption).getD
    DB.empty

def swapBatch : List FileCheckpoint := [fileAt "f" "/b" 11,fileAt "g" "/a" 5]

def swappedDB : DB (String × String) :=
  ((rotatedDB.commitSource Prod.mk swapBatch newStream).toOption).getD DB.empty

theorem ok_of_toOption {ε α : Type} {x : Except ε α} {d : α} (h : x.toOption.isSome = true) :
    x = .ok (x.toOption.getD d) := by
  cases x with
  | error e => cases h
  | ok a => rfl

theorem rotatedDB_reachable : Reachable Prod.mk rotatedDB :=
  .step (.start rfl) (a := Call.commitSource [fileAt "f" "/a" 10,fileAt "g" "/b" 20] newStream)
    (by decide) (.inl (ok_of_toOption (by decide +kernel)))

theorem checkpoint_store_sound_rotated :
    Reachable Prod.mk rotatedDB ∧ rotatedDB.initializeState Prod.mk "t" = .ok () :=
  ⟨rotatedDB_reachable,
    (checkpoint_store_sound (fun _ _ _ _ => Prod.mk.inj) rotatedDB_reachable "t").1⟩

theorem swap_lowers_cursor : Reachable Prod.mk rotatedDB ∧
      rotatedDB.commitSource Prod.mk swapBatch newStream = .ok swappedDB ∧
      CursorLowered rotatedDB.toFileBuckets swappedDB.toFileBuckets := by
  refine ⟨rotatedDB_reachable,ok_of_toOption (by decide +kernel),fileAt "g" "/b" 20,
    fileAt "g" "/a" 5,⟨("r", "/b"),?_⟩,⟨("r", "/a"),?_⟩,rfl,rfl,?_⟩
  all_goals decide +kernel

end OpenSandbox.NodeAgent
