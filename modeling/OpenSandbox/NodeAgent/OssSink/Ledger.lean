import OpenSandbox.Library.SegmentLog
import OpenSandbox.NodeAgent.OssSink.Model

namespace OpenSandbox.NodeAgent.OssSink

open SegmentLog List Option AList

def Safe (r : Resource) : Prop := r.segments.any unsafeSegment = false

theorem objectKeyOf_injective {env : Env} {r : Resource} (h : Safe r) :
    Function.Injective (objectKeyOf env r) := by
  have hcluster : r.clusterName ≠ "" := by
    intro heq
    simp [Safe,Resource.segments,unsafeSegment,heq] at h
  exact dataKey_injective (joinPath_ne_empty (by simp) hcluster) r.container

theorem objectKeyOf_ne_empty (env : Env) (r : Resource) (generation : Nat) :
    objectKeyOf env r generation ≠ "" :=
  joinPath_ne_empty (by simp) (generationName_ne_empty r.container generation)

def keyAt (s : SinkStream) (generation : Nat) : Option String :=
  if generation = s.generation then some s.objectKey
  else s.closedObjects[generation]?.map (·.key)

theorem keyAt_current (s : SinkStream) : keyAt s s.generation = some s.objectKey := if_pos rfl

theorem keyAt_push {s : SinkStream} {o : ClosedObject}
    (hcount : s.closedObjects.length = s.generation) {generation : Nat} :
    keyAt { s with closedObjects := s.closedObjects ++ [o], currentClosed := true } generation =
      keyAt s generation := by
  unfold keyAt
  split_ifs with hcurrent
  · rfl
  change generation ≠ s.generation at hcurrent
  change (s.closedObjects ++ [o])[generation]?.map _ = s.closedObjects[generation]?.map _
  rcases Nat.lt_or_ge generation s.closedObjects.length with hlt | hge
  · rw [getElem?_append_left hlt]
  · rw [getElem?_eq_none hge,getElem?_eq_none]
    rw [length_append,length_singleton]
    omega

def Keyed (env : Env) (r : Resource) (s : SinkStream) : Prop :=
  ∀ generation key, keyAt s generation = some key → key = objectKeyOf env r generation

def Arrived (log : List (Nat × List UInt8)) (s : SinkStream) : Prop :=
  ∃ i, s.appendIntent = some i ∧ s.position + i.length = (content log s.generation).length

structure StreamOk (env : Env) (objects : GoMap RemoteObject) (log : List (Nat × List UInt8))
    (s : SinkStream) : Prop where
  named : s.sinkName = "oss"
  reference : s.streamRef = env.streamRef
  keyed : ∃ r, Safe r ∧ Keyed env r s
  count : s.closedObjects.length = if s.currentClosed then s.generation + 1 else s.generation
  held : ∀ generation key, keyAt s generation = some key →
    bytesAt objects key = content log generation
  known : ∀ key o, objects.lookup key = some o → ∃ generation, keyAt s generation = some key
  closed : ∀ (i : Nat) o, s.closedObjects[i]? = some o → o.generation = i ∧
    keyAt s i = some o.key ∧ o.size = (content log i).length ∧ 0 < o.size ∧
    o.crc64 = env.crc64 (content log i)
  positive : 0 ≤ s.position
  extent : s.position = (content log s.generation).length ∨ Arrived log s
  intent : ∀ i, s.appendIntent = some i → i.position = s.position ∧ s.currentClosed = false ∧
    0 < i.length ∧ i.position + i.length ≤ env.cfg.maxObjectBytes ∧
    ∃ data, i.sha256 = env.sha256 data
  latest : ∀ entry ∈ log, entry.1 ≤ s.generation

structure EnvSound (env : Env) : Prop where
  referenced : env.streamRef ≠ ""
  representable : env.cfg.maxObjectBytes ≤ maxInt64
  digest : ∀ data, canonicalDigest (env.sha256 data) = true
  checksum : ∀ data, canonicalUint (env.crc64 data) = true

namespace StreamOk

variable {env : Env} {objects : GoMap RemoteObject} {log : List (Nat × List UInt8)}
  {s : SinkStream} {r : Resource}

variable (h : StreamOk env objects log s)

include h

theorem within {generation : Nat} {key : String}
    (hkey : keyAt s generation = some key) : generation ≤ s.generation := by
  unfold keyAt at hkey
  split_ifs at hkey with hcurrent
  · exact hcurrent.le
  obtain ⟨o,ho,-⟩ := Option.map_eq_some_iff.mp hkey
  have hlength := (List.getElem?_eq_some_iff.mp ho).1
  have hcount := h.count
  split_ifs at hcount <;> omega

theorem key_ne_empty {generation : Nat} {key : String}
    (hkey : keyAt s generation = some key) : key ≠ "" := by
  obtain ⟨r,-,hkeyed⟩ := h.keyed
  rw [hkeyed generation key hkey]
  exact objectKeyOf_ne_empty env r generation

theorem bytes_eq :
    bytesAt objects s.objectKey = content log s.generation := h.held _ _ (keyAt_current s)

theorem settled_position (hnone : s.appendIntent = none) :
    s.position = (content log s.generation).length := by
  rcases h.extent with hposition | ⟨i,hi,-⟩
  · exact hposition
  · rw [hnone] at hi
    cases hi

theorem intent_none_of_closed (hclosed : s.currentClosed = true) : s.appendIntent = none := by
  obtain hnone | ⟨i,hi⟩ := eq_none_or_eq_some s.appendIntent
  · exact hnone
  · rw [(h.intent i hi).2.1] at hclosed
    cases hclosed

theorem valid (hsound : EnvSound env) : validateSinkStream s = .ok () := by
  refine validateSinkStream_ok ?_ ?_ h.positive ?_ (validateClosedObjects_ok ?_)
  · rw [h.named]
    decide
  · rw [h.reference]
    exact hsound.referenced
  · intro i hi
    obtain ⟨hposition,hopen,hlength,hlimit,data,hdigest⟩ := h.intent i hi
    have hmax := hsound.representable
    refine ⟨hposition,hlength,by omega,?_,hopen⟩
    rw [hdigest]
    exact hsound.digest data
  · intro i o ho
    obtain ⟨hgeneration,hkey,-,hsize,hcrc⟩ := h.closed i o ho
    have hcanonical : canonicalUint o.crc64 = true := by
      rw [hcrc]
      exact hsound.checksum _
    simp [ClosedObject.invalidAt,hgeneration,h.key_ne_empty hkey,hsize,hcanonical]

theorem settle : StreamOk env objects log
      { s with position := (content log s.generation).length, appendIntent := none } :=
  { h with
    positive := Int.natCast_nonneg _
    extent := .inl rfl
    intent := nofun }

theorem finalized (revision : Nat) :
    StreamOk env objects log { s with finalizedRevision := revision } := { h with }

theorem record (hnone : s.appendIntent = none)
    (hopen : s.currentClosed = false) {data : List UInt8} (hdata : 0 < data.length)
    (hlimit : s.position + data.length ≤ env.cfg.maxObjectBytes) :
    StreamOk env objects log { s with
      appendIntent := some ⟨s.position,data.length,env.sha256 data,0,0⟩ } :=
  { h with
    extent := .inl (h.settled_position hnone)
    intent := by
      rintro _ ⟨⟩
      exact ⟨rfl,hopen,Int.natCast_pos.mpr hdata,hlimit,data,rfl⟩ }

theorem last_closed (hclosed : s.currentClosed = true) :
    s.closedObjects.getLast?.map (·.generation) = some s.generation := by
  have hcount := h.count
  rw [hclosed,if_pos rfl] at hcount
  have hlast : s.closedObjects.getLast? = s.closedObjects[s.generation]? := by
    rw [getLast?_eq_getElem?,hcount]
    rfl
  have hlt : s.generation < s.closedObjects.length := by omega
  rw [hlast,getElem?_eq_getElem hlt,map_some,(h.closed _ _ (getElem?_eq_getElem hlt)).1]

theorem last_open (hopen : s.currentClosed = false) :
    s.closedObjects.getLast?.map (·.generation) ≠ some s.generation := by
  intro hlast
  obtain ⟨o,ho,hgeneration⟩ := Option.map_eq_some_iff.mp hlast
  rw [List.getLast?_eq_getElem?] at ho
  have hlt := (List.getElem?_eq_some_iff.mp ho).1
  have hindex := (h.closed _ o ho).1
  have hcount := h.count
  rw [hopen] at hcount
  simp only [Bool.false_eq_true,if_false] at hcount
  omega

theorem closedStream_closed (hclosed : s.currentClosed = true)
    (size : Int) (crc : String) : closedStream s size crc = s := by
  rw [closedStream,if_pos (h.last_closed hclosed),← hclosed]

theorem close (hnone : s.appendIntent = none) (hsize : 0 < s.position) :
    StreamOk env objects log (closedStream s (content log s.generation).length
      (env.crc64 (content log s.generation))) := by
  cases hclosed : s.currentClosed with
  | true =>
    rwa [h.closedStream_closed hclosed]
  | false =>
    rw [closedStream,if_neg (h.last_open hclosed)]
    have hcount : s.closedObjects.length = s.generation := by
      rw [h.count,hclosed]
      rfl
    have hposition := h.settled_position hnone
    refine ⟨h.named,h.reference,?_,?_,?_,?_,?_,h.positive,h.extent,?_,h.latest⟩
    · obtain ⟨r,hsafe,hkeyed⟩ := h.keyed
      exact ⟨r,hsafe,fun generation key hkey => hkeyed generation key (keyAt_push hcount ▸ hkey)⟩
    · simp [hcount]
    · exact fun generation key hkey => h.held generation key (keyAt_push hcount ▸ hkey)
    · intro key o ho
      obtain ⟨generation,hkey⟩ := h.known key o ho
      exact ⟨generation,keyAt_push hcount ▸ hkey⟩
    · intro i o ho
      change (s.closedObjects ++ [_])[i]? = some o at ho
      rw [keyAt_push hcount]
      rcases Nat.lt_or_ge i s.closedObjects.length with hlt | hge
      · rw [getElem?_append_left hlt] at ho
        exact h.closed i o ho
      obtain ⟨hi,rfl⟩ : i = s.closedObjects.length ∧ _ = o := by
        rw [getElem?_append_right hge,getElem?_singleton] at ho
        split_ifs at ho with hzero
        · exact ⟨by omega,some.inj ho⟩
      rw [hi,hcount]
      exact ⟨rfl,keyAt_current s,rfl,hposition ▸ hsize,rfl⟩
    · intro i hi
      cases hnone.symm.trans hi

theorem keyed_closedStream (hkeyed : Keyed env r s) (size : Int)
    (crc : String) : Keyed env r (closedStream s size crc) := by
  cases hclosed : s.currentClosed with
  | true =>
    rwa [h.closedStream_closed hclosed]
  | false =>
    have hcount : s.closedObjects.length = s.generation := by
      rw [h.count,hclosed]
      rfl
    rw [closedStream,if_neg (h.last_open hclosed)]
    exact fun generation key hkey => hkeyed generation key (keyAt_push hcount ▸ hkey)

theorem next (hclosed : s.currentClosed = true) (hsafe : Safe r)
    (hkeyed : Keyed env r s) : StreamOk env objects log (nextStream env r s) ∧
      Keyed env r (nextStream env r s) := by
  have hcount : s.closedObjects.length = s.generation + 1 := by
    rw [h.count,hclosed]
    rfl
  have hkeyAt {generation : Nat} {key : String}
      (hkey : keyAt (nextStream env r s) generation = some key) :
      (generation = s.generation + 1 ∧ key = objectKeyOf env r (s.generation + 1)) ∨
        keyAt s generation = some key := by
    unfold keyAt at hkey
    split_ifs at hkey with hcurrent
    · exact .inl ⟨hcurrent,(some.inj hkey).symm⟩
    · obtain ⟨o,ho,rfl⟩ := map_eq_some_iff.mp hkey
      exact .inr (h.closed generation o ho).2.1
  have hnew : content log (s.generation + 1) = [] :=
    content_eq_nil fun entry hentry => Nat.lt_succ_of_le (h.latest entry hentry)
  have hkeyed' : Keyed env r (nextStream env r s) := by
    intro generation key hkey
    rcases hkeyAt hkey with ⟨rfl,rfl⟩ | hold
    · rfl
    · exact hkeyed generation key hold
  have hold {generation : Nat} {key : String} (hkey : keyAt s generation = some key) :
      keyAt (nextStream env r s) generation = some key := by
    have hwithin := h.within hkey
    have hlt : generation < s.closedObjects.length := by omega
    have hclosedKey := (h.closed _ _ (getElem?_eq_getElem hlt)).2.1
    rw [hkey] at hclosedKey
    have hne : generation ≠ (nextStream env r s).generation :=
      (show generation < s.generation + 1 by omega).ne
    unfold keyAt
    rw [if_neg hne,hclosedKey]
    change s.closedObjects[generation]?.map (·.key) = _
    rw [getElem?_eq_getElem hlt,map_some]
  refine ⟨⟨h.named,h.reference,⟨r,hsafe,hkeyed'⟩,hcount,?_,?_,?_,le_rfl,?_,?_,?_⟩,hkeyed'⟩
  · intro generation key hkey
    rcases hkeyAt hkey with ⟨rfl,rfl⟩ | hheld
    · rw [hnew,bytesAt]
      cases hlookup : objects.lookup (objectKeyOf env r (s.generation + 1)) with
      | none => rfl
      | some o =>
        obtain ⟨generation,hknown⟩ := h.known _ o hlookup
        have hwithin := h.within hknown
        have heq := objectKeyOf_injective hsafe (hkeyed generation _ hknown)
        omega
    · exact h.held generation key hheld
  · intro key o ho
    obtain ⟨generation,hknown⟩ := h.known key o ho
    exact ⟨generation,hold hknown⟩
  · intro i o ho
    obtain ⟨hgeneration,hkey,hrest⟩ := h.closed i o ho
    exact ⟨hgeneration,hold hkey,hrest⟩
  · left
    change (0 : Int) = (content log (s.generation + 1)).length
    rw [hnew]
    rfl
  · intro i hi
    cases (h.intent_none_of_closed hclosed).symm.trans hi
  · intro entry hentry
    exact (h.latest entry hentry).trans (Nat.le_succ _)

theorem appended {i : AppendIntent}
    (hintent : s.appendIntent = some i) {data : List UInt8} (hlength : i.length = data.length)
    (hposition : s.position = (content log s.generation).length) (metadata : Metadata) :
    StreamOk env (objects.insert s.objectKey ⟨bytesAt objects s.objectKey ++ data,metadata⟩)
      (log ++ [(s.generation, data)]) s := by
  have hopen := (h.intent i hintent).2.1
  have hcount : s.closedObjects.length = s.generation := by
    rw [h.count,hopen]
    rfl
  refine ⟨h.named,h.reference,h.keyed,h.count,?_,?_,?_,h.positive,.inr ?_,h.intent,?_⟩
  · intro generation key hkey
    by_cases hcurrent : generation = s.generation
    · subst hcurrent
      obtain rfl : s.objectKey = key := some.inj ((keyAt_current s).symm.trans hkey)
      rw [content_append_same,← h.bytes_eq,bytesAt,lookup_insert]
      rfl
    · have hne : key ≠ s.objectKey := by
        obtain ⟨r,hsafe,hkeyed⟩ := h.keyed
        rw [hkeyed generation key hkey,hkeyed _ _ (keyAt_current s)]
        exact fun heq => hcurrent (objectKeyOf_injective hsafe heq)
      rw [content_append_other log (Ne.symm hcurrent),← h.held generation key hkey,bytesAt,
        lookup_insert_ne hne]
      rfl
  · intro key o ho
    by_cases hkey : key = s.objectKey
    · exact ⟨s.generation,hkey ▸ keyAt_current s⟩
    · rw [lookup_insert_ne hkey] at ho
      exact h.known key o ho
  · intro j o ho
    have hlt := (List.getElem?_eq_some_iff.mp ho).1
    rw [content_append_other log (show s.generation ≠ j by omega)]
    exact h.closed j o ho
  · refine ⟨i,hintent,?_⟩
    rw [content_append_same,length_append,hposition,hlength]
    rfl
  · exact forall_mem_append.mpr ⟨h.latest,forall_mem_singleton.mpr le_rfl⟩

end StreamOk

end OpenSandbox.NodeAgent.OssSink
