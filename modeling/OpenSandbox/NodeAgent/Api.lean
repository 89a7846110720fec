import OpenSandbox.Library.GoMap
import OpenSandbox.NodeAgent.State.Records

namespace OpenSandbox.NodeAgent

open List

structure Resource where
  sandboxID : String
  clusterName : String
  namespaceName : String
  podName : String
  podUID : String
  nodeName : String
  container : String
  logDirectory : String
  deriving DecidableEq

structure Record where
  timestamp : Time
  body : List UInt8
  resource : Resource
  attributes : GoMap String

structure BatchItem where
  record : Record
  recordID : String

structure Batch where
  streamRef : String
  items : List BatchItem

structure SourceOutcome where
  hadDrops : Bool
  hadSourceGaps : Bool
  lossReasons : List String

structure FinalizeRequest where
  finalizeID : String
  targetID : String
  streamRef : String
  revision : Nat
  coverageStartedAt : Time
  resource : Resource
  outcome : SourceOutcome
  finalizedAt : Time

def utf8 (text : String) : List UInt8 := text.toList.flatMap String.utf8EncodeChar

def encodeItem (formatNano : Time → String) (item : BatchItem) : List UInt8 :=
  utf8 (formatNano item.record.timestamp) ++ [32] ++
    utf8 ((item.record.attributes.lookup "stream").getD "") ++ [32] ++ item.record.body ++ [10]

def encodeBatch (formatNano : Time → String) (batch : Batch) : List UInt8 :=
  batch.items.flatMap (encodeItem formatNano)

def joinPath (elements : List String) : String :=
  "/".intercalate (elements.filter (· ≠ ""))

def familyPrefixOf (keyPrefix : String) (r : Resource) : String :=
  joinPath [keyPrefix,r.clusterName,r.namespaceName,r.sandboxID,r.podUID]

def generationName (container : String) (generation : Nat) : String :=
  if generation = 0 then container ++ ".log"
  else container ++ "." ++ Decimal.formatUint generation ++ ".log"

def dataKey (family container : String) (generation : Nat) : String :=
  joinPath [family,generationName container generation]

def markerName (container : String) (revision : Nat) : String :=
  container ++ ".finalized." ++ Decimal.formatUint revision ++ ".json"

def markerKey (family container : String) (revision : Nat) : String :=
  joinPath [family,markerName container revision]

def unsafeSegment (segment : String) : Bool :=
  segment = "" || segment = "." || segment = ".." ||
    segment.toList.any fun c => c = '/' || c = '\\'

def Resource.segments (r : Resource) : List String :=
  [r.clusterName,r.namespaceName,r.sandboxID,r.podUID,r.container]

theorem joinPath_pair {a b : String} (ha : a ≠ "") (hb : b ≠ "") :
    joinPath [a,b] = a ++ "/" ++ b := by
  simp [joinPath,ha,hb,String.intercalate_cons_cons]

theorem joinPath_ne_empty {elements : List String} {element : String} (hmem : element ∈ elements)
    (h : element ≠ "") : joinPath elements ≠ "" := by
  have hkept : element ∈ elements.filter (· ≠ "") := by simpa using ⟨hmem,h⟩
  unfold joinPath
  have hall : ∀ e ∈ elements.filter (· ≠ ""), e ≠ "" := by simp
  generalize elements.filter (· ≠ "") = kept at hkept hall
  match kept with
  | [] => cases hkept
  | [only] => simpa using hall only (mem_singleton_self only)
  | a :: b :: rest => simp [String.intercalate_cons_cons,String.append_eq_empty_iff]

theorem generationName_ne_empty (container : String) (generation : Nat) :
    generationName container generation ≠ "" := by
  unfold generationName
  split_ifs <;> simp [String.append_eq_empty_iff]

theorem generationName_injective (container : String) :
    Function.Injective (generationName container) := by
  have hlong (n : Nat) : container ++ ".log" ≠
      container ++ "." ++ Decimal.formatUint n ++ ".log" := by
    intro h
    have hlength := congrArg (·.toList.length) h
    have hdigits := length_pos_iff.mpr (Decimal.formatUint_ne_nil n)
    simp only [String.toList_append,length_append] at hlength
    have hdot : (".").toList.length = 1 := rfl
    omega
  intro m n h
  unfold generationName at h
  split_ifs at h with hm hn hn
  · rw [hm,hn]
  · exact absurd h (hlong n)
  · exact absurd h.symm (hlong m)
  apply Decimal.formatUint_injective
  have hlists := congrArg String.toList h
  simp only [String.toList_append,append_assoc,append_cancel_left_eq] at hlists
  exact String.toList_inj.mp (append_cancel_right hlists)

theorem dataKey_eq {family : String} (h : family ≠ "") (container : String) (generation : Nat) :
    dataKey family container generation = family ++ "/" ++ generationName container generation :=
  joinPath_pair h (generationName_ne_empty container generation)

theorem dataKey_injective {family : String} (h : family ≠ "") (container : String) :
    Function.Injective (dataKey family container) := by
  intro m n heq
  rw [dataKey_eq h,dataKey_eq h] at heq
  have hlists := congrArg String.toList heq
  simp only [String.toList_append,append_assoc,append_cancel_left_eq] at hlists
  exact generationName_injective container (String.toList_inj.mp hlists)

theorem encodeBatch_length_pos (formatNano : Time → String) {batch : Batch}
    (h : batch.items ≠ []) : 0 < (encodeBatch formatNano batch).length := by
  obtain ⟨item,rest,hitems⟩ := exists_cons_of_ne_nil h
  have hitem : 0 < (encodeItem formatNano item).length := by simp [encodeItem]
  rw [encodeBatch,hitems,flatMap_cons,length_append]
  omega

end OpenSandbox.NodeAgent
