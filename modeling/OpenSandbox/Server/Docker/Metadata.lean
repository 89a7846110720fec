import Mathlib.Data.Finmap
import OpenSandbox.Library.GoMap
import OpenSandbox.Library.PyText

namespace OpenSandbox.Server.Docker.Metadata

open List AList Option GoMap

def nonUserLabelPrefixes : List String :=
  ["opensandbox.io/","org.opencontainers.image.","com.docker.","desktop.docker."]

def isUserLabel (key : String) : Bool := !nonUserLabelPrefixes.any (PyText.startsWith key)

def extractUserLabels (labels : GoMap String) : GoMap String where
  entries := labels.entries.filter fun entry => isUserLabel entry.1
  nodupKeys := labels.nodupKeys.sublist filter_sublist

abbrev Patch := GoMap (Option String)

def applyEntry (current : GoMap String) : (Sigma fun _ : String => Option String) → GoMap String
  | ⟨key,none⟩ => current.erase key
  | ⟨key,some value⟩ => AList.insert key value current

def mergePatch (current : GoMap String) (patch : Patch) : GoMap String :=
  patch.entries.foldl applyEntry current

def orNone (data : GoMap String) : Option (GoMap String) :=
  if data.entries = [] then none else some data

variable (labels : GoMap String)

def get : Option (GoMap String) → Option (GoMap String)
  | some overrides => orNone overrides
  | none => orNone (extractUserLabels labels)

def current : Option (GoMap String) → GoMap String
  | some overrides =>
    if overrides.entries = [] then extractUserLabels labels
    else overrides ∪ extractUserLabels labels
  | none => extractUserLabels labels

def patch (file : Option (GoMap String)) (patch : Patch) : Option (GoMap String) :=
  some (mergePatch (current labels file) patch)

def lastMention (patches : List Patch) (key : String) : Option (Option String) :=
  patches.foldl (fun found patch => (patch.lookup key).or found) none

def Revived (patches : List Patch) (key : String) : Prop :=
  key ∈ extractUserLabels labels ∧ lastMention patches key = some none ∧
    ∀ last ∈ patches.getLast?, key ∉ last

variable {labels} {key : String}

theorem lookup_mergePatch (current : GoMap String) (patch : Patch) :
    (mergePatch current patch).lookup key = (patch.lookup key).getD (current.lookup key) := by
  obtain ⟨entries,hnodup⟩ := patch
  change (entries.foldl applyEntry current).lookup key = (dlookup key entries).getD _
  induction entries generalizing current with
  | nil => rfl
  | cons entry rest ih =>
    obtain ⟨hfresh,hrest⟩ := nodupKeys_cons.mp hnodup
    have hentry : (applyEntry current entry).lookup key =
        if key = entry.1 then entry.2 else current.lookup key := by
      obtain ⟨k,_ | value⟩ := entry
      · exact lookup_erased current k key
      · exact lookup_inserted current k key value
    rw [foldl_cons,ih _ hrest,hentry]
    split_ifs with hkey
    · subst hkey
      rw [dlookup_eq_none.mpr hfresh,dlookup_cons_eq]
      rfl
    · rw [dlookup_cons_ne rest entry hkey]

theorem lookup_current (file : Option (GoMap String)) : (current labels file).lookup key =
    (file.bind (AList.lookup key)).or ((extractUserLabels labels).lookup key) := by
  rcases file with _ | overrides
  · rfl
  rw [current,bind_some]
  split_ifs with hempty
  · have hnone : overrides.lookup key = none := by rw [AList.lookup,hempty]; rfl
    rw [hnone,none_or]
  · rcases hkey : overrides.lookup key with _ | value
    · exact lookup_union_right (lookup_eq_none.mp hkey)
    · rw [lookup_union_left (lookup_isSome.mp (hkey ▸ rfl)),hkey,some_or]

theorem lastMention_append (patches : List Patch) (patch : Patch) :
    lastMention (patches ++ [patch]) key = (patch.lookup key).or (lastMention patches key) :=
  foldl_concat ..

theorem lookup_patches (patches : List Patch) :
    (current labels (patches.foldl (patch labels) none)).lookup key =
      (lastMention patches key).join.or ((extractUserLabels labels).lookup key) := by
  induction patches using reverseRecOn with
  | nil => rfl
  | append_singleton patches last ih =>
    rw [lookup_current,foldl_concat,patch,bind_some,lookup_mergePatch,ih,lastMention_append]
    rcases last.lookup key with _ | value
    · rw [none_or,getD_none,Option.or_assoc,Option.or_self]
    · rfl

theorem lookup_merged (patches : List Patch) :
    (patches.foldl mergePatch (extractUserLabels labels)).lookup key =
      (lastMention patches key).getD ((extractUserLabels labels).lookup key) := by
  induction patches using reverseRecOn with
  | nil => rfl
  | append_singleton patches last ih =>
    rw [foldl_concat,lookup_mergePatch,ih,lastMention_append]
    rcases last.lookup key with _ | value <;> rfl

theorem orNone_same {a b : GoMap String} :
    (orNone a).map toFinmap = (orNone b).map toFinmap ↔ ∀ key, a.lookup key = b.lookup key := by
  have hread (m : GoMap String) : ((orNone m).map toFinmap).getD ∅ = m.toFinmap := by
    rw [orNone]
    split_ifs with hempty
    · obtain rfl : m = ∅ := AList.ext hempty
      rfl
    · rfl
  refine ⟨fun h key => ?_,fun h => ?_⟩
  · rw [← Finmap.lookup_toFinmap,← hread a,h,hread,Finmap.lookup_toFinmap]
  · have hsame : a.toFinmap = b.toFinmap := Finmap.ext_lookup h
    have hlength := (toFinmap_eq.mp hsame).length_eq
    simp only [orNone,← length_eq_zero_iff,hlength]
    split_ifs
    · rfl
    · exact congrArg some hsame

theorem patches_compose_iff (labels : GoMap String) (patches : List Patch) :
    (get labels (patches.foldl (patch labels) none)).map toFinmap =
      (orNone (patches.foldl mergePatch (extractUserLabels labels))).map toFinmap ↔
    ∀ key, ¬ Revived labels patches key := by
  rcases eq_nil_or_concat' patches with rfl | ⟨earlier,last,rfl⟩
  · exact iff_of_true rfl fun key h => nomatch h.2.1
  · rw [foldl_concat,patch,get,orNone_same]
    refine forall_congr' fun key => ?_
    rw [lookup_mergePatch,lookup_patches,lookup_merged,Revived,lastMention_append,
      getLast?_concat,← lookup_isSome]
    simp only [mem_some,forall_eq',← lookup_eq_none]
    rcases last.lookup key with _ | value
    · rcases lastMention earlier key with _ | _ | value <;> simp
    · simp

theorem deleted_label_revived :
    ((get (AList.singleton "team" "a") ([AList.singleton "team" none,
        AList.singleton "env" (some "b")].foldl (patch (AList.singleton "team" "a")) none)).bind
      (AList.lookup "team") = some "a") ∧
    ([AList.singleton "team" none,AList.singleton "env" (some "b")].foldl mergePatch
      (extractUserLabels (AList.singleton "team" "a"))).lookup "team" = none := by
  decide +kernel

end OpenSandbox.Server.Docker.Metadata
