import Mathlib.Data.List.Sort
import OpenSandbox.Library.PyText

namespace OpenSandbox.Mitm

open PyText Option Prod

abbrev Hit := (String × String) × Nat

def Hit.placeholder (hit : Hit) : List Char := hit.1.1.toList

def Hit.replacement (hit : Hit) : List Char := hit.1.2.toList

def selectedLength (selected : Option Hit) : Nat := (selected.map (·.placeholder.length)).getD 0

def considerLiteral (rest : List Char) (selected : Option Hit) (r : Hit) : Option Hit :=
  if r.placeholder.length ≤ selectedLength selected then selected
  else if r.placeholder.isPrefixOf rest then some r
  else selected

def selectLiteral (replacements : List (String × String)) (rest : List Char) : Option Hit :=
  replacements.zipIdx.foldl (considerLiteral rest) none

def replaceLiteralsOnce (text : String) (replacements : List (String × String)) :
    String × List Nat :=
  if replacements = [] then (text, [])
  else
    let parts := Scan.scan Hit.placeholder (selectLiteral replacements) 0 text.toList
    let applied := (parts.filterMap fun part => part.getRight?.map Prod.snd).eraseDups
    if applied = [] then (text, [])
    else (String.ofList (Scan.join Hit.replacement parts), applied)

section Select

variable {rs : List (String × String)} {rest : List Char}

structure Selected (rs : List (String × String)) (rest : List Char) (best : Option Hit) :
    Prop where
  found : ∀ hit ∈ best, hit.1 ∈ rs ∧ hit.placeholder ≠ [] ∧ hit.placeholder <+: rest
  longest : ∀ r ∈ rs, r.1.toList <+: rest → r.1.toList.length ≤ selectedLength best

theorem selected_selectLiteral (rs : List (String × String)) (rest : List Char) :
    Selected rs rest (selectLiteral rs rest) := by
  induction rs using List.reverseRecOn with
  | nil => exact ⟨nofun,nofun⟩
  | append_singleton rs r ih =>
    have hlast : selectLiteral (rs ++ [r]) rest =
        considerLiteral rest (selectLiteral rs rest) (r, rs.length) := by
      simp [selectLiteral,List.zipIdx_append]
    rw [hlast,considerLiteral]
    generalize selectLiteral rs rest = best at ih
    have hkept (h : r.1.toList <+: rest → r.1.toList.length ≤ selectedLength best) :
        Selected (rs ++ [r]) rest best :=
      ⟨fun hit hb => ⟨List.mem_append_left _ (ih.found hit hb).1,(ih.found hit hb).2⟩,
        List.forall_mem_append.mpr ⟨ih.longest,List.forall_mem_singleton.mpr h⟩⟩
    split
    · next hle => exact hkept fun _ => hle
    next hlt =>
    split_ifs with hpre
    · have hlonger : selectedLength best < r.1.toList.length := not_le.mp hlt
      refine ⟨?_,List.forall_mem_append.mpr ⟨fun s hs h => ?_,?_⟩⟩
      · rintro _ ⟨⟩
        exact ⟨by simp,List.ne_nil_of_length_pos (Nat.zero_lt_of_lt hlonger),by simpa using hpre⟩
      · exact (ih.longest s hs h).trans hlonger.le
      · exact List.forall_mem_singleton.mpr fun _ => le_rfl
    · exact hkept fun h => absurd (List.isPrefixOf_iff_prefix.mpr h) hpre

def Longest (rs : List (String × String)) (rest : List Char) (r : String × String) : Prop :=
  r ∈ rs ∧ r.1 ≠ "" ∧ r.1.toList <+: rest ∧
    ∀ other ∈ rs, other.1.toList <+: rest → other.1.toList.length ≤ r.1.toList.length

theorem selectLiteral_iff (hdistinct : (rs.map Prod.fst).Nodup) {r : String × String} :
    (selectLiteral rs rest).map Prod.fst = some r ↔ Longest rs rest r := by
  obtain ⟨hfound,hlongest⟩ := selected_selectLiteral rs rest
  cases hbest : selectLiteral rs rest with
  | none =>
    rw [hbest] at hlongest
    simp only [map_none,reduceCtorEq,false_iff]
    rintro ⟨hmem,hne,hpre,-⟩
    exact hne (by simpa [selectedLength] using hlongest r hmem hpre)
  | some hit =>
    rw [hbest] at hlongest
    obtain ⟨hmem,hne,hpre⟩ := hfound hit hbest
    rw [map_some,some.injEq]
    constructor
    · rintro rfl
      exact ⟨hmem,by simpa [Hit.placeholder] using hne,hpre,hlongest⟩
    · rintro ⟨hmem',-,hpre',hlongest'⟩
      refine List.inj_on_of_nodup_map hdistinct hmem hmem' (String.toList_inj.mp ?_)
      have hlength := (hlongest' _ hmem hpre).antisymm (hlongest r hmem' hpre')
      exact (List.prefix_of_prefix_length_le hpre hpre' hlength.le).eq_of_length hlength

def LeftmostLongest (rs : List (String × String)) : List (Char ⊕ Hit) → Prop
  | [] => True
  | .inl c :: pieces =>
      (∀ r ∈ rs, ¬ r.1.toList <+: c :: Scan.join Hit.placeholder pieces) ∧
        LeftmostLongest rs pieces
  | .inr hit :: pieces =>
      Longest rs (hit.placeholder ++ Scan.join Hit.placeholder pieces) hit.1 ∧
        LeftmostLongest rs pieces

theorem leftmostLongest_of_chosen (hdistinct : (rs.map Prod.fst).Nodup)
    (hne : ∀ r ∈ rs, r.1 ≠ "") {pieces : List (Char ⊕ Hit)}
    (h : Scan.Chosen Hit.placeholder (selectLiteral rs) pieces) : LeftmostLongest rs pieces := by
  induction pieces with
  | nil => trivial
  | cons piece pieces ih =>
    cases piece with
    | inl c =>
      refine ⟨fun r hr hpre => hne r hr ?_,ih h.2⟩
      have hlength := (selected_selectLiteral rs _).longest r hr hpre
      have hnone : selectLiteral rs (c :: Scan.join Hit.placeholder pieces) = none := h.1
      simpa [hnone,selectedLength] using hlength
    | inr hit => exact ⟨(selectLiteral_iff hdistinct).mp (congrArg _ h.1),ih h.2⟩

theorem scan_literals (rs : List (String × String)) (text : String) :
    let pieces := Scan.scan Hit.placeholder (selectLiteral rs) 0 text.toList
    Scan.Chosen Hit.placeholder (selectLiteral rs) pieces ∧
      Scan.join Hit.placeholder pieces = text.toList :=
  Scan.scan_chosen (fun s hit h => ((selected_selectLiteral rs s).found hit h).2) 0 text.toList

theorem replaceLiteralsOnce_text (rs : List (String × String)) (text : String) :
    (replaceLiteralsOnce text rs).1.toList = Scan.join Hit.replacement
      (Scan.scan Hit.placeholder (selectLiteral rs) 0 text.toList) := by
  obtain ⟨hchosen,hjoin⟩ := scan_literals rs text
  rw [replaceLiteralsOnce]
  generalize Scan.scan Hit.placeholder (selectLiteral rs) 0 text.toList = pieces at hchosen hjoin
  have hsame (h : ∀ piece ∈ pieces, piece.getRight? = none) :
      text.toList = Scan.join Hit.replacement pieces := by
    rw [← hjoin]
    refine List.flatMap_congr fun piece hp => ?_
    cases piece with
    | inl c => rfl
    | inr hit => cases h _ hp
  split_ifs with hempty
  · refine hsame fun piece hp => ?_
    obtain ⟨s,hs⟩ := hchosen.picked hp
    rw [← hs,hempty]
    rfl
  dsimp only
  split_ifs with hnone
  · have hnil : (pieces.filterMap fun part => part.getRight?.map snd) = [] := by
      cases h : pieces.filterMap fun part => part.getRight?.map snd with
      | nil => rfl
      | cons i is => simp [h,List.eraseDups_cons] at hnone
    exact hsame fun piece hp =>
      map_eq_none_iff.mp (List.filterMap_eq_nil_iff.mp hnil piece hp)
  · simp

theorem substitution_single_pass (hdistinct : (rs.map Prod.fst).Nodup)
    (hne : ∀ r ∈ rs, r.1 ≠ "") (text : String) :
    (∀ rs', rs'.Perm rs → (replaceLiteralsOnce text rs').1 = (replaceLiteralsOnce text rs).1) ∧
      ∃ pieces, LeftmostLongest rs pieces ∧ Scan.join Hit.placeholder pieces = text.toList ∧
        (replaceLiteralsOnce text rs).1.toList = Scan.join Hit.replacement pieces := by
  obtain ⟨hchosen,hjoin⟩ := scan_literals rs text
  refine ⟨fun rs' hperm => String.toList_inj.mp ?_,_,
    leftmostLongest_of_chosen hdistinct hne hchosen,hjoin,replaceLiteralsOnce_text rs text⟩
  have hdistinct' := (hperm.map fst).nodup_iff.mpr hdistinct
  have hselect (s : List Char) : (selectLiteral rs' s).map fst = (selectLiteral rs s).map fst := by
    ext r
    rw [selectLiteral_iff hdistinct',selectLiteral_iff hdistinct]
    simp only [Longest,hperm.mem_iff]
  rw [replaceLiteralsOnce_text,replaceLiteralsOnce_text]
  exact Scan.join_congr (k := fun r => r.1.toList) (v := fun r => r.2.toList) hselect 0 text.toList

theorem substitution_single_pass_nested :
    (replaceLiteralsOnce "aab" [("ab", "a"),("a", "ab")]).1 = "aba" ∧
      (replaceLiteralsOnce "aab" [("a", "ab"),("ab", "a")]).1 =
        (replaceLiteralsOnce "aab" [("ab", "a"),("a", "ab")]).1 := by
  have hpass := substitution_single_pass (show ([("ab", "a"),("a", "ab")].map fst).Nodup by
    decide) (by decide) "aab"
  exact ⟨by decide +kernel,hpass.1 _ (by decide)⟩

end Select

def redactText (unique : List String) (text : String) : String :=
  (unique.insertionSort fun a b => b.length ≤ a.length).foldl
    (fun out value => replace out value "[REDACTED]") text

structure Secret (value : String) : Prop where
  nonempty : value ≠ ""
  left : '[' ∉ value.toList
  right : ']' ∉ value.toList
  unmarked : ¬ value.toList <:+: "REDACTED".toList

theorem Secret.infix_replace {value old text : String} (h : Secret value) (hold : old ≠ "")
    (hin : value.toList <:+: (replace text old "[REDACTED]").toList) :
    value.toList <:+: text.toList ∧ value ≠ old := by
  obtain ⟨hchosen,hjoin⟩ := @Scan.scan_chosen _ _ (fun _ => old.toList) (find old)
    (fun s b hb => ⟨by simpa using hold,by simpa [find] using hb⟩) 0 text.toList
  rw [replace,String.toList_ofList] at hin
  have hkept := Scan.infix_kept h.left h.right h.unmarked hin
  obtain ⟨hwithin,v,hv⟩ := hchosen.kept hkept (by simpa using h.nonempty)
  rw [hjoin] at hwithin
  refine ⟨hwithin,?_⟩
  rintro rfl
  simp [find] at hv

theorem Secret.infix_fold {value : String} (h : Secret value) {olds : List String}
    (holds : "" ∉ olds) {text : String}
    (hin : value.toList <:+:
      (olds.foldl (fun out old => replace out old "[REDACTED]") text).toList) :
    value.toList <:+: text.toList ∧ value ∉ olds := by
  induction olds generalizing text with
  | nil => exact ⟨hin,List.not_mem_nil⟩
  | cons old olds ih =>
    rw [List.mem_cons,not_or] at holds
    obtain ⟨hout,hnot⟩ := ih holds.2 hin
    obtain ⟨htext,hne⟩ := h.infix_replace (Ne.symm holds.1) hout
    exact ⟨htext,by simp [hne,hnot]⟩

theorem redaction_leaves_no_secret {values unique : List String}
    (hset : unique.Perm (values.filter (· ≠ "")).dedup)
    (hplain : ∀ value ∈ values, value ≠ "" →
      '[' ∉ value.toList ∧ ']' ∉ value.toList ∧ ¬ value.toList <:+: "REDACTED".toList)
    (text value : String) (hvalue : value ∈ values) (hne : value ≠ "") :
    ¬ value.toList <:+: (redactText unique text).toList := by
  have hmem (v : String) : v ∈ unique.insertionSort (fun a b => b.length ≤ a.length) ↔
      v ∈ values ∧ v ≠ "" := by
    rw [List.mem_insertionSort,hset.mem_iff]
    simp
  obtain ⟨hleft,hright,hmark⟩ := hplain value hvalue hne
  intro hin
  have hfold := Secret.infix_fold ⟨hne,hleft,hright,hmark⟩ (by simp [hmem]) hin
  exact hfold.2 ((hmem value).mpr ⟨hvalue,hne⟩)

theorem redaction_leaves_no_secret_nested :
    redactText ["a","ab"] "xab a" = "x[REDACTED] [REDACTED]" ∧
      ¬ "ab".toList <:+: (redactText ["a","ab"] "xab a").toList := by
  have hset : ["a","ab"].Perm (["ab","","a","ab"].filter (· ≠ "")).dedup := by decide
  exact ⟨by decide +kernel,redaction_leaves_no_secret hset (by decide) _ _ (by decide) (by decide)⟩

end OpenSandbox.Mitm
