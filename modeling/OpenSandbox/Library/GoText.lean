import Mathlib.Data.List.DropRight
import OpenSandbox.Library.UnicodeCase

namespace GoText

open List

def isSpace (c : Char) : Bool :=
  c.toNat ∈ [9,10,11,12,13,32,0x85,0xA0,0x1680,0x2028,0x2029,0x202F,0x205F,0x3000] ||
    (0x2000 ≤ c.toNat && c.toNat ≤ 0x200A)

def trimLeft (cs : List Char) : List Char := cs.dropWhile isSpace

def trimRight (cs : List Char) : List Char := (trimLeft cs.reverse).reverse

def trimSpace (s : String) : String := String.ofList (trimRight (trimLeft s.toList))

def lowerRune (c : Char) : Char :=
  if 'A' ≤ c ∧ c ≤ 'Z' then Char.ofNat (c.toNat + 32)
  else if c.toNat < 128 then c
  else Char.ofNat (UnicodeCase.mapCode UnicodeCase.lowerRanges c.toNat)

def toLower (s : String) : String := String.ofList (s.toList.map lowerRune)

def toUpper (s : String) : String := String.ofList (s.toList.map UnicodeCase.simpleUpper)

def hasPrefix (s pre : String) : Bool := pre.toList.isPrefixOf s.toList

def hasSuffix (s suf : String) : Bool := suf.toList.isSuffixOf s.toList

def contains (s sub : String) : Bool := decide (sub.toList <:+: s.toList)

def spaceCodes : List Nat :=
  [9,10,11,12,13,32,0x85,0xA0,0x1680,0x2000,0x2001,0x2002,0x2003,0x2004,0x2005,
    0x2006,0x2007,0x2008,0x2009,0x200A,0x2028,0x2029,0x202F,0x205F,0x3000]

theorem isSpace_iff (c : Char) : isSpace c = true ↔ c.toNat ∈ spaceCodes := by
  simp only [isSpace,spaceCodes,mem_cons,not_mem_nil,or_false,Bool.or_eq_true,
    Bool.and_eq_true,decide_eq_true_eq]
  omega

theorem spaceCodes_omitted :
    spaceCodes.all (fun k => UnicodeCase.lowerRanges.all fun r => r.omits k) = true := by
  decide +kernel

theorem lowerRune_cases (c : Char) :
    (65 ≤ c.toNat ∧ c.toNat ≤ 90 ∧ (lowerRune c).toNat = c.toNat + 32) ∨
      (c.toNat < 128 ∧ ¬ (65 ≤ c.toNat ∧ c.toNat ≤ 90) ∧ lowerRune c = c) ∨
      (128 ≤ c.toNat ∧
        (lowerRune c).toNat = UnicodeCase.mapCode UnicodeCase.lowerRanges c.toNat) := by
  have hbounds : 'A' ≤ c ∧ c ≤ 'Z' ↔ 65 ≤ c.toNat ∧ c.toNat ≤ 90 := Iff.rfl
  have hof {n : Nat} (h : n.isValidChar) : (Char.ofNat n).toNat = n := by
    rw [Char.ofNat,dif_pos h]
    rfl
  unfold lowerRune
  simp only [hbounds]
  split
  · next h => exact .inl ⟨h.1,h.2,hof (.inl (by omega))⟩
  next h =>
  split_ifs with hlt
  · exact .inr (.inl ⟨hlt,h,rfl⟩)
  · refine .inr (.inr ⟨by omega,hof ?_⟩)
    exact UnicodeCase.mapCode_isValidChar UnicodeCase.lowerRanges_scalar c.valid

theorem isSpace_lowerRune (c : Char) : isSpace (lowerRune c) = isSpace c := by
  rw [Bool.eq_iff_iff,isSpace_iff,isSpace_iff]
  rcases lowerRune_cases c with ⟨hlo,hhi,heq⟩ | ⟨_,_,heq⟩ | ⟨_,heq⟩
  · rw [heq]
    simp only [spaceCodes,mem_cons,not_mem_nil,or_false]
    omega
  · rw [heq]
  · rw [heq,UnicodeCase.mapCode_mem_iff spaceCodes_omitted]

theorem upperCodes_omitted :
    (List.range' 65 26).all (fun k => UnicodeCase.lowerRanges.all fun r => r.omits k) = true := by
  decide +kernel

theorem lowerRune_idem (c : Char) : lowerRune (lowerRune c) = lowerRune c := by
  apply Char.toNat_inj.mp
  rcases lowerRune_cases c with ⟨hlo,hhi,heq⟩ | ⟨_,_,heq⟩ | ⟨h128,heq⟩
  · rcases lowerRune_cases (lowerRune c) with ⟨_,_,_⟩ | ⟨_,_,hself⟩ | ⟨_,_⟩
    · omega
    · rw [hself]
    · omega
  · rw [heq,heq]
  · rcases lowerRune_cases (lowerRune c) with ⟨hlo,hhi,_⟩ | ⟨_,_,hself⟩ | ⟨_,hmap⟩
    · have hmem := UnicodeCase.mapCode_mem_iff upperCodes_omitted c.toNat
      rw [← heq,mem_range'_1,mem_range'_1] at hmem
      omega
    · rw [hself]
    · rw [hmap,heq,UnicodeCase.mapCode_idem UnicodeCase.lowerRanges_apart]

theorem toLower_idem (s : String) : toLower (toLower s) = toLower s := by
  simp [toLower,Function.comp_def,lowerRune_idem]

def Trimmed (cs : List Char) : Prop :=
  (∀ c ∈ cs.head?, isSpace c = false) ∧ ∀ c ∈ cs.getLast?, isSpace c = false

variable {cs : List Char}

theorem trimLeft_eq_self (h : ∀ c ∈ cs.head?, isSpace c = false) : trimLeft cs = cs := by
  cases cs with
  | nil => rfl
  | cons c cs => exact dropWhile_cons_of_neg (by simp [h c rfl])

theorem head_trimLeft (cs : List Char) : ∀ c ∈ (trimLeft cs).head?, isSpace c = false := by
  induction cs with
  | nil => simp [trimLeft]
  | cons c cs ih =>
    rw [trimLeft,dropWhile_cons]
    split_ifs with h
    · exact ih
    · rintro d ⟨⟩
      simpa using h

theorem trimRight_eq_self (h : ∀ c ∈ cs.getLast?, isSpace c = false) : trimRight cs = cs := by
  rw [trimRight,trimLeft_eq_self (by simpa using h),reverse_reverse]

theorem trimmed_trim (cs : List Char) : Trimmed (trimRight (trimLeft cs)) := by
  refine ⟨?_,?_⟩
  · have hpre : trimRight (trimLeft cs) <+: trimLeft cs := rdropWhile_prefix isSpace _
    intro c hc
    cases hr : trimRight (trimLeft cs) with
    | nil => simp [hr] at hc
    | cons d ds =>
      rw [hr] at hc hpre
      obtain ⟨rest,hrest⟩ := hpre
      apply head_trimLeft cs
      rwa [← hrest]
  · intro c hc
    rw [trimRight,getLast?_reverse] at hc
    exact head_trimLeft _ c hc

theorem trimSpace_eq_self {s : String} (h : Trimmed s.toList) : trimSpace s = s := by
  rw [trimSpace,trimLeft_eq_self h.1,trimRight_eq_self h.2,String.ofList_toList]

theorem trimSpace_append {ws : List Char} (h : Trimmed cs) (hne : cs ≠ [])
    (hws : ∀ c ∈ ws, isSpace c = true) :
    trimSpace (String.ofList (cs ++ ws)) = String.ofList cs := by
  have hleft : trimLeft (cs ++ ws) = cs ++ ws := by
    apply trimLeft_eq_self
    cases cs with
    | nil => exact absurd rfl hne
    | cons c cs => exact h.1
  have hright : trimRight (cs ++ ws) = trimRight cs := by
    rw [trimRight,trimRight,reverse_append,trimLeft,trimLeft,
      dropWhile_append_of_pos (by simpa using hws)]
  rw [trimSpace,String.toList_ofList,hleft,hright,trimRight_eq_self h.2]

theorem trimmed_trimSpace (s : String) : Trimmed (trimSpace s).toList := by
  rw [trimSpace,String.toList_ofList]
  exact trimmed_trim s.toList

theorem trimSpace_toLower (s : String) : trimSpace (toLower s) = toLower (trimSpace s) := by
  have hspace : isSpace ∘ lowerRune = isSpace := funext isSpace_lowerRune
  simp only [trimSpace,toLower,String.toList_ofList,trimRight,trimLeft,← map_reverse,
    dropWhile_map,hspace]

theorem trimSpace_idem (s : String) : trimSpace (trimSpace s) = trimSpace s :=
  trimSpace_eq_self (trimmed_trimSpace s)

@[simp] theorem hasPrefix_iff {s pre : String} :
    hasPrefix s pre = true ↔ pre.toList <+: s.toList := isPrefixOf_iff_prefix

@[simp] theorem hasSuffix_iff {s suf : String} :
    hasSuffix s suf = true ↔ suf.toList <:+ s.toList := isSuffixOf_iff_suffix

theorem splitOn_cons (sep c : Char) (cs : List Char) : (c :: cs).splitOn sep =
      if c = sep then [] :: cs.splitOn sep else (cs.splitOn sep).modifyHead (c :: ·) := by
  rw [splitOn,splitOnP_cons_eq_if_modifyHead]
  simp [splitOn]

theorem mem_splitOn {sep c : Char} (h : c ∈ cs) : c = sep ∨ ∃ part ∈ cs.splitOn sep, c ∈ part := by
  induction cs with
  | nil => cases h
  | cons d cs ih =>
    rw [splitOn_cons]
    cases hparts : cs.splitOn sep with
    | nil => exact absurd hparts (splitOnP_ne_nil _ _)
    | cons first parts =>
      rw [hparts] at ih
      split_ifs with hd
      · rcases mem_cons.mp h with rfl | h
        · exact .inl hd
        · rcases ih h with hc | ⟨part,hpart,hmem⟩
          · exact .inl hc
          · exact .inr ⟨part,mem_cons_of_mem _ hpart,hmem⟩
      rw [modifyHead_cons]
      rcases mem_cons.mp h with rfl | h
      · exact .inr ⟨c :: first,mem_cons_self,mem_cons_self⟩
      rcases ih h with hc | ⟨part,hpart,hmem⟩
      · exact .inl hc
      · rcases mem_cons.mp hpart with rfl | hpart
        · exact .inr ⟨d :: part,mem_cons_self,mem_cons_of_mem _ hmem⟩
        · exact .inr ⟨part,mem_cons_of_mem _ hpart,hmem⟩

theorem nil_mem_splitOn {sep : Char} (h : cs.getLast? = some sep) : [] ∈ (cs.splitOn sep).tail := by
  induction cs with
  | nil => cases h
  | cons c cs ih =>
    rw [splitOn_cons]
    cases cs with
    | nil =>
      cases h
      simp [splitOn]
    | cons d cs =>
      have htail := ih (by simpa using h)
      split
      · exact mem_of_mem_tail htail
      · rwa [tail_modifyHead]

end GoText
