import Mathlib.Data.List.DropRight
import OpenSandbox.Library.Scan
import OpenSandbox.Library.UnicodeCase

namespace PyText

open List

def upper (s : String) : String := String.ofList (s.toList.flatMap UnicodeCase.fullUpper)

def asciiLower (c : Char) : Char :=
  if 'A' ≤ c ∧ c ≤ 'Z' then Char.ofNat (c.toNat + 32) else c

def Ascii (s : String) : Prop := ∀ c ∈ s.toList, c.toNat < 128

structure Lower where
  lower : String → String
  ascii : ∀ s, Ascii s → lower s = String.ofList (s.toList.map asciiLower)

def Lower.onAscii : Lower := ⟨fun s => String.ofList (s.toList.map asciiLower),fun _ _ => rfl⟩

def rstripDots (s : String) : String := String.ofList (s.toList.rdropWhile (· = '.'))

def startsWith (s pre : String) : Bool := pre.toList.isPrefixOf s.toList

def endsWith (s suf : String) : Bool := suf.toList.isSuffixOf s.toList

def beforeQuery (s : String) : String := String.ofList (s.toList.takeWhile (· ≠ '?'))

def find (old : String) (rest : List Char) : Option Unit :=
  if old.toList.isPrefixOf rest then some () else none

def replace (s old new : String) : String :=
  String.ofList (Scan.join (fun _ => new.toList)
    (Scan.scan (fun _ => old.toList) (find old) 0 s.toList))

variable {s : String}

@[simp] theorem startsWith_iff {pre : String} :
    startsWith s pre = true ↔ pre.toList <+: s.toList := isPrefixOf_iff_prefix

@[simp] theorem endsWith_iff {suf : String} :
    endsWith s suf = true ↔ suf.toList <:+ s.toList := isSuffixOf_iff_suffix

theorem rstripDots_eq_self (h : s.toList.getLast? ≠ some '.') : rstripDots s = s := by
  rw [rstripDots,rdropWhile_eq_self_iff.mpr,String.ofList_toList]
  intro hne
  rw [getLast?_eq_some_getLast hne] at h
  simpa using h

theorem beforeQuery_eq_self (h : '?' ∉ s.toList) : beforeQuery s = s := by
  rw [beforeQuery,takeWhile_eq_self_iff.mpr,String.ofList_toList]
  intro c hc
  have hne : c ≠ '?' := fun heq => h (heq ▸ hc)
  simpa using hne

theorem query_not_mem_beforeQuery (s : String) : '?' ∉ (beforeQuery s).toList := by
  intro h
  rw [beforeQuery,String.toList_ofList] at h
  simpa using mem_takeWhile_imp h

def Lowered (s : String) : Prop := ∀ c ∈ s.toList, c.toNat < 128 ∧ ¬ ('A' ≤ c ∧ c ≤ 'Z')

theorem Lower.lower_eq_self (py : Lower) (h : Lowered s) : py.lower s = s := by
  rw [py.ascii s fun c hc => (h c hc).1]
  have hmap : s.toList.map asciiLower = s.toList := by
    rw [map_congr_left (g := id),map_id]
    intro c hc
    rw [asciiLower,if_neg (h c hc).2]
    rfl
  rw [hmap,String.ofList_toList]

end PyText
