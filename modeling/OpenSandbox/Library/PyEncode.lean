import OpenSandbox.Library.GoJson
import OpenSandbox.Library.PyText

namespace PyText

open List

def isSpace (c : Char) : Bool :=
  let n := c.toNat
  (9 ≤ n && n ≤ 13) || (28 ≤ n && n ≤ 32) || n = 0x85 || n = 0xA0 || n = 0x1680 ||
    (0x2000 ≤ n && n ≤ 0x200A) || n = 0x2028 || n = 0x2029 || n = 0x202F || n = 0x205F ||
    n = 0x3000

def strip (s : String) : String :=
  String.ofList ((s.toList.dropWhile isSpace).rdropWhile isSpace)

def beforeSemicolon (s : String) : String := String.ofList (s.toList.takeWhile (· ≠ ';'))

def alwaysSafe (b : UInt8) : Bool :=
  let n := b.toNat
  (65 ≤ n && n ≤ 90) || (97 ≤ n && n ≤ 122) || (48 ≤ n && n ≤ 57) || n = 95 || n = 46 ||
    n = 45 || n = 126

def hexUpper (n : Nat) : Char := if n < 10 then Char.ofNat (48 + n) else Char.ofNat (55 + n)

def quoteByte (safe : List UInt8) (b : UInt8) : List Char :=
  if alwaysSafe b || b ∈ safe then [Char.ofNat b.toNat]
  else ['%',hexUpper (b.toNat / 16),hexUpper (b.toNat % 16)]

def quoteWith (safe : List UInt8) (s : String) : List Char :=
  s.toList.flatMap fun c => (String.utf8EncodeChar c).flatMap (quoteByte safe)

def quote (s : String) : String := String.ofList (quoteWith [] s)

def spaceToPlus (c : Char) : Char := if c = ' ' then '+' else c

def quotePlus (s : String) : String :=
  if ' ' ∈ s.toList then String.ofList ((quoteWith [32] s).map spaceToPlus) else quote s

def dumpsRune (c : Char) : List Char :=
  if c = '\\' then ['\\','\\']
  else if c = '"' then ['\\','"']
  else if ' ' ≤ c ∧ c ≤ '~' then [c]
  else if c = '\n' then ['\\','n']
  else if c = '\r' then ['\\','r']
  else if c = '\t' then ['\\','t']
  else if c.toNat = 12 then ['\\','f']
  else if c.toNat = 8 then ['\\','b']
  else if c.toNat < 0x10000 then GoJson.escapeCode c.toNat
  else
    let v := c.toNat - 0x10000
    GoJson.escapeCode (0xD800 + v / 1024) ++ GoJson.escapeCode (0xDC00 + v % 1024)

def dumpsContent (s : String) : String := String.ofList (s.toList.flatMap dumpsRune)

theorem eq_of_space_eq_ofNat {n : Nat} (hn : n < 256) (h : (32 : UInt8) = UInt8.ofNat n) :
    n = 32 := by
  have hnat := congrArg UInt8.toNat h
  rw [UInt8.toNat_ofNat',Nat.mod_eq_of_lt hn] at hnat
  exact hnat.symm

theorem space_mem_utf8EncodeChar {c : Char} (h : 32 ∈ String.utf8EncodeChar c) : c = ' ' := by
  rw [String.utf8EncodeChar.eq_1] at h
  have hcode : c.val.toNat = 32 := by
    have hno {n : Nat} (hlow : 128 ≤ n) (hhigh : n < 256) : (32 : UInt8) ≠ UInt8.ofNat n :=
      fun heq => by
        have := eq_of_space_eq_ofNat hhigh heq
        omega
    split_ifs at h with h1 h2 h3
    · exact eq_of_space_eq_ofNat (by omega) (mem_singleton.mp h)
    · simp only [mem_cons,not_mem_nil,or_false] at h
      rcases h with h | h
      all_goals exact absurd h (hno (by omega) (by omega))
    · simp only [mem_cons,not_mem_nil,or_false] at h
      rcases h with h | h | h
      all_goals exact absurd h (hno (by omega) (by omega))
    · simp only [mem_cons,not_mem_nil,or_false] at h
      rcases h with h | h | h | h
      all_goals exact absurd h (hno (by omega) (by omega))
  exact Char.ext (UInt32.toNat.inj hcode)

end PyText
