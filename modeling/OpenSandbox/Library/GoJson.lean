import Mathlib.Tactic

namespace GoJson

open List Option

inductive Value where
  | null
  | bool (b : Bool)
  | num (text : String)
  | str (s : String)
  | arr (vs : List Value)
  | obj (ms : List (String × Value))

def isWs (c : Char) : Bool := c = ' ' || c = '\t' || c = '\r' || c = '\n'

def skipWs (cs : List Char) : List Char := cs.dropWhile isWs

def hexDigit (c : Char) : Option Nat :=
  if '0' ≤ c ∧ c ≤ '9' then some (c.toNat - 48)
  else if 'a' ≤ c ∧ c ≤ 'f' then some (c.toNat - 87)
  else if 'A' ≤ c ∧ c ≤ 'F' then some (c.toNat - 55)
  else none

def getu4 (a b c d : Char) : Option Nat := do
  let a ← hexDigit a
  let b ← hexDigit b
  let c ← hexDigit c
  let d ← hexDigit d
  return ((a * 16 + b) * 16 + c) * 16 + d

inductive Piece where
  | rune (c : Char)
  | unit (code : Nat)

def replacementChar : Char := Char.ofNat 0xFFFD

def isHigh (code : Nat) : Bool := 0xD800 ≤ code && code < 0xDC00

def isLow (code : Nat) : Bool := 0xDC00 ≤ code && code < 0xE000

def joinSurrogates : List Piece → List Char
  | [] => []
  | .rune c :: ps => c :: joinSurrogates ps
  | .unit hi :: .unit lo :: ps =>
      if isHigh hi && isLow lo then
        Char.ofNat (0x10000 + (hi - 0xD800) * 0x400 + (lo - 0xDC00)) :: joinSurrogates ps
      else if isHigh hi || isLow hi then replacementChar :: joinSurrogates (.unit lo :: ps)
      else Char.ofNat hi :: joinSurrogates (.unit lo :: ps)
  | .unit code :: ps =>
      (if isHigh code || isLow code then replacementChar else Char.ofNat code) :: joinSurrogates ps

def unescape : Char → Option Char
  | '"' => some '"'
  | '\\' => some '\\'
  | '/' => some '/'
  | 'b' => some (Char.ofNat 8)
  | 'f' => some (Char.ofNat 12)
  | 'n' => some '\n'
  | 'r' => some '\r'
  | 't' => some '\t'
  | _ => none

def pieces : List Char → Option (List Piece × List Char)
  | [] => none
  | '"' :: cs => some ([], cs)
  | '\\' :: 'u' :: a :: b :: c :: d :: cs => do
      let code ← getu4 a b c d
      let out ← pieces cs
      return (.unit code :: out.1, out.2)
  | '\\' :: e :: cs => do
      let c ← unescape e
      let out ← pieces cs
      return (.rune c :: out.1, out.2)
  | c :: cs => do
      if c.toNat < 0x20 ∨ c = '\\' then none
      else
        let out ← pieces cs
        return (.rune c :: out.1, out.2)

def quoted (cs : List Char) : Option (String × List Char) :=
  (pieces cs).map fun out => (String.ofList (joinSurrogates out.1), out.2)

def isDigit (c : Char) : Bool := '0' ≤ c && c ≤ '9'

def exponent (acc : List Char) : List Char → Option (List Char × List Char)
  | e :: cs =>
      if e = 'e' ∨ e = 'E' then
        let sign := cs.take 1 |>.filter fun c => c = '+' || c = '-'
        let cs := cs.drop sign.length
        let ds := cs.takeWhile isDigit
        if ds = [] then none else some (acc ++ e :: sign ++ ds, cs.dropWhile isDigit)
      else some (acc, e :: cs)
  | [] => some (acc, [])

def fraction (acc : List Char) : List Char → Option (List Char × List Char)
  | '.' :: cs =>
      let ds := cs.takeWhile isDigit
      if ds = [] then none else exponent (acc ++ '.' :: ds) (cs.dropWhile isDigit)
  | cs => exponent acc cs

def number (cs : List Char) : Option (List Char × List Char) :=
  let sign := cs.take 1 |>.filter (· = '-')
  match cs.drop sign.length with
  | '0' :: cs => fraction (sign ++ ['0']) cs
  | c :: cs =>
      if isDigit c then fraction (sign ++ c :: cs.takeWhile isDigit) (cs.dropWhile isDigit)
      else none
  | [] => none

mutual

def value : Nat → List Char → Option (Value × List Char)
  | 0, _ => none
  | n + 1, cs =>
      match skipWs cs with
      | '"' :: cs => (quoted cs).map fun out => (.str out.1, out.2)
      | '[' :: cs =>
          match skipWs cs with
          | ']' :: cs => some (.arr [], cs)
          | _ => (elements n cs).map fun out => (.arr out.1, out.2)
      | '{' :: cs =>
          match skipWs cs with
          | '}' :: cs => some (.obj [], cs)
          | _ => (members n cs).map fun out => (.obj out.1, out.2)
      | 'n' :: 'u' :: 'l' :: 'l' :: cs => some (.null, cs)
      | 't' :: 'r' :: 'u' :: 'e' :: cs => some (.bool true, cs)
      | 'f' :: 'a' :: 'l' :: 's' :: 'e' :: cs => some (.bool false, cs)
      | cs => (number cs).map fun out => (.num (String.ofList out.1), out.2)

def elements : Nat → List Char → Option (List Value × List Char)
  | 0, _ => none
  | n + 1, cs => do
      let (v, cs) ← value n cs
      match skipWs cs with
      | ']' :: cs => some ([v], cs)
      | ',' :: cs => (elements n cs).map fun out => (v :: out.1, out.2)
      | _ => none

def members : Nat → List Char → Option (List (String × Value) × List Char)
  | 0, _ => none
  | n + 1, cs =>
      match skipWs cs with
      | '"' :: cs => do
          let (key, cs) ← quoted cs
          match skipWs cs with
          | ':' :: cs => do
              let (v, cs) ← value n cs
              match skipWs cs with
              | '}' :: cs => some ([(key, v)], cs)
              | ',' :: cs => (members n cs).map fun out => ((key, v) :: out.1, out.2)
              | _ => none
          | _ => none
      | _ => none

end

mutual

def Value.depth : Value → Nat
  | .arr vs => 1 + depthAll vs
  | .obj ms => 1 + depthMembers ms
  | _ => 0

def depthAll : List Value → Nat
  | [] => 0
  | v :: vs => max v.depth (depthAll vs)

def depthMembers : List (String × Value) → Nat
  | [] => 0
  | m :: ms => max m.2.depth (depthMembers ms)

end

def maxNestingDepth : Nat := 10000

def parse (text : String) : Option Value := do
  let (v, rest) ← value (2 * text.length + 1) text.toList
  if skipWs rest = [] ∧ v.depth ≤ maxNestingDepth then some v else none

def foldRune (c : Char) : Char :=
  if 'a' ≤ c ∧ c ≤ 'z' then Char.ofNat (c.toNat - 32)
  else if c.toNat = 0x17F then 'S'
  else if c.toNat = 0x212A then 'K'
  else c

def foldName (name : String) : List Char := name.toList.map foldRune

structure Field (α : Type) where
  name : String
  set : α → Value → Option α

def findField {α : Type} (fields : List (Field α)) (key : String) : Option (Field α) :=
  (fields.find? fun f => f.name = key) <|> fields.find? fun f => foldName f.name = foldName key

def intoStruct {α : Type} (fields : List (Field α)) (old : α) : Value → Option α
  | .null => some old
  | .obj ms =>
      ms.foldlM
        (fun a m =>
          match findField fields m.1 with
          | some f => f.set a m.2
          | none => some a)
        old
  | _ => none

def intoKnownStruct {α : Type} (fields : List (Field α)) (old : α) : Value → Option α
  | .obj ms =>
      if ms.all fun m => (findField fields m.1).isSome then intoStruct fields old (.obj ms)
      else none
  | v => intoStruct fields old v

def intoString (old : String) : Value → Option String
  | .null => some old
  | .str s => some s
  | _ => none

structure Slice (α : Type) where
  backing : List α
  len : Nat

def Slice.nil {α : Type} : Slice α := ⟨[],0⟩

def Slice.elems {α : Type} (s : Slice α) : List α := s.backing.take s.len

def intoElements {α : Type} (zero : α) (into : α → Value → Option α) :
    List α → List Value → Option (List α)
  | old, [] => some old
  | [], v :: vs => do
      let a ← into zero v
      let rest ← intoElements zero into [] vs
      return a :: rest
  | a :: old, v :: vs => do
      let a ← into a v
      let rest ← intoElements zero into old vs
      return a :: rest

def intoSlice {α : Type} (zero : α) (into : α → Value → Option α) (old : Slice α) :
    Value → Option (Slice α)
  | .null | .arr [] => some .nil
  | .arr vs => (intoElements zero into old.backing vs).map fun backing => ⟨backing,vs.length⟩
  | _ => none

structure Layout where
  newline : Nat → List Char
  gap : List Char
  newline_ws : ∀ d, ∀ c ∈ newline d, isWs c = true
  gap_ws : ∀ c ∈ gap, isWs c = true

def compact : Layout := ⟨fun _ => [],[],by simp,by simp⟩

def indented : Layout where
  newline d := '\n' :: List.replicate (2 * d) ' '
  gap := [' ']
  newline_ws := by
    intro d c hc
    rcases List.mem_cons.mp hc with rfl | hc
    · rfl
    · rw [List.eq_of_mem_replicate hc]
      rfl
  gap_ws := by simp [isWs]

def hexLower (n : Nat) : Char := if n < 10 then Char.ofNat (48 + n) else Char.ofNat (87 + n)

def escapeCode (n : Nat) : List Char :=
  ['\\','u',hexLower (n / 4096 % 16),hexLower (n / 256 % 16),hexLower (n / 16 % 16),
    hexLower (n % 16)]

def escapeRune (c : Char) : List Char :=
  if c = '"' ∨ c = '\\' then ['\\',c]
  else if c.toNat = 8 then ['\\','b']
  else if c.toNat = 12 then ['\\','f']
  else if c = '\n' then ['\\','n']
  else if c = '\r' then ['\\','r']
  else if c = '\t' then ['\\','t']
  else if c.toNat < 0x20 ∨ c = '<' ∨ c = '>' ∨ c = '&' ∨ c.toNat = 0x2028 ∨ c.toNat = 0x2029 then
    escapeCode c.toNat
  else [c]

def quote (s : String) : List Char := '"' :: s.toList.flatMap escapeRune ++ ['"']

def separator {α : Type} : List α → List Char
  | [] => []
  | _ :: _ => [',']

def Layout.closing {α : Type} (l : Layout) (d : Nat) : List α → List Char
  | [] => []
  | _ :: _ => l.newline d

mutual

def render (l : Layout) (d : Nat) : Value → List Char
  | .null => ['n','u','l','l']
  | .bool true => ['t','r','u','e']
  | .bool false => ['f','a','l','s','e']
  | .num text => text.toList
  | .str s => quote s
  | .arr vs => '[' :: renderElements l (d + 1) vs ++ l.closing d vs ++ [']']
  | .obj ms => '{' :: renderMembers l (d + 1) ms ++ l.closing d ms ++ ['}']

def renderElements (l : Layout) (d : Nat) : List Value → List Char
  | [] => []
  | v :: vs => l.newline d ++ render l d v ++ separator vs ++ renderElements l d vs

def renderMembers (l : Layout) (d : Nat) : List (String × Value) → List Char
  | [] => []
  | (k, v) :: ms =>
      l.newline d ++ quote k ++ ':' :: l.gap ++ render l d v ++ separator ms ++
        renderMembers l d ms

end

def marshal (v : Value) : String := String.ofList (render compact 0 v)

variable {ws : List Char}

theorem skipWs_append {cs : List Char} (h : ∀ c ∈ ws, isWs c = true) :
    skipWs (ws ++ cs) = skipWs cs := by
  induction ws with
  | nil => rfl
  | cons c ws ih =>
    rw [cons_append,skipWs,dropWhile_cons,if_pos (h c (by simp))]
    exact ih fun x hx => h x (by simp [hx])

theorem skipWs_cons {c : Char} (h : isWs c = false) (cs : List Char) :
    skipWs (c :: cs) = c :: cs := by
  rw [skipWs,dropWhile_cons,if_neg (by simp [h])]

theorem hexDigit_hexLower : ∀ n < 16, hexDigit (hexLower n) = some n := by decide

theorem getu4_escapeCode {n : Nat} (h : n < 65536) :
    getu4 (hexLower (n / 4096 % 16)) (hexLower (n / 256 % 16)) (hexLower (n / 16 % 16))
      (hexLower (n % 16)) = some n := by
  have hd (k : Nat) : hexDigit (hexLower (k % 16)) = some (k % 16) :=
    hexDigit_hexLower _ (Nat.mod_lt _ (by decide))
  have hsum : ((n / 4096 % 16 * 16 + n / 256 % 16) * 16 + n / 16 % 16) * 16 + n % 16 = n := by
    omega
  simp [getu4,hd,hsum]

def Piece.char : Piece → Char
  | .rune c => c
  | .unit code => Char.ofNat code

def Piece.Scalar : Piece → Prop
  | .rune _ => True
  | .unit code => isHigh code = false ∧ isLow code = false

theorem joinSurrogates_cons {p : Piece} (h : p.Scalar) (ps : List Piece) :
    joinSurrogates (p :: ps) = p.char :: joinSurrogates ps := by
  cases p with
  | rune c => rfl
  | unit code =>
    obtain ⟨hhi,hlo⟩ := h
    match ps with
    | [] | .rune c :: ps | .unit lo :: ps => simp [joinSurrogates,hhi,hlo,Piece.char]

theorem joinSurrogates_scalar {ps : List Piece} (h : ∀ p ∈ ps, p.Scalar) :
    joinSurrogates ps = ps.map Piece.char := by
  induction ps with
  | nil => rfl
  | cons p ps ih =>
    rw [joinSurrogates_cons (h p (by simp)),ih fun q hq => h q (by simp [hq]),map_cons]

theorem pieces_rune {c : Char} (hq : c ≠ '"') (hb : c ≠ '\\') (hc : ¬ c.toNat < 0x20)
    (cs : List Char) :
    pieces (c :: cs) = (pieces cs).map fun out => (.rune c :: out.1, out.2) := by
  rw [pieces.eq_def]
  split
  · next h => cases h
  · next h =>
    cases h
    exact absurd rfl hq
  · next h =>
    cases h
    exact absurd rfl hb
  · next h =>
    cases h
    exact absurd rfl hb
  next h =>
  cases h
  rw [if_neg (by simp [hc,hb])]
  cases pieces cs <;> rfl

theorem pieces_escape {e c : Char} (he : e ≠ 'u') (h : unescape e = some c) (cs : List Char) :
    pieces ('\\' :: e :: cs) = (pieces cs).map fun out => (.rune c :: out.1, out.2) := by
  rw [pieces.eq_def]
  split
  · next heq => cases heq
  · next heq => cases heq
  · next heq =>
    cases heq
    exact absurd rfl he
  · next heq =>
    cases heq
    rw [h]
    cases pieces cs <;> rfl
  · next hno heq =>
    cases heq
    exact (hno _ _ rfl rfl).elim

theorem pieces_escapeCode {n : Nat} (h : n < 65536) (cs : List Char) :
    pieces (escapeCode n ++ cs) = (pieces cs).map fun out => (.unit n :: out.1, out.2) := by
  simp only [escapeCode,cons_append,nil_append,pieces,getu4_escapeCode h]
  cases pieces cs <;> rfl

theorem scalar_toNat (c : Char) : (Piece.unit c.toNat).Scalar := by
  have h : c.toNat < 0xD800 ∨ 0xDFFF < c.toNat ∧ c.toNat < 0x110000 := c.valid
  simp only [Piece.Scalar,isHigh,isLow,Bool.and_eq_false_iff,decide_eq_false_iff_not]
  omega

theorem pieces_escapeRune (c : Char) (cs : List Char) : ∃ p : Piece, p.Scalar ∧ p.char = c ∧
      pieces (escapeRune c ++ cs) = (pieces cs).map fun out => (p :: out.1, out.2) := by
  have hnum {n : Nat} (h : c.toNat = n) : c = Char.ofNat n := by
    rw [← h,Char.ofNat_toNat]
  unfold escapeRune
  split
  · next h =>
    refine ⟨.rune c,trivial,rfl,?_⟩
    rcases h with rfl | rfl <;> exact pieces_escape (by decide) rfl cs
  split
  · next h => exact ⟨.rune c,trivial,rfl,hnum h ▸ pieces_escape (by decide) rfl cs⟩
  split
  · next h => exact ⟨.rune c,trivial,rfl,hnum h ▸ pieces_escape (by decide) rfl cs⟩
  split
  · next h => exact ⟨.rune c,trivial,rfl,h ▸ pieces_escape (by decide) rfl cs⟩
  split
  · next h => exact ⟨.rune c,trivial,rfl,h ▸ pieces_escape (by decide) rfl cs⟩
  split
  · next h => exact ⟨.rune c,trivial,rfl,h ▸ pieces_escape (by decide) rfl cs⟩
  split
  · next h =>
    refine ⟨.unit c.toNat,scalar_toNat c,Char.ofNat_toNat c,pieces_escapeCode ?_ cs⟩
    rcases h with h | rfl | rfl | rfl | h | h
    · omega
    · decide
    · decide
    · decide
    · omega
    · omega
  · next hq _ _ _ _ _ hc =>
    simp only [not_or] at hq hc
    exact ⟨.rune c,trivial,rfl,pieces_rune hq.1 hq.2 hc.1 cs⟩

theorem pieces_escaped (s cs : List Char) :
    ∃ ps : List Piece, (∀ p ∈ ps, p.Scalar) ∧ ps.map Piece.char = s ∧
      pieces (s.flatMap escapeRune ++ '"' :: cs) = some (ps, cs) := by
  induction s with
  | nil => exact ⟨[],by simp,rfl,rfl⟩
  | cons c s ih =>
    obtain ⟨ps,hps,hmap,hrest⟩ := ih
    obtain ⟨p,hp,hchar,hone⟩ := pieces_escapeRune c (s.flatMap escapeRune ++ '"' :: cs)
    refine ⟨p :: ps,forall_mem_cons.mpr ⟨hp,hps⟩,?_,?_⟩
    · rw [map_cons,hchar,hmap]
    · rw [flatMap_cons,append_assoc,hone,hrest]
      rfl

theorem quoted_quote (s : String) (cs : List Char) :
    quoted (s.toList.flatMap escapeRune ++ '"' :: cs) = some (s, cs) := by
  obtain ⟨ps,hps,hmap,hpieces⟩ := pieces_escaped s.toList cs
  rw [quoted,hpieces,map_some,joinSurrogates_scalar hps,hmap,String.ofList_toList]

mutual

def Value.Textual : Value → Prop
  | .num _ => False
  | .arr vs => TextualAll vs
  | .obj ms => TextualMembers ms
  | _ => True

def TextualAll : List Value → Prop
  | [] => True
  | v :: vs => v.Textual ∧ TextualAll vs

def TextualMembers : List (String × Value) → Prop
  | [] => True
  | (_, v) :: ms => v.Textual ∧ TextualMembers ms

end

mutual

def Value.size : Value → Nat
  | .arr vs => 1 + sizeAll vs
  | .obj ms => 1 + sizeMembers ms
  | _ => 1

def sizeAll : List Value → Nat
  | [] => 0
  | v :: vs => 1 + v.size + sizeAll vs

def sizeMembers : List (String × Value) → Nat
  | [] => 0
  | (_, v) :: ms => 1 + v.size + sizeMembers ms

end

theorem value_skipWs (h : ∀ c ∈ ws, isWs c = true) (n : Nat) (cs : List Char) :
    value n (ws ++ cs) = value n cs := by
  cases n with
  | zero => rfl
  | succ n => rw [value,value,skipWs_append h]

theorem elements_skipWs (h : ∀ c ∈ ws, isWs c = true) (n : Nat) (cs : List Char) :
    elements n (ws ++ cs) = elements n cs := by
  cases n with
  | zero => rfl
  | succ n => rw [elements,elements,value_skipWs h]

theorem render_head (l : Layout) (d : Nat) {v : Value} (h : v.Textual) :
    ∃ c cs, render l d v = c :: cs ∧ isWs c = false ∧ c ≠ ']' := by
  cases v with
  | null => exact ⟨'n',_,rfl,rfl,by decide⟩
  | bool b => cases b <;> exact ⟨_,_,rfl,rfl,by decide⟩
  | num text => exact h.elim
  | str s => exact ⟨'"',_,rfl,rfl,by decide⟩
  | arr vs => exact ⟨'[',_,rfl,rfl,by decide⟩
  | obj ms => exact ⟨'{',_,rfl,rfl,by decide⟩

theorem skipWs_renderElements (l : Layout) (d : Nat) {v : Value} (h : v.Textual)
    (vs : List Value) (cs : List Char) :
    ∃ c rest, skipWs (renderElements l d (v :: vs) ++ cs) = c :: rest ∧ c ≠ ']' := by
  obtain ⟨c,rest,hr,hws,hc⟩ := render_head l d h
  simp only [renderElements,hr,List.append_assoc]
  rw [skipWs_append (l.newline_ws d),List.cons_append,skipWs_cons hws]
  exact ⟨c,_,rfl,hc⟩

theorem value_quote (n : Nat) (s : String) (rest : List Char) :
    value (n + 1) (quote s ++ rest) = some (.str s, rest) := by
  have hq : quote s ++ rest = '"' :: (s.toList.flatMap escapeRune ++ '"' :: rest) := by
    simp [quote]
  rw [hq,value,skipWs_cons rfl]
  simp only
  rw [quoted_quote]
  rfl

theorem members_cons (l : Layout) (n d : Nat) (k : String) (v : Value)
    (ms : List (String × Value)) (cs : List Char) :
    members (n + 1) (renderMembers l d ((k, v) :: ms) ++ cs) =
      (value n (render l d v ++ (separator ms ++ renderMembers l d ms ++ cs))).bind fun out =>
        match skipWs out.2 with
        | '}' :: cs => some ([(k, out.1)], cs)
        | ',' :: cs => (members n cs).map fun rest => ((k, out.1) :: rest.1, rest.2)
        | _ => none := by
  have hr : renderMembers l d ((k, v) :: ms) ++ cs =
      l.newline d ++ ('"' :: (k.toList.flatMap escapeRune ++ '"' :: ':' ::
        (l.gap ++ (render l d v ++ (separator ms ++ renderMembers l d ms ++ cs))))) := by
    simp [renderMembers,quote]
  rw [hr,members,skipWs_append (l.newline_ws d),skipWs_cons rfl]
  simp only [quoted_quote,Option.bind_eq_bind,Option.bind_some]
  rw [skipWs_cons rfl]
  simp only [value_skipWs l.gap_ws]

mutual

theorem value_render (l : Layout) (d : Nat) : ∀ (v : Value) (n : Nat) (rest : List Char),
    v.Textual → v.size ≤ n → value n (render l d v ++ rest) = some (v, rest)
  | v, 0, _, _, hn => by cases v <;> simp [Value.size] at hn
  | .null, n + 1, rest, _, _ | .bool true, n + 1, rest, _, _ | .bool false, n + 1, rest, _, _ => rfl
  | .num text, n + 1, rest, h, _ => h.elim
  | .str s, n + 1, rest, _, _ => value_quote n s rest
  | .arr [], n + 1, rest, _, _ => rfl
  | .arr (v :: vs), n + 1, rest, h, hn => by
    have hr : render l d (.arr (v :: vs)) ++ rest =
        '[' :: (renderElements l (d + 1) (v :: vs) ++ (l.newline d ++ ']' :: rest)) := by
      simp [render,Layout.closing]
    obtain ⟨c,cs,hc,hne⟩ := skipWs_renderElements l (d + 1) h.1 vs (l.newline d ++ ']' :: rest)
    have hn : sizeAll (v :: vs) ≤ n := by
      simp only [Value.size] at hn
      omega
    rw [hr,value,skipWs_cons rfl]
    simp only
    split
    · next heq =>
      rw [hc] at heq
      cases heq
      exact absurd rfl hne
    · rw [elements_render l (d + 1) v vs n _ rest h hn (l.newline_ws d)]
      rfl
  | .obj [], n + 1, rest, _, _ => rfl
  | .obj ((k, v) :: ms), n + 1, rest, h, hn => by
    have hr : render l d (.obj ((k, v) :: ms)) ++ rest =
        '{' :: (renderMembers l (d + 1) ((k, v) :: ms) ++ (l.newline d ++ '}' :: rest)) := by
      simp [render,Layout.closing]
    have hhead : ∃ cs, skipWs (renderMembers l (d + 1) ((k, v) :: ms) ++
        (l.newline d ++ '}' :: rest)) = '"' :: cs := by
      simp only [renderMembers,append_assoc]
      rw [skipWs_append (l.newline_ws _),quote,cons_append,cons_append,skipWs_cons rfl]
      exact ⟨_,rfl⟩
    have hn : sizeMembers ((k, v) :: ms) ≤ n := by
      simp only [Value.size] at hn
      omega
    obtain ⟨cs,hcs⟩ := hhead
    rw [hr,value,skipWs_cons rfl]
    simp only
    split
    · next heq =>
      rw [hcs] at heq
      cases heq
    · rw [members_render l (d + 1) k v ms n _ rest h hn (l.newline_ws d)]
      rfl

theorem elements_render (l : Layout) (d : Nat) :
    ∀ (v : Value) (vs : List Value) (n : Nat) (ws rest : List Char),
      TextualAll (v :: vs) → sizeAll (v :: vs) ≤ n → (∀ c ∈ ws, isWs c = true) →
        elements n (renderElements l d (v :: vs) ++ (ws ++ ']' :: rest)) = some (v :: vs, rest)
  | v, vs, 0, _, _, _, hn, _ => by
    simp only [sizeAll] at hn
    omega
  | v, [], n + 1, ws, rest, h, hn, hws => by
    have hr : renderElements l d [v] ++ (ws ++ ']' :: rest) =
        l.newline d ++ (render l d v ++ (ws ++ ']' :: rest)) := by
      simp [renderElements,separator]
    have hn : v.size ≤ n := by
      simp only [sizeAll] at hn
      omega
    rw [hr,elements_skipWs (l.newline_ws d),elements,value_render l d v n _ h.1 hn]
    simp only [Option.bind_eq_bind,Option.bind_some]
    rw [skipWs_append hws,skipWs_cons rfl]
    rfl
  | v, w :: vs, n + 1, ws, rest, h, hn, hws => by
    have hr : renderElements l d (v :: w :: vs) ++ (ws ++ ']' :: rest) =
        l.newline d ++ (render l d v ++
          ',' :: (renderElements l d (w :: vs) ++ (ws ++ ']' :: rest))) := by
      simp [renderElements,separator]
    have hn : v.size ≤ n ∧ sizeAll (w :: vs) ≤ n := by
      rw [sizeAll] at hn
      omega
    rw [hr,elements_skipWs (l.newline_ws d),elements,value_render l d v n _ h.1 hn.1]
    simp only [Option.bind_eq_bind,Option.bind_some]
    rw [skipWs_cons rfl]
    simp only
    rw [elements_render l d w vs n ws rest h.2 hn.2 hws]
    rfl

theorem members_render (l : Layout) (d : Nat) :
    ∀ (k : String) (v : Value) (ms : List (String × Value)) (n : Nat) (ws rest : List Char),
      TextualMembers ((k, v) :: ms) → sizeMembers ((k, v) :: ms) ≤ n → (∀ c ∈ ws, isWs c = true) →
          members n (renderMembers l d ((k, v) :: ms) ++ (ws ++ '}' :: rest)) =
            some ((k, v) :: ms, rest)
  | k, v, ms, 0, _, _, _, hn, _ => by
    simp only [sizeMembers] at hn
    omega
  | k, v, [], n + 1, ws, rest, h, hn, hws => by
    have hn : v.size ≤ n := by
      simp only [sizeMembers] at hn
      omega
    rw [members_cons,value_render l d v n _ h.1 hn,Option.bind_some]
    simp only [separator,renderMembers,List.nil_append]
    rw [skipWs_append hws,skipWs_cons rfl]
    rfl
  | k, v, (k', w) :: ms, n + 1, ws, rest, h, hn, hws => by
    have hn : v.size ≤ n ∧ sizeMembers ((k', w) :: ms) ≤ n := by
      rw [sizeMembers] at hn
      omega
    rw [members_cons,value_render l d v n _ h.1 hn.1,Option.bind_some]
    simp only [separator,List.cons_append,List.nil_append]
    rw [skipWs_cons rfl]
    simp only
    rw [members_render l d k' w ms n ws rest h.2 hn.2 hws]
    rfl

end

mutual

theorem size_le_render (l : Layout) (d : Nat) : ∀ v : Value, v.Textual →
    v.size ≤ (render l d v).length
  | .null, _ | .bool true, _ | .bool false, _ => by simp [Value.size,render]
  | .num _, h => h.elim
  | .str s, _ => by simp [Value.size,render,quote]
  | .arr vs, h => by
    have hs := sizeAll_le_render l (d + 1) vs h
    simp only [Value.size,render,length_cons,length_append]
    cases vs <;> simp only [Layout.closing,length_nil] <;> omega
  | .obj ms, h => by
    have hs := sizeMembers_le_render l (d + 1) ms h
    simp only [Value.size,render,length_cons,length_append]
    omega

theorem sizeAll_le_render (l : Layout) (d : Nat) : ∀ vs : List Value, TextualAll vs →
    sizeAll vs ≤ 1 + (renderElements l d vs).length
  | [], _ => by simp [sizeAll]
  | v :: vs, h => by
    have hv := size_le_render l d v h.1
    have hs := sizeAll_le_render l d vs h.2
    cases vs with
    | nil =>
      simp only [sizeAll,renderElements,separator,length_append,length_nil]
      omega
    | cons w vs =>
      rw [sizeAll,renderElements]
      simp only [separator,length_append,length_cons,length_nil]
      omega

theorem sizeMembers_le_render (l : Layout) (d : Nat) : ∀ ms : List (String × Value),
    TextualMembers ms → sizeMembers ms ≤ (renderMembers l d ms).length
  | [], _ => by simp [sizeMembers]
  | (k, v) :: ms, h => by
    have hv := size_le_render l d v h.1
    have hs := sizeMembers_le_render l d ms h.2
    simp only [sizeMembers,renderMembers,length_append,length_cons]
    omega

end

theorem parse_render (l : Layout) {v : Value} (h : v.Textual) (hd : v.depth ≤ maxNestingDepth)
    (hws : ∀ c ∈ ws, isWs c = true) : parse (String.ofList (render l 0 v ++ ws)) = some v := by
  have hsize := size_le_render l 0 v h
  have hskip : skipWs ws = [] := by
    rw [← append_nil ws,skipWs_append hws]
    rfl
  rw [parse,String.toList_ofList,value_render l 0 v _ ws h]
  · simp [hskip,hd]
  · rw [String.length_ofList,length_append]
    omega

theorem intoElements_nil {α : Type} {zero : α} {into : α → Value → Option α} {f : α → Value}
    {xs : List α} (h : ∀ a ∈ xs, into zero (f a) = some a) :
    intoElements zero into [] (xs.map f) = some xs := by
  induction xs with
  | nil => rfl
  | cons a xs ih =>
    rw [map_cons,intoElements,h a (by simp),ih fun b hb => h b (by simp [hb])]
    rfl

theorem intoSlice_map {α : Type} {zero : α} {into : α → Value → Option α} {f : α → Value}
    {xs : List α} (h : ∀ a ∈ xs, into zero (f a) = some a) :
    intoSlice zero into .nil (.arr (xs.map f)) = some ⟨xs,xs.length⟩ := by
  cases xs with
  | nil => rfl
  | cons a xs =>
    have helems := intoElements_nil h
    rw [map_cons] at helems ⊢
    rw [intoSlice,Slice.nil,helems]
    · simp
    · simp

end GoJson
