import Mathlib.Data.List.Infix

namespace Scan

open List Option

variable {α β : Type} (key : β → List α) (pick : List α → Option β)

def scan : Nat → List α → List (α ⊕ β)
  | _, [] => []
  | skip + 1, _ :: cs => scan skip cs
  | 0, c :: cs =>
      match pick (c :: cs) with
      | some b => .inr b :: scan ((key b).length - 1) cs
      | none => .inl c :: scan 0 cs

def join (f : β → List α) (pieces : List (α ⊕ β)) : List α :=
  pieces.flatMap (Sum.elim (fun c => [c]) f)

def Chosen : List (α ⊕ β) → Prop
  | [] => True
  | piece :: rest => pick (join key (piece :: rest)) = piece.getRight? ∧ Chosen rest

variable {key pick}

theorem scan_chosen (hpick : ∀ s b, pick s = some b → key b ≠ [] ∧ key b <+: s) (skip : Nat)
    (s : List α) :
    Chosen key pick (scan key pick skip s) ∧ join key (scan key pick skip s) = s.drop skip := by
  induction s generalizing skip with
  | nil => simp [scan,join,Chosen]
  | cons c cs ih =>
    cases skip with
    | succ skip => exact ih skip
    | zero =>
      rw [scan]
      split
      · next b hb =>
        obtain ⟨hne,t,ht⟩ := hpick _ _ hb
        obtain ⟨d,k,hk⟩ := exists_cons_of_ne_nil hne
        obtain ⟨hchosen,hjoin⟩ := ih ((key b).length - 1)
        have hcs : cs = k ++ t := by simp_all
        rw [show (key b).length - 1 = k.length by simp [hk]] at hchosen hjoin ⊢
        rw [hcs,drop_left] at hjoin
        have hall : key b ++ join key (scan key pick k.length cs) = c :: cs := by
          rw [hcs,hjoin,ht,hcs]
        exact ⟨⟨(congrArg pick hall).trans hb,hchosen⟩,hall⟩
      · next hnone =>
        obtain ⟨hchosen,hjoin⟩ := ih 0
        have hall : c :: join key (scan key pick 0 cs) = c :: cs := by rw [hjoin]; rfl
        exact ⟨⟨(congrArg pick hall).trans hnone,hchosen⟩,hall⟩

theorem Chosen.picked {piece : α ⊕ β} {pieces : List (α ⊕ β)} (h : Chosen key pick pieces)
    (hp : piece ∈ pieces) : ∃ s, pick s = piece.getRight? := by
  induction hp with
  | head => exact ⟨_,h.1⟩
  | tail _ _ ih => exact ih h.2

theorem Chosen.kept {w : List α} {pieces : List (α ⊕ β)} (h : Chosen key pick pieces)
    (hw : w.map .inl <:+: pieces) (hne : w ≠ []) :
    w <:+: join key pieces ∧ ∃ v, pick (w ++ v) = none := by
  obtain ⟨front,rest,rfl⟩ := hw
  have hjoin : join key (w.map .inl ++ rest) = w ++ join key rest := by
    simp [join,flatMap_map]
  refine ⟨⟨join key front,join key rest,?_⟩,join key rest,?_⟩
  · rw [append_assoc,← hjoin]
    simp [join]
  · rw [← hjoin]
    induction front with
    | nil =>
      obtain ⟨c,w,rfl⟩ := exists_cons_of_ne_nil hne
      exact h.1
    | cons piece front ih => exact ih h.2

theorem join_congr {γ : Type} {f : β → γ} {k v : γ → List α} {pick' : List α → Option β}
    (h : ∀ s, (pick s).map f = (pick' s).map f) (skip : Nat) (s : List α) :
    join (v ∘ f) (scan (k ∘ f) pick skip s) = join (v ∘ f) (scan (k ∘ f) pick' skip s) := by
  induction s generalizing skip with
  | nil => simp only [scan]
  | cons c cs ih =>
    cases skip with
    | succ skip => exact ih skip
    | zero =>
      have hc := h (c :: cs)
      rw [scan,scan]
      cases hpick : pick (c :: cs) <;> cases hpick' : pick' (c :: cs) <;>
        rw [hpick,hpick'] at hc <;> simp only [map_none,map_some,reduceCtorEq,some.injEq] at hc
      · exact congrArg (c :: ·) (ih 0)
      · simp only [join,flatMap_cons,Sum.elim_inr,Function.comp_apply,hc] at ih ⊢
        rw [ih]

section Separated

variable {sep : α} {u v w : List α}

theorem prefix_of_separated (hsep : sep ∉ w) (h : w <+: u ++ sep :: v) : w <+: u := by
  obtain ⟨t,ht⟩ := h
  rcases append_eq_append_iff.mp ht with ⟨a,hu,-⟩ | ⟨a,rfl,ha⟩
  · exact ⟨a,hu.symm⟩
  · cases a with
    | nil => simp
    | cons d a => simp_all

theorem infix_of_separated (hsep : sep ∉ w) (h : w <:+: u ++ sep :: v) : w <:+: u ∨ w <:+: v := by
  induction u with
  | nil =>
    rcases infix_cons_iff.mp h with h | h
    · exact .inl (prefix_of_separated (u := []) hsep h).isInfix
    · exact .inr h
  | cons x u ih =>
    rcases infix_cons_iff.mp h with h | h
    · exact .inl (prefix_of_separated (u := x :: u) hsep h).isInfix
    · exact (ih h).imp_left fun hw => hw.trans (suffix_cons x u).isInfix

variable {pieces : List (α ⊕ β)} {left right : α} {body : List α}

theorem prefix_kept (hleft : left ∉ w) (h : w <+: join (fun _ => left :: body) pieces) :
    w.map .inl <+: pieces := by
  induction pieces generalizing w with
  | nil => simp_all [join]
  | cons piece pieces ih =>
    cases w with
    | nil => simp
    | cons c w =>
      cases piece with
      | inl d =>
        obtain ⟨rfl,hrest⟩ := cons_prefix_cons.mp h
        exact cons_prefix_cons.mpr ⟨rfl,ih (fun hw => hleft (.tail _ hw)) hrest⟩
      | inr b =>
        obtain ⟨rfl,-⟩ := cons_prefix_cons.mp h
        exact absurd mem_cons_self hleft

theorem infix_kept (hleft : left ∉ w) (hright : right ∉ w) (hbody : ¬ w <:+: body)
    (h : w <:+: join (fun _ => left :: (body ++ [right])) pieces) : w.map .inl <:+: pieces := by
  induction pieces with
  | nil => simp_all [join]
  | cons piece pieces ih =>
    cases piece with
    | inl c =>
      rcases infix_cons_iff.mp h with hpre | hrest
      · have hkept : w.map .inl <+: .inl c :: pieces := prefix_kept hleft hpre
        exact hkept.isInfix
      · exact (ih hrest).trans (suffix_cons _ _).isInfix
    | inr b =>
      have hall : w <:+: [] ++ left :: (body ++ right ::
          join (fun _ => left :: (body ++ [right])) pieces) := by
        simpa [join] using h
      rcases infix_of_separated hleft hall with hnil | hrest
      · exact absurd (hnil.trans nil_infix) hbody
      · exact (ih ((infix_of_separated hright hrest).resolve_left hbody)).trans
          (suffix_cons _ _).isInfix

end Separated

end Scan
