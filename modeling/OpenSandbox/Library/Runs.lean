import Mathlib.Tactic

namespace Runs

variable {σ α : Type}

inductive Reach (next : σ → α → σ → Prop) (ok : σ → α → Prop) (init : σ → Prop) : σ → Prop
  | start {s : σ} : init s → Reach next ok init s
  | step {s t : σ} {a : α} : Reach next ok init s → ok s a → next s a t → Reach next ok init t

theorem Reach.invariant {next : σ → α → σ → Prop} {ok : σ → α → Prop} {init Inv : σ → Prop}
    (hinit : ∀ s, init s → Inv s)
    (hstep : ∀ s a t, Inv s → ok s a → next s a t → Inv t)
    {s : σ} (h : Reach next ok init s) : Inv s := by
  induction h with
  | start hs => exact hinit _ hs
  | step _ hok hn ih => exact hstep _ _ _ ih hok hn

theorem Reach.mono {next next' : σ → α → σ → Prop} {ok ok' : σ → α → Prop} {init : σ → Prop}
    (hok : ∀ s a, ok s a → ok' s a) (hnext : ∀ s a t, next s a t → next' s a t) {s : σ}
    (h : Reach next ok init s) : Reach next' ok' init s := by
  induction h with
  | start hs => exact .start hs
  | step _ ha hn ih => exact .step ih (hok _ _ ha) (hnext _ _ _ hn)

def Always (next : σ → α → σ → Prop) (P : σ → Prop) : σ → List α → Prop
  | s, [] => P s
  | s, a :: as => P s ∧ ∀ t, next s a t → Always next P t as

def Guarded (next : σ → α → σ → Prop) (ok : σ → α → Prop) : σ → List α → Prop
  | _, [] => True
  | s, a :: as => ∀ t, next s a t → ok s a ∧ Guarded next ok t as

variable {next : σ → α → σ → Prop} {P : σ → Prop} {s : σ} {as : List α}

theorem Always.head (h : Always next P s as) : P s := by
  cases as with
  | nil => exact h
  | cons a as => exact h.1

variable {ok : σ → α → Prop} {Inv : σ → Prop}

theorem always_of_guarded (hP : ∀ s, Inv s → P s)
    (keep : ∀ s a t, Inv s → ok s a → next s a t → Inv t) (hs : Inv s) (h : Guarded next ok s as) :
    Always next P s as := by
  induction as generalizing s with
  | nil => exact hP s hs
  | cons a as ih =>
    refine ⟨hP s hs,fun t ht => ?_⟩
    obtain ⟨hok,hrest⟩ := h t ht
    exact ih (keep s a t hs hok ht) hrest

theorem guarded_of_always (keep : ∀ s a t, Inv s → ok s a → next s a t → Inv t)
    (sharp : ∀ s a t, Inv s → next s a t → ¬ ok s a → ∃ t', next s a t' ∧ ¬ P t') (hs : Inv s)
    (h : Always next P s as) : Guarded next ok s as := by
  induction as generalizing s with
  | nil => trivial
  | cons a as ih =>
    intro t ht
    have hok : ok s a := by
      by_contra hno
      obtain ⟨t',ht',hbad⟩ := sharp s a t hs ht hno
      exact hbad (h.2 t' ht').head
    exact ⟨hok,ih (keep s a t hs hok ht) (h.2 t ht)⟩

theorem always_iff_guarded (hP : ∀ s, Inv s → P s)
    (keep : ∀ s a t, Inv s → ok s a → next s a t → Inv t)
    (sharp : ∀ s a t, Inv s → next s a t → ¬ ok s a → ∃ t', next s a t' ∧ ¬ P t') (hs : Inv s)
    (as : List α) : Always next P s as ↔ Guarded next ok s as :=
  ⟨guarded_of_always keep sharp hs,always_of_guarded hP keep hs⟩

def EachStep (next : σ → α → σ → Prop) (P : σ → α → σ → Prop) : σ → List α → Prop
  | _, [] => True
  | s, a :: as => ∀ t, next s a t → P s a t ∧ EachStep next P t as

def follow (act : σ → α → Option σ) : σ → List α → Option σ
  | s, [] => some s
  | s, a :: as => (act s a).bind fun t => follow act t as

variable {act : σ → α → Option σ} {init : σ → Prop}

theorem Reach.follow {t : σ} (hs : Reach (fun s a t => act s a = some t) ok init s)
    (hok : ∀ a ∈ as, ∀ s, ok s a) (h : Runs.follow act s as = some t) :
    Reach (fun s a t => act s a = some t) ok init t := by
  induction as generalizing s with
  | nil =>
    cases h
    exact hs
  | cons a as ih =>
    obtain ⟨u,hu,hrest⟩ := Option.bind_eq_some_iff.mp h
    have hstep := Reach.step hs (hok a List.mem_cons_self s) hu
    exact ih hstep (fun b hb => hok b (List.mem_cons_of_mem a hb)) hrest

section

variable [∀ s a, Decidable (ok s a)]

theorem Reach.follow_chosen {β : Type} (choose : σ → β → α) {t : σ}
    (hs : Reach (fun s a t => act s a = some t) ok init s) {bs : List β}
    (h : Runs.follow (fun s b => if ok s (choose s b) then act s (choose s b) else none) s bs =
      some t) :
    Reach (fun s a t => act s a = some t) ok init t := by
  induction bs generalizing s with
  | nil =>
    cases h
    exact hs
  | cons b bs ih =>
    obtain ⟨u,hu,hrest⟩ := Option.bind_eq_some_iff.mp h
    obtain ⟨hok,hu⟩ := Option.ite_none_right_eq_some.mp hu
    exact ih (Reach.step hs hok hu) hrest

theorem Reach.follow_checked {t : σ} (hs : Reach (fun s a t => act s a = some t) ok init s)
    (h : Runs.follow (fun s a => if ok s a then act s a else none) s as = some t) :
    Reach (fun s a t => act s a = some t) ok init t :=
  Reach.follow_chosen (fun _ a => a) hs h

theorem Reach.observed {β : Type} {observe : σ → β} {v : β} (hs : init s)
    (h : (Runs.follow (fun s a => if ok s a then act s a else none) s as).map observe = some v) :
    ∃ t, Reach (fun s a t => act s a = some t) ok init t ∧ observe t = v := by
  obtain ⟨t,ht,hv⟩ := Option.map_eq_some_iff.mp h
  exact ⟨t,.follow_checked (.start hs) ht,hv⟩

end

end Runs
