import Mathlib.Tactic

namespace Fallible

inductive Fate where
  | done
  | failed (extent : Nat)
  | crashed (extent : Nat)

inductive Result (σ ε α : Type) where
  | ok (a : α) (s : σ)
  | error (e : ε) (s : σ)
  | crash (s : σ)

def Prog (σ ε α : Type) : Type := σ → Result σ ε α

variable {σ ε α β : Type}

def Result.state : Result σ ε α → σ
  | .ok _ s | .error _ s | .crash s => s

def Result.succeeded : Result σ ε α → Bool
  | .ok _ _ => true
  | _ => false

def Result.rejected : Result σ ε α → Bool
  | .error _ _ => true
  | _ => false

theorem Result.eq_ok {r : Result σ ε Unit} (h : r.succeeded = true) : r = .ok () r.state := by
  cases r with
  | ok a s => rfl
  | error e s | crash s => cases h

variable {r : Result σ ε α}

theorem Result.eq_error (h : r.rejected = true) : ∃ e, r = .error e r.state := by
  cases r with
  | ok a s => cases h
  | error e s => exact ⟨e,rfl⟩
  | crash s => cases h

namespace Prog

protected def pure (a : α) : Prog σ ε α := fun s => .ok a s

protected def bind (m : Prog σ ε α) (f : α → Prog σ ε β) : Prog σ ε β := fun s =>
  match m s with
  | .ok a t => f a t
  | .error e t => .error e t
  | .crash t => .crash t

instance : Monad (Prog σ ε) where
  pure := Prog.pure
  bind := Prog.bind

def fail (e : ε) : Prog σ ε α := fun s => .error e s

def read (f : σ → α) : Prog σ ε α := fun s => .ok (f s) s

def update (f : σ → σ) : Prog σ ε Unit := fun s => .ok () (f s)

def check (refused : Bool) (e : ε) : Prog σ ε Unit := if refused then fail e else Prog.pure ()

def ofExcept : Except ε α → Prog σ ε α
  | .ok a => Prog.pure a
  | .error e => fail e

def catchError (m : Prog σ ε α) (handle : ε → Prog σ ε α) : Prog σ ε α := fun s =>
  match m s with
  | .error e t => handle e t
  | r => r

def onError (m : Prog σ ε α) (cleanup : σ → σ) : Prog σ ε α :=
  catchError m fun e => Prog.bind (update cleanup) fun _ => fail e

def perform (fate : Fate) (full : σ → σ) (failed crashed : Nat → σ → σ) (e : ε) :
    Prog σ ε Unit := fun s =>
  match fate with
  | .done => .ok () (full s)
  | .failed n => .error e (failed n s)
  | .crashed n => .crash (crashed n s)

def attempt (fate : Fate) (e : ε) : Prog σ ε Unit :=
  perform fate id (fun _ => id) (fun _ => id) e

end Prog

open Prog

def Result.Sat (r : Result σ ε α) (onOk : α → σ → Prop) (onFail : ε → σ → Prop)
    (onCrash : σ → Prop) : Prop :=
  match r with
  | .ok a s => onOk a s
  | .error e s => onFail e s
  | .crash s => onCrash s

variable {Q Q' : α → σ → Prop} {R : β → σ → Prop} {E E' : ε → σ → Prop} {C C' : σ → Prop} {s : σ}

theorem Result.Sat.mono (h : r.Sat Q E C) (hQ : ∀ a s, Q a s → Q' a s)
    (hE : ∀ e s, E e s → E' e s) (hC : ∀ s, C s → C' s) : r.Sat Q' E' C' := by
  cases r with
  | ok a s => exact hQ a s h
  | error e s => exact hE e s h
  | crash s => exact hC s h

theorem Result.Sat.post (h : r.Sat Q E C) (hQ : ∀ a s, Q a s → Q' a s) :
    r.Sat Q' E C := h.mono hQ (fun _ _ he => he) fun _ hc => hc

theorem sat_pure {a : α} (h : Q a s) : ((Pure.pure a : Prog σ ε α) s).Sat Q E C := h

variable {m : Prog σ ε α}

variable {f : α → Prog σ ε β}

theorem sat_bind (hm : (m s).Sat Q E C) (hf : ∀ a t, Q a t → (f a t).Sat R E C) :
    ((m >>= f) s).Sat R E C := by
  change (Prog.bind m f s).Sat R E C
  unfold Prog.bind
  cases hresult : m s with
  | ok a t =>
    rw [hresult] at hm
    exact hf a t hm
  | error e t | crash t =>
    rwa [hresult] at hm

theorem sat_then {P : α → Prop} (hm : (m s).Sat (fun a t => t = s ∧ P a) E C)
    (hf : ∀ a, P a → (f a s).Sat R E C) : ((m >>= f) s).Sat R E C := by
  refine sat_bind hm ?_
  rintro a _ ⟨rfl,ha⟩
  exact hf a ha

theorem sat_skip (hm : (m s).Sat (fun _ t => t = s) E C) (hf : ∀ a, (f a s).Sat R E C) :
    ((m >>= f) s).Sat R E C := by
  refine sat_bind hm ?_
  rintro a _ rfl
  exact hf a

theorem sat_let {g : σ → α} (hf : ∀ a, a = g s → (f a s).Sat R E C) :
    ((read g >>= f) s).Sat R E C := hf _ rfl

theorem sat_set {g : σ → σ} {f : Unit → Prog σ ε β} (hf : (f () (g s)).Sat R E C) :
    ((update g >>= f) s).Sat R E C := hf

variable {e : ε}

theorem sat_update {f : σ → σ} {Q : Unit → σ → Prop} (h : Q () (f s)) :
    ((update f : Prog σ ε Unit) s).Sat Q E C := h

theorem sat_check {refused : Bool} {Q : Unit → σ → Prop} (hok : refused = false → Q () s)
    (hfail : refused = true → E e s) : ((check refused e : Prog σ ε Unit) s).Sat Q E C := by
  cases refused with
  | false => exact hok rfl
  | true => exact hfail rfl

theorem sat_ofExcept {x : Except ε α} (hok : ∀ a, x = .ok a → Q a s)
    (hfail : ∀ e, x = .error e → E e s) : ((ofExcept x : Prog σ ε α) s).Sat Q E C := by
  cases x with
  | ok a => exact hok a rfl
  | error e => exact hfail e rfl

variable {K : σ → Prop}

theorem sat_guard {refused : Bool} {f : Unit → Prog σ ε β} (hfail : K s)
    (hf : refused = false → (f () s).Sat R (fun _ => K) C) :
    ((check refused e >>= f) s).Sat R (fun _ => K) C := by
  cases refused with
  | false => exact hf rfl
  | true => exact hfail

theorem sat_except {x : Except ε α} (hfail : K s)
    (hf : ∀ a, x = .ok a → (f a s).Sat R (fun _ => K) C) :
    ((ofExcept x >>= f) s).Sat R (fun _ => K) C := by
  cases x with
  | ok a => exact hf a rfl
  | error e => exact hfail

theorem sat_ite {c : Prop} [Decidable c] {m' : Prog σ ε α} (hpos : c → (m s).Sat Q E C)
    (hneg : ¬ c → (m' s).Sat Q E C) : ((if c then m else m') s).Sat Q E C := by
  split_ifs with hc
  · exact hpos hc
  · exact hneg hc

theorem sat_catchError {handle : ε → Prog σ ε α}
    (h : (m s).Sat Q (fun e t => (handle e t).Sat Q E C) C) :
    (catchError m handle s).Sat Q E C := by
  unfold catchError
  cases hresult : m s with
  | ok a t | error e t | crash t =>
    rwa [hresult] at h

theorem sat_onError {cleanup : σ → σ} (h : (m s).Sat Q (fun e t => E e (cleanup t)) C) :
    (onError m cleanup s).Sat Q E C :=
  sat_catchError h

theorem sat_perform {fate : Fate} {full : σ → σ} {failed crashed : Nat → σ → σ}
    {Q : Unit → σ → Prop} (hok : fate = .done → Q () (full s))
    (hfail : ∀ n, fate = .failed n → E e (failed n s))
    (hcrash : ∀ n, fate = .crashed n → C (crashed n s)) :
    (perform fate full failed crashed e s).Sat Q E C := by
  cases fate with
  | done => exact hok rfl
  | failed n => exact hfail n rfl
  | crashed n => exact hcrash n rfl

theorem sat_attempt {fate : Fate} {Q : Unit → σ → Prop} (hok : Q () s) (hfail : E e s)
    (hcrash : C s) : ((attempt fate e : Prog σ ε Unit) s).Sat Q E C :=
  sat_perform (fun _ => hok) (fun _ _ => hfail) fun _ _ => hcrash

theorem sat_io {fate : Fate} {f : Unit → Prog σ ε β} (hfail : K s) (hcrash : C s)
    (hf : (f () s).Sat R (fun _ => K) C) :
    ((attempt fate e >>= f) s).Sat R (fun _ => K) C := by
  cases fate with
  | done => exact hf
  | failed n => exact hfail
  | crashed n => exact hcrash

structure Service (σ : Type) where
  state : σ
  running : Bool

def Result.alive : Result σ ε α → Bool
  | .crash _ => false
  | _ => true

def Result.service (r : Result σ ε α) : Service σ := ⟨r.state,r.alive⟩

inductive Step {κ β : Type} (call : κ → Prog σ ε Unit) (boot : β → σ → σ) :
    Service σ → κ ⊕ β → Service σ → Prop
  | called {s : Service σ} (request : κ) :
      s.running = true → Step call boot s (.inl request) (call request s.state).service
  | restarted (s image) : Step call boot s (.inr image) ⟨boot image s.state,true⟩

theorem Step.of_run {κ β : Type} {call : κ → Prog σ ε Unit} {boot : β → σ → σ} {request : κ}
    {program : Prog σ ε Unit} (hrun : call request = program) {s : σ}
    (h : (program s).alive = true) :
    Step call boot ⟨s,true⟩ (.inl request) ⟨(program s).state,true⟩ := by
  subst hrun
  have hstep : Step call boot ⟨s,true⟩ (.inl request) (call request s).service :=
    .called request rfl
  rwa [Result.service,h] at hstep

structure Service.Ok (Live Disk : σ → Prop) (s : Service σ) : Prop where
  disk : Disk s.state
  live : s.running = true → Live s.state

theorem Result.Sat.service {r : Result σ ε Unit} {Live Disk : σ → Prop}
    (h : r.Sat (fun _ => Live) (fun _ => Live) Disk) (hdisk : ∀ s, Live s → Disk s) :
    r.service.Ok Live Disk := by
  cases r with
  | ok a s | error e s => exact ⟨hdisk s h,fun _ => h⟩
  | crash s => exact ⟨h,nofun⟩

theorem Step.ok {κ β : Type} {call : κ → Prog σ ε Unit} {boot : β → σ → σ} {Live Disk : σ → Prop}
    {allowed : σ → κ ⊕ β → Prop} (hdisk : ∀ s, Live s → Disk s)
    (hcall : ∀ request s, allowed s (.inl request) → Live s →
      (call request s).Sat (fun _ => Live) (fun _ => Live) Disk)
    (hboot : ∀ image s, Disk s → Live (boot image s)) {s t : Service σ} {a : κ ⊕ β}
    (h : s.Ok Live Disk) (ha : allowed s.state a) (hstep : Step call boot s a t) :
    t.Ok Live Disk := by
  cases hstep with
  | called request hrunning => exact (hcall request _ ha (h.live hrunning)).service hdisk
  | restarted image =>
    have hlive := hboot image _ h.disk
    exact ⟨hdisk _ hlive,fun _ => hlive⟩

end Fallible
