import OpenSandbox.Library.Runs

namespace OpenSandbox.Supervisor

open List

structure BurstTracker where
  max : Nat
  window : Int
  ring : List Int
  idx : Nat
  filled : Nat

def newBurstTracker (max window : Int) : BurstTracker :=
  let max := if max < 1 then 1 else max.toNat
  ⟨max,window,replicate max 0,0,0⟩

def BurstTracker.record (b : BurstTracker) (now : Int) : BurstTracker :=
  { b with
    ring := b.ring.set b.idx now
    idx := (b.idx + 1) % b.max
    filled := if b.filled < b.max then b.filled + 1 else b.filled }

def BurstTracker.exceeded (b : BurstTracker) (now : Int) : Bool :=
  if b.filled < b.max then false else decide (now - b.ring.getD b.idx 0 ≤ b.window)

def BurstTracker.count (b : BurstTracker) (now : Int) : Nat :=
  (b.ring.take b.filled).countP fun t => decide (now - b.window ≤ t)

structure Spec where
  cmd : String
  preStart : List (List String)
  postExit : List (List String)
  burstWindow : Int
  burstMax : Int
  onBurstExit : Option Bool

def Spec.applyDefaults (s : Spec) : Spec :=
  { s with
    burstWindow := if s.burstWindow ≤ 0 then 300000000000 else s.burstWindow
    burstMax := if s.burstMax ≤ 0 then 10 else s.burstMax
    onBurstExit := some (s.onBurstExit.getD true) }

inductive Failure
  | cmdRequired
  | cancelled
  | burstExceeded

inductive Event
  | prestart (hook : String)
  | start (attempt : Nat)
  | launchFailed (attempt : Nat)
  | exit (attempt : Nat) (shutdown : Bool)
  | stable (attempt : Nat)
  | postexit (hook : String)
  | backoff (nextAttempt : Nat)
  | burstExit (attempts attempt : Nat)
  | shutdown

inductive Pc
  | top
  | preStart (hooks : List String) (failed : Bool)
  | launch
  | running
  | postExit (hooks : List String)
  | burst
  | sleeping
  | returned (err : Failure)

structure State where
  pc : Pc
  cancelled : Bool
  clock : Int
  attempt : Nat
  backoff : Bool
  starts : BurstTracker
  alive : List Nat
  log : List Event

def runHooks (hooks : List (List String)) : List String := hooks.filterMap head?

variable (spec : Spec)

namespace State

def born (clock : Int) : State where
  pc := if spec.cmd = "" then .returned .cmdRequired else .top
  cancelled := false
  clock := clock
  attempt := 0
  backoff := false
  starts := newBurstTracker spec.burstMax spec.burstWindow
  alive := []
  log := []

def emit (s : State) (e : Event) (pc : Pc) : State := { s with log := s.log ++ [e], pc := pc }

def sleepBackoff (s : State) : State := s.emit (.backoff (s.attempt + 1)) .sleeping

def exitOnBurst (s : State) : State :=
  if s.starts.exceeded s.clock then
    let s := s.emit (.burstExit (s.starts.count s.clock) s.attempt) (.returned .burstExceeded)
    if spec.onBurstExit = some true then s else s.sleepBackoff
  else s.sleepBackoff

def exited (s : State) : State :=
  { s.emit (.exit s.attempt s.cancelled) (.postExit (runHooks spec.postExit)) with
    alive := s.alive.erase s.attempt }

def resetBackoff (s : State) : State :=
  { s with backoff := false, log := if s.backoff then s.log ++ [.stable s.attempt] else s.log }

end State

inductive Input
  | tick (d : Nat)
  | cancel
  | go (ok : Bool)

def State.step (s : State) (i : Input) : Option State :=
  match s.pc, i with
  | .returned _, _ => none
  | _, .tick d => some { s with clock := s.clock + d }
  | _, .cancel => some { s with cancelled := true }
  | .top, .go _ =>
    if s.cancelled then some (s.emit .shutdown (.returned .cancelled))
    else some { s with attempt := s.attempt + 1, pc := .preStart (runHooks spec.preStart) false }
  | .preStart (hook :: hooks) failed, .go ok =>
    some (s.emit (.prestart hook) (.preStart hooks (failed || !ok)))
  | .preStart [] failed, .go _ =>
    some { s with starts := s.starts.record s.clock, pc := if failed then .burst else .launch }
  | .launch, .go true =>
    some { s.emit (.start s.attempt) .running with alive := s.attempt :: s.alive }
  | .launch, .go false => some (s.emit (.launchFailed s.attempt) .burst)
  | .running, .go false => some (s.exited spec)
  | .running, .go true => some (s.exited spec).resetBackoff
  | .postExit (hook :: hooks), .go _ => some (s.emit (.postexit hook) (.postExit hooks))
  | .postExit [], .go _ =>
    if s.cancelled then some (s.emit .shutdown (.returned .cancelled))
    else some { s with pc := .burst }
  | .burst, .go _ => some (s.exitOnBurst spec)
  | .sleeping, .go true => some { s with backoff := true, pc := .top }
  | .sleeping, .go false =>
    if s.cancelled then some (s.emit .shutdown (.returned .cancelled)) else none

def Reachable : State → Prop :=
  Runs.Reach (fun s i t => s.step spec.applyDefaults i = some t) (fun _ _ => True)
    fun s => ∃ clock, s = .born spec.applyDefaults clock

inductive Phase
  | down (last : Nat) (hooks : List String)
  | up (attempt : Nat)

def Phase.alive : Phase → List Nat
  | .down _ _ => []
  | .up attempt => [attempt]

def Phase.accept (postExit : List String) : Phase → Event → Option Phase
  | .down last [], .start attempt => if last < attempt then some (.up attempt) else none
  | .down last hooks, .stable attempt => if attempt = last then some (.down last hooks) else none
  | .down _ [], .exit _ _ | .down _ [], .postexit _ => none
  | .down last [], _ => some (.down last [])
  | .down last (hook :: hooks), .postexit ran =>
    if ran = hook then some (.down last hooks) else none
  | .up n, .exit attempt _ => if attempt = n then some (.down n postExit) else none
  | _, _ => none

def Pc.Agrees (attempt : Nat) : Pc → Phase → Prop
  | .running, phase => phase = .up attempt
  | .postExit hooks, phase => phase = .down attempt hooks
  | .preStart _ _, phase | .launch, phase => ∃ last < attempt, phase = .down last []
  | _, phase => ∃ last ≤ attempt, phase = .down last []

structure Lifecycle (postExit : List String) (s : State) (phase : Phase) : Prop where
  log : s.log.foldlM (Phase.accept postExit) (.down 0 []) = some phase
  alive : s.alive = phase.alive
  agrees : s.pc.Agrees s.attempt phase

variable {spec} {s t : State} {i : Input} {phase : Phase}

theorem accept_append {postExit : List String} {log : List Event} {e : Event} {phase' : Phase}
    (hlog : log.foldlM (Phase.accept postExit) (.down 0 []) = some phase)
    (haccept : phase.accept postExit e = some phase') :
    (log ++ [e]).foldlM (Phase.accept postExit) (.down 0 []) = some phase' := by
  simp [hlog,haccept]

theorem Lifecycle.exited (h : Lifecycle (runHooks spec.postExit) s (.up s.attempt)) :
    Lifecycle (runHooks spec.postExit) (s.exited spec)
      (.down s.attempt (runHooks spec.postExit)) :=
  ⟨accept_append h.log (if_pos rfl),by rw [State.exited,h.alive]; exact erase_cons_head ..,rfl⟩

theorem Lifecycle.resetBackoff {postExit hooks : List String}
    (h : Lifecycle postExit s (.down s.attempt hooks)) :
    Lifecycle postExit s.resetBackoff (.down s.attempt hooks) := by
  refine ⟨?_,h.alive,h.agrees⟩
  unfold State.resetBackoff
  split
  · exact accept_append h.log (by cases hooks <;> exact if_pos rfl)
  · exact h.log

theorem Lifecycle.step (h : Lifecycle (runHooks spec.postExit) s phase)
    (hstep : s.step spec i = some t) : ∃ phase, Lifecycle (runHooks spec.postExit) t phase := by
  revert hstep
  have hpc := h.agrees
  fun_cases State.step spec s i <;> intro hstep <;> cases hstep
  case case2 | case3 => exact ⟨phase,{ h with }⟩
  all_goals rw [show s.pc = _ by assumption] at hpc
  case case10 =>
    cases hpc
    exact ⟨_,h.exited⟩
  case case11 =>
    cases hpc
    exact ⟨_,Lifecycle.resetBackoff h.exited⟩
  case case12 =>
    cases hpc
    exact ⟨_,accept_append h.log (if_pos rfl),h.alive,rfl⟩
  case case13 =>
    cases hpc
    exact ⟨_,accept_append h.log rfl,h.alive,_,le_rfl,rfl⟩
  case case14 =>
    cases hpc
    exact ⟨_,h.log,h.alive,_,le_rfl,rfl⟩
  all_goals obtain ⟨last,hlast,rfl⟩ := hpc
  case case5 => exact ⟨_,h.log,h.alive,last,Nat.lt_succ_of_le hlast,rfl⟩
  case case7 failed _ _ =>
    cases failed with
    | false => exact ⟨_,h.log,h.alive,last,hlast,rfl⟩
    | true => exact ⟨_,h.log,h.alive,last,hlast.le,rfl⟩
  case case8 => exact ⟨_,accept_append h.log (if_pos hlast),by rw [h.alive]; rfl,rfl⟩
  case case9 => exact ⟨_,accept_append h.log rfl,h.alive,last,hlast.le,rfl⟩
  case case15 =>
    unfold State.exitOnBurst
    split_ifs
    · exact ⟨_,accept_append h.log rfl,h.alive,last,hlast,rfl⟩
    · exact ⟨_,accept_append (accept_append h.log rfl) rfl,h.alive,last,hlast,rfl⟩
    · exact ⟨_,accept_append h.log rfl,h.alive,last,hlast,rfl⟩
  case case16 => exact ⟨_,h.log,h.alive,last,hlast,rfl⟩
  all_goals exact ⟨_,accept_append h.log rfl,h.alive,last,hlast,rfl⟩

theorem event_log_accepted (h : Reachable spec s) : ∃ phase,
    s.log.foldlM (Phase.accept (runHooks spec.postExit)) (.down 0 []) = some phase ∧
    s.alive = phase.alive ∧ ∀ err, s.pc = .returned err → ∃ last, phase = .down last [] := by
  have hlife : ∃ phase, Lifecycle (runHooks spec.applyDefaults.postExit) s phase := by
    induction h with
    | start hs =>
      obtain ⟨clock,rfl⟩ := hs
      refine ⟨.down 0 [],rfl,rfl,?_⟩
      unfold State.born
      split <;> exact ⟨0,le_rfl,rfl⟩
    | step _ _ hstep ih => exact ih.elim fun _ hs => hs.step hstep
  obtain ⟨phase,hlog,halive,hagrees⟩ := hlife
  refine ⟨phase,hlog,halive,fun err hpc => ?_⟩
  rw [hpc] at hagrees
  exact hagrees.imp fun _ hlast => hlast.2

def onceSpec : Spec := ⟨"worker",[["mount"]],[["unmount"],[]],0,1,none⟩

theorem event_log_accepted_once : ∃ s, Reachable onceSpec s ∧ s.alive = [] ∧
    s.log = [.prestart "mount",.start 1,.exit 1 false,.postexit "unmount",.burstExit 1 1] ∧
    ∃ phase, s.log.foldlM (Phase.accept ["unmount"]) (.down 0 []) = some phase := by
  have hrun : Reachable onceSpec _ := Runs.Reach.follow (.start ⟨0,rfl⟩) (fun _ _ _ => trivial)
    (rfl : Runs.follow (State.step onceSpec.applyDefaults) _ (replicate 8 (.go true)) = some _)
  obtain ⟨phase,hlog,-⟩ := event_log_accepted hrun
  exact ⟨_,hrun,rfl,rfl,phase,hlog⟩

end OpenSandbox.Supervisor
