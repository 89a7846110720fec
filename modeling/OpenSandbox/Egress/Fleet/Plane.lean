import OpenSandbox.Egress.Controller
import OpenSandbox.Egress.Fleetnft.Standing

namespace OpenSandbox.Fleet

open Netip Policy Slots Registry MemoryRegistry Lifecycle
open Fleetnft (World Faults ResolvedIP)

structure PendingRequest where
  subj : Subject
  pol : NetworkPolicy
  gen : Option Nat
  deriving DecidableEq

structure Registration where
  slot : Slot
  updated : Bool
  failures : Nat
  deriving DecidableEq

def Registration.subject (r : Registration) : Subject := slotSubject r.slot

def Registration.fence (r : Registration) : Fencing := fromSlotOwner r.slot.owner

inductive Pc where
  | idle
  | attempt (r : Registration)
  | denyFirst (r : Registration)
  | resolv (r : Registration)
  | gateway (r : Registration)
  | complete (r : Registration) (state : State)
  | flush (r : Registration) (state : State) (queue : List PendingRequest)
  | replaying (r : Registration) (state : State) (queue : List PendingRequest)
  | slotResolv (slot : Slot)
  | slotGateway (slot : Slot)
  | slotDispatch (slot : Slot)
  | dropPending (slot : Slot)
  | releaseGateway (slot : Slot)
  | removeNft (slot : Slot)
  | stopped (owed : Option Subject)
  deriving DecidableEq

def Pc.enforcing : Pc → Option Registration
  | .denyFirst r | .resolv r | .gateway r => some r
  | _ => none

def Pc.owed : Pc → Option Subject
  | .attempt r => if r.failures = 0 then none else some r.subject
  | .stopped owed => owed
  | _ => none

def Pc.unloading : Pc → Option Subject
  | .dropPending slot | .releaseGateway slot | .removeNft slot => some (slotSubject slot)
  | _ => none

def Pc.resume : Pc → Pc
  | .replaying r state queue => .flush r state queue
  | pc => pc

structure Applying where
  push : PendingRequest
  eff : NetworkPolicy
  began : Nat
  swapped : Bool
  replayed : Bool

structure Plane where
  reg : MemoryRegistry
  nft : World
  gatewayDNSRefs : Addr → Nat
  pending : Subject → List PendingRequest
  caching : List PendingRequest
  waiting : List PendingRequest
  applying : Option Applying
  pc : Pc
  completed : List (Subject × Fencing)
  clock : Nat
  since : Subject → Nat
  stored : Subject → Option Nat

def newPlane (reg : MemoryRegistry) (nft : World) : Plane where
  reg := reg
  nft := nft
  gatewayDNSRefs := fun _ => 0
  pending := fun _ => []
  caching := []
  waiting := []
  applying := none
  pc := .idle
  completed := []
  clock := 1
  since := fun _ => 0
  stored := fun _ => none

def installGatewayDNSRedirect (refs : Addr → Nat) (gateway : Addr) (installs : Bool) :
    Bool × (Addr → Nat) :=
  if 0 < refs gateway then (true, Function.update refs gateway (refs gateway + 1))
  else if installs then (true, Function.update refs gateway 1)
  else (false, refs)

def releaseGatewayDNSRedirect (refs : Addr → Nat) (gateway : Addr) : Addr → Nat :=
  Function.update refs gateway (refs gateway - 1)

def takePendingAll (expired : PendingRequest → Bool) (slot : Slot) (qs : List PendingRequest) :
    List PendingRequest :=
  qs.filter fun p => (p.gen.all (· = slot.owner.instanceGeneration)) && !expired p

namespace Plane

variable (f : Plane) (r : Registration) (slot : Slot)

def halt (owed : Option Subject) : Plane := { f with pc := .stopped owed }

def applyEvent : Event → Plane
  | .bound slot => if slot.phase = .bound then { f with pc := .attempt ⟨slot,false,0⟩ } else f
  | .updated slot => if slot.phase = .bound then { f with pc := .attempt ⟨slot,true,0⟩ } else f
  | .deleted slot =>
      match f.reg.unregister (slotSubject slot) with
      | (.absent, reg) => { f with reg := reg }
      | (_, reg) => { f with reg := reg, pc := .dropPending slot }
  | .error _ => f

def boundSince : Subject → Nat :=
  if (f.reg.bySubject r.subject).any (·.fence.matches r.fence) then f.since
  else Function.update f.since r.subject f.clock

def registerAndEnforce : Plane :=
  match f.reg.observe r.subject (slotKey r.slot) r.fence with
  | (.active, reg) => { f with reg := reg, pc := .complete r .active }
  | (_, reg) =>
      { f with
        reg := reg
        pc := .denyFirst r
        clock := f.clock + 1
        since := f.boundSince r
        stored := Function.update f.stored r.subject none }

def retryLater : Plane :=
  { f with pc := .attempt { r with failures := r.failures + 1 } }

def applyDenyFirst (f : Plane) (r : Registration) (faults : Faults) : Plane :=
  match Fleetnft.applyDenyFirst faults f.nft r.subject r.slot with
  | (.ok _, nft) => { f with nft := nft, pc := .resolv r }
  | (.error _, nft) => { f with nft := nft }.retryLater r

def rewriteResolv (rewritten : Bool) : Plane :=
  if rewritten then { f with pc := .gateway r } else f.retryLater r

def redirectGateway (installs : Bool) : Plane :=
  match installGatewayDNSRedirect f.gatewayDNSRefs r.slot.gateway installs with
  | (true, refs) =>
      { f with
        gatewayDNSRefs := refs
        pc := .complete r .denying
        completed := (r.subject, r.fence) :: f.completed }
  | (false, refs) => { f with gatewayDNSRefs := refs }.retryLater r

def giveUp : Plane :=
  f.halt (if r.failures = 0 then none else some r.subject)

def onRegisteredComplete (state : State) (expired : PendingRequest → Bool) : Plane :=
  { f with
    pending := Function.update f.pending r.subject []
    pc := .flush r state (takePendingAll expired r.slot (f.pending r.subject)) }

def registered (state : State) : Plane :=
  { f with pc := if r.updated ∧ state = .active then .slotResolv r.slot else .idle }

def begin (push : PendingRequest) (replayed : Bool) : Plane :=
  { f with
    applying := some ⟨push,f.reg.effectiveOf (some push.pol),f.clock,false,replayed⟩
    clock := f.clock + 1 }

def cachePending (push : PendingRequest) : Plane :=
  { f with pending := Function.update f.pending push.subj (f.pending push.subj ++ [push]) }

def resolvePolicyPush (push : PendingRequest) : Plane :=
  if (f.reg.get push.subj).2 then { f with waiting := f.waiting ++ [push] }
  else { f with caching := f.caching ++ [push] }

def finish (a : Applying) : Plane :=
  { f with applying := none, pc := if a.replayed then f.pc.resume else f.pc }

def nftApplyPolicy (a : Applying) (fault : Option String) : Plane :=
  match Fleetnft.applyPolicy fault f.nft a.push.subj (some a.eff) with
  | (.ok _, nft) => { f with nft := nft, applying := some { a with swapped := true } }
  | (.error _, nft) => { f with nft := nft }.finish a

def regApplyPolicy (a : Applying) : Plane :=
  match f.reg.applyPolicy a.push.subj (some a.push.pol) with
  | .ok reg =>
      { f with reg := reg, stored := Function.update f.stored a.push.subj (some a.began) }.finish a
  | .error _ => f.finish a

def updateResolv (rewritten : Bool) : Plane :=
  if rewritten then { f with pc := .slotGateway slot } else f.halt none

def updateGateway (installs : Bool) : Plane :=
  match installGatewayDNSRedirect f.gatewayDNSRefs slot.gateway installs with
  | (true, refs) => { f with gatewayDNSRefs := refs, pc := .slotDispatch slot }
  | (false, refs) => { f with gatewayDNSRefs := refs }.halt none

def updateDispatch (fault : Option String) : Plane :=
  match Fleetnft.applyDispatchUpdate fault f.nft (slotSubject slot) slot with
  | (.ok _, nft) => { f with nft := nft, pc := .idle }
  | (.error _, nft) => { f with nft := nft }.halt none

def unloadPending : Plane :=
  { f with pending := Function.update f.pending (slotSubject slot) [], pc := .releaseGateway slot }

def unloadGateway : Plane :=
  { f with
    gatewayDNSRefs := releaseGatewayDNSRedirect f.gatewayDNSRefs slot.gateway
    pc := .removeNft slot }

def unloadNft (faults : Faults) (order : List Subject) : Plane :=
  match Fleetnft.remove faults f.nft (slotSubject slot) order with
  | (.ok _, nft) => { f with nft := nft, pc := .idle }
  | (.error _, nft) => { f with nft := nft }.halt none

def onResolved (s : Subject) (ips : List ResolvedIP) (fault : Option String) : Plane :=
  { f with nft := (Fleetnft.addResolvedIPs fault f.nft s ips).2 }

end Plane

inductive Label where
  | event (ev : Event)
  | attempt
  | denyFirst (faults : Faults)
  | resolv (rewritten : Bool)
  | gateway (installs : Bool)
  | giveUp
  | complete (expired : PendingRequest → Bool)
  | replay
  | flushed
  | dispatch (fault : Option String)
  | unload
  | removeNft (faults : Faults) (order : List Subject)
  | arrive (push : PendingRequest)
  | cache (push : PendingRequest)
  | sweep (expired : PendingRequest → Bool)
  | begin (push : PendingRequest)
  | pushNft (fault : Option String)
  | pushReg
  | resolved (s : Subject) (ips : List ResolvedIP) (fault : Option String)

inductive Step (f : Plane) : Label → Plane → Prop
  | event (ev : Event) (hpc : f.pc = .idle) : Step f (.event ev) (f.applyEvent ev)
  | attempt {r} (hpc : f.pc = .attempt r)
      (hn : r.failures < registerBackoff.steps) : Step f .attempt (f.registerAndEnforce r)
  | denyFirst {r} (faults : Faults) (hpc : f.pc = .denyFirst r) :
      Step f (.denyFirst faults) (f.applyDenyFirst r faults)
  | resolv {r} (rewritten : Bool) (hpc : f.pc = .resolv r) :
      Step f (.resolv rewritten) (f.rewriteResolv r rewritten)
  | gateway {r} (installs : Bool) (hpc : f.pc = .gateway r) :
      Step f (.gateway installs) (f.redirectGateway r installs)
  | giveUp {r} (hpc : f.pc = .attempt r) : Step f .giveUp (f.giveUp r)
  | complete {r state} (expired : PendingRequest → Bool) (hpc : f.pc = .complete r state) :
      Step f (.complete expired) (f.onRegisteredComplete r state expired)
  | replay {r state push queue} (hpc : f.pc = .flush r state (push :: queue))
      (hget : (f.reg.get push.subj).2 = true) (hmu : f.applying = none) :
      Step f .replay ({ f with pc := .replaying r state queue }.begin push true)
  | recache {r state push queue} (hpc : f.pc = .flush r state (push :: queue))
      (hget : (f.reg.get push.subj).2 = false) :
      Step f .replay ({ f with pc := .flush r state queue }.cachePending push)
  | flushed {r state} (hpc : f.pc = .flush r state []) : Step f .flushed (f.registered r state)
  | slotResolv {slot} (rewritten : Bool) (hpc : f.pc = .slotResolv slot) :
      Step f (.resolv rewritten) (f.updateResolv slot rewritten)
  | slotGateway {slot} (installs : Bool) (hpc : f.pc = .slotGateway slot) :
      Step f (.gateway installs) (f.updateGateway slot installs)
  | slotDispatch {slot} (fault : Option String) (hpc : f.pc = .slotDispatch slot) :
      Step f (.dispatch fault) (f.updateDispatch slot fault)
  | unloadPending {slot} (hpc : f.pc = .dropPending slot) : Step f .unload (f.unloadPending slot)
  | unloadGateway {slot} (hpc : f.pc = .releaseGateway slot) : Step f .unload (f.unloadGateway slot)
  | unloadNft {slot} (faults : Faults) (order : List Subject) (hpc : f.pc = .removeNft slot)
      (hfe : (Fleetnft.Op.remove faults (slotSubject slot) order).Feasible f.nft) :
      Step f (.removeNft faults order) (f.unloadNft slot faults order)
  | arrive (push : PendingRequest) (hlock : f.pc.enforcing = none) :
      Step f (.arrive push) (f.resolvePolicyPush push)
  | cache {push} (hmem : push ∈ f.caching) :
      Step f (.cache push) ({ f with caching := f.caching.erase push }.cachePending push)
  | sweep (expired : PendingRequest → Bool) :
      Step f (.sweep expired) { f with pending := fun s => (f.pending s).filter (!expired ·) }
  | begin {push} (hmem : push ∈ f.waiting) (hmu : f.applying = none)
      (hlock : f.pc.enforcing = none) :
      Step f (.begin push) ({ f with waiting := f.waiting.erase push }.begin push false)
  | pushNft {a} (fault : Option String) (ha : f.applying = some a)
      (hs : a.swapped = false) : Step f (.pushNft fault) (f.nftApplyPolicy a fault)
  | pushReg {a} (ha : f.applying = some a) (hs : a.swapped = true)
      (hlock : f.pc.enforcing = none) : Step f .pushReg (f.regApplyPolicy a)
  | resolved (s ips fault) : Step f (.resolved s ips fault) (f.onResolved s ips fault)

def Launched (f : Plane) : Prop :=
  ∃ alwaysDeny alwaysAllow nft, Fleetnft.Started nft ∧
    f = newPlane (newRegistry alwaysDeny alwaysAllow) nft

def Reached (ok : Plane → Label → Prop) : Plane → Prop := Runs.Reach Step ok Launched

structure SameAlways (r r' : MemoryRegistry) : Prop where
  deny : r'.alwaysDeny = r.alwaysDeny
  allow : r'.alwaysAllow = r.alwaysAllow

def Plane.ActiveFor (f : Plane) (r : Registration) : Prop :=
  ∃ e, f.reg.bySubject r.subject = some e ∧ e.fence = r.fence ∧ e.state = .active

theorem Plane.registerAndEnforce_cases (f : Plane) (r : Registration) :
    (∃ e reg, f.reg.bySubject r.subject = some e ∧ e.state = .active ∧ SameAlways f.reg reg ∧
      reg.bySubject =
        Function.update f.reg.bySubject r.subject (some { e with key := slotKey r.slot }) ∧
      f.registerAndEnforce r = { f with reg := reg, pc := .complete r .active }) ∨
    (∃ reg, ¬ f.ActiveFor r ∧ SameAlways f.reg reg ∧
      reg.bySubject = Function.update f.reg.bySubject r.subject
        (some (newEntry r.subject (slotKey r.slot) r.fence)) ∧
      f.registerAndEnforce r =
        { f with
          reg := reg
          pc := .denyFirst r
          clock := f.clock + 1
          since := f.boundSince r
          stored := Function.update f.stored r.subject none }) := by
  obtain ⟨hdeny,hallow⟩ := f.reg.always_observe r.subject (slotKey r.slot) r.fence
  unfold Plane.registerAndEnforce
  rcases f.reg.bySubject_observe r.subject (slotKey r.slot) r.fence with
    ⟨e,he,-,hact,hst,-,hby⟩ | ⟨hst,hno,hby⟩
  · generalize f.reg.observe r.subject (slotKey r.slot) r.fence = out at *
    obtain ⟨state,reg⟩ := out
    obtain rfl := hst
    exact .inl ⟨e,reg,he,hact,⟨hdeny,hallow⟩,hby,rfl⟩
  · generalize f.reg.observe r.subject (slotKey r.slot) r.fence = out at *
    obtain ⟨state,reg⟩ := out
    obtain rfl := hst
    exact .inr ⟨reg,fun ⟨e,he,hact⟩ => hno e he hact,⟨hdeny,hallow⟩,hby,rfl⟩

theorem Plane.applyEvent_cases (f : Plane) (ev : Event) : f.applyEvent ev = f ∨
    (∃ slot updated, f.applyEvent ev = { f with pc := .attempt ⟨slot,updated,0⟩ }) ∨
    ∃ slot reg, SameAlways f.reg reg ∧
      reg.bySubject = Function.update f.reg.bySubject (slotSubject slot) none ∧
      (f.applyEvent ev = { f with reg := reg } ∨
        f.applyEvent ev = { f with reg := reg, pc := .dropPending slot }) := by
  cases ev with
  | bound slot =>
    by_cases hb : slot.phase = .bound
    · exact .inr (.inl ⟨slot,false,if_pos hb⟩)
    · exact .inl (if_neg hb)
  | updated slot =>
    by_cases hb : slot.phase = .bound
    · exact .inr (.inl ⟨slot,true,if_pos hb⟩)
    · exact .inl (if_neg hb)
  | deleted slot =>
    refine .inr (.inr ⟨slot,(f.reg.unregister (slotSubject slot)).2,?_,
      f.reg.bySubject_unregister _,?_⟩)
    · unfold MemoryRegistry.unregister
      split <;> exact ⟨rfl,rfl⟩
    simp only [Plane.applyEvent]
    generalize f.reg.unregister (slotSubject slot) = out
    obtain ⟨_ | _ | _,reg⟩ := out
    · exact .inl rfl
    · exact .inr rfl
    · exact .inr rfl
  | error err => exact .inl rfl

theorem Plane.regApplyPolicy_cases (f : Plane) (a : Applying) :
    (∃ e reg, f.reg.bySubject a.push.subj = some e ∧ SameAlways f.reg reg ∧ reg.bySubject =
        Function.update f.reg.bySubject a.push.subj (some (f.reg.activate e a.push.pol)) ∧
      f.regApplyPolicy a =
        Plane.finish { f with
          reg := reg
          stored := Function.update f.stored a.push.subj (some a.began) } a) ∨
      f.reg.bySubject a.push.subj = none ∧ f.regApplyPolicy a = f.finish a := by
  unfold Plane.regApplyPolicy MemoryRegistry.applyPolicy
  cases f.reg.bySubject a.push.subj with
  | none => exact .inr ⟨rfl,rfl⟩
  | some e =>
    exact .inl ⟨e,f.reg.store _ (some (f.reg.activate e a.push.pol)),rfl,⟨rfl,rfl⟩,rfl,rfl⟩

theorem Pc.enforcing_resume (pc : Pc) : pc.resume.enforcing = pc.enforcing := by
  cases pc <;> rfl

theorem Pc.owed_resume (pc : Pc) : pc.resume.owed = pc.owed := by
  cases pc <;> rfl

theorem Pc.unloading_resume (pc : Pc) : pc.resume.unloading = pc.unloading := by
  cases pc <;> rfl

def Plane.act (f : Plane) : Label → Option Plane
  | .event ev => if f.pc = .idle then some (f.applyEvent ev) else none
  | .attempt =>
    match f.pc with
    | .attempt r =>
      if r.failures < registerBackoff.steps then some (f.registerAndEnforce r) else none
    | _ => none
  | .denyFirst faults =>
    match f.pc with
    | .denyFirst r => some (f.applyDenyFirst r faults)
    | _ => none
  | .resolv rewritten =>
    match f.pc with
    | .resolv r => some (f.rewriteResolv r rewritten)
    | _ => none
  | .gateway installs =>
    match f.pc with
    | .gateway r => some (f.redirectGateway r installs)
    | _ => none
  | .complete expired =>
    match f.pc with
    | .complete r state => some (f.onRegisteredComplete r state expired)
    | _ => none
  | .replay =>
    match f.pc with
    | .flush r state (push :: queue) =>
      if (f.reg.get push.subj).2 = true ∧ f.applying = none then
        some ({ f with pc := .replaying r state queue }.begin push true)
      else none
    | _ => none
  | .flushed =>
    match f.pc with
    | .flush r state [] => some (f.registered r state)
    | _ => none
  | .arrive push => if f.pc.enforcing = none then some (f.resolvePolicyPush push) else none
  | .cache push =>
    if push ∈ f.caching then
      some ({ f with caching := f.caching.erase push }.cachePending push)
    else none
  | .begin push =>
    if push ∈ f.waiting ∧ f.applying = none ∧ f.pc.enforcing = none then
      some ({ f with waiting := f.waiting.erase push }.begin push false)
    else none
  | .pushNft fault =>
    match f.applying with
    | some a => if a.swapped then none else some (f.nftApplyPolicy a fault)
    | none => none
  | .pushReg =>
    match f.applying with
    | some a => if a.swapped ∧ f.pc.enforcing = none then some (f.regApplyPolicy a) else none
    | none => none
  | _ => none

theorem Plane.act_step {f f' : Plane} {l : Label} (h : f.act l = some f') : Step f l f' := by
  revert h
  fun_cases Plane.act f l <;> intro h <;> cases h
  · exact .event _ ‹_›
  · exact .attempt ‹_› ‹_›
  · exact .denyFirst _ ‹_›
  · exact .resolv _ ‹_›
  · exact .gateway _ ‹_›
  · exact .complete _ ‹_›
  · rename_i hready
    exact .replay ‹_› hready.1 hready.2
  · exact .flushed ‹_›
  · exact .arrive _ ‹_›
  · exact .cache ‹_›
  · rename_i hready
    exact .begin hready.1 hready.2.1 hready.2.2
  · exact .pushNft _ ‹_› (Bool.eq_false_of_not_eq_true ‹_›)
  · rename_i hready
    exact .pushReg ‹_› hready.1 hready.2

def freshPlane : Plane :=
  newPlane (newRegistry [] []) ⟨⟨true,∅⟩,some (Fleetnft.headerOn .new)⟩

theorem launched_freshPlane : Launched freshPlane := ⟨[],[],_,Fleetnft.started_header,rfl⟩

def replay (ok : Plane → Label → Prop) [∀ f l, Decidable (ok f l)] (labels : List Label) :
    Option Plane :=
  Runs.follow (fun f l => if ok f l then f.act l else none) freshPlane labels

theorem replay_reached {ok : Plane → Label → Prop} [∀ f l, Decidable (ok f l)]
    {labels : List Label} {f : Plane} (h : replay ok labels = some f) : Reached ok f :=
  (Runs.Reach.follow_checked (.start launched_freshPlane) h).mono (fun _ _ => id)
    fun _ _ _ => Plane.act_step

def slotX : Slot := leasedSlot "x" .bound ⟨"a",1,1⟩ 0x0A000005 "veth-x"

def earlyPush : PendingRequest := ⟨fromSandboxUID "a",defaultDenyPolicy,none⟩

def allowPush : PendingRequest := ⟨fromSandboxUID "a",⟨[],actionAllow,none⟩,none⟩

def enforcing (ev : Event) : List Label :=
  [.event ev,.attempt,.denyFirst ⟨none,none⟩,.resolv true,.gateway true]

def beginning (push : PendingRequest) : List Label := [.arrive push,.begin push,.pushNft none]

end OpenSandbox.Fleet
