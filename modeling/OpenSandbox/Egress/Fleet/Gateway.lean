import OpenSandbox.Library.Runs
import OpenSandbox.Egress.ControllerRetry
import OpenSandbox.Egress.Fleet.Plane

namespace OpenSandbox.Fleet

open Netip Policy Slots Registry MemoryRegistry Lifecycle Option Function KeyedLog

def fleetDNSProxyPort : String := "15353"

def redirectRules (g : Addr) : String :=
  let daddr := (if g.is4 then "ip" else "ip6") ++ " daddr " ++ g.text
  "\t\t" ++ daddr ++ " udp dport 53 redirect to :" ++ fleetDNSProxyPort ++ "\n" ++
    "\t\t" ++ daddr ++ " tcp dport 53 redirect to :" ++ fleetDNSProxyPort ++ "\n"

def listTable (table : List Addr) : Option String :=
  if table = [] then none
  else
    some ("table inet opensandbox_gateway_dns \x7b\n\tchain gw \x7b\n" ++
      "\t\ttype nat hook prerouting priority dstnat; policy accept;\n" ++
      String.join (table.map redirectRules) ++ "\t\x7d\n\x7d\n")

def Listed (table : List Addr) (g : Addr) : Prop :=
  ∃ out ∈ listTable table, g.text.toList <:+: out.toList

instance (table : List Addr) (g : Addr) : Decidable (Listed table g) :=
  inferInstanceAs (Decidable (∃ out ∈ listTable table, g.text.toList <:+: out.toList))

def setupGatewayDNSRedirect (table : List Addr) (g : Addr) (fault : Option String) :
    Except String (List Addr) :=
  if g.isValid = false then
    .error ("gateway DNS redirect: invalid gateway " ++ g.text ++ " or port " ++ fleetDNSProxyPort)
  else if Listed table g then .ok table
  else
    match fault with
    | none => .ok (table ++ [g])
    | some e => .error ("gateway DNS redirect install: " ++ e)

structure Fate where
  denyFirst : Option String
  resolv : Option String
  redirect : Option String
  nft : Option String

def Fate.canceled : Fate :=
  let e := some "context canceled"
  ⟨e,e,e,e⟩

structure Gateways where
  gatewayDNSRefs : Addr → Nat
  table : List Addr
  fates : List Fate
  pushes : List (Subject × NetworkPolicy)

namespace Gateways

def install (w : Gateways) (g : Addr) (fault : Option String) : Except String Unit × Gateways :=
  let setup := setupGatewayDNSRedirect w.table g fault
  let w' := { w with gatewayDNSRefs := (installGatewayDNSRedirect w.gatewayDNSRefs g setup.isOk).2 }
  if 0 < w.gatewayDNSRefs g then (.ok (), w')
  else
    match setup with
    | .ok table => (.ok (), { w' with table := table })
    | .error e => (.error e, w')

def release (w : Gateways) (g : Addr) : Gateways :=
  { w with
    gatewayDNSRefs := releaseGatewayDNSRedirect w.gatewayDNSRefs g
    table := if 0 < w.gatewayDNSRefs g - 1 then w.table else [] }

def next (w : Gateways) : Fate × Gateways :=
  match w.fates with
  | [] => (.canceled, w)
  | fate :: fates => (fate, { w with fates := fates })

def onRegistered (w : Gateways) (slot : Slot) : Except String Unit × Gateways :=
  match w.next with
  | (⟨some e,_,_,_⟩, w) | (⟨none,some e,_,_⟩, w) => (.error e, w)
  | (⟨none,none,fault,_⟩, w) => w.install slot.gateway fault

def onSlotUpdated (w : Gateways) (slot : Slot) : Except String Unit × Gateways :=
  match w.next with
  | (⟨_,some e,_,_⟩, w) => (.error e, w)
  | (⟨_,none,fault,nft⟩, w) =>
      match w.install slot.gateway fault, nft with
      | (.error e, w), _ | (.ok _, w), some e => (.error e, w)
      | (.ok _, w), none => (.ok (), w)

def onUnloaded (w : Gateways) (slot : Slot) : Except String Unit × Gateways :=
  match w.next with
  | (⟨_,_,_,some e⟩, w) => (.error e, w.release slot.gateway)
  | (⟨_,_,_,none⟩, w) => (.ok (), w.release slot.gateway)

end Gateways

def gatewayHooks : LifecycleHooks Gateways where
  onRegistered _ slot w := w.onRegistered slot
  onRegisteredComplete _ _ w := (w.pushes, { w with pushes := [] })
  onSlotUpdated _ slot w := w.onSlotUpdated slot
  onUnloaded _ slot w := w.onUnloaded slot

structure Driven where
  wait : WaitHelper (State × Controller Gateways)
  ctl : Controller Gateways
  latest : Subject → Option Slot
  stopped : Bool

inductive Drive where
  | event (ev : Event) (fates : List Fate) (pushes : List (Subject × NetworkPolicy))
  | push (s : Subject) (pol : NetworkPolicy)

def observeSlot (latest : Subject → Option Slot) : Event → Subject → Option Slot
  | .bound slot | .updated slot =>
      if slot.phase = .bound then Function.update latest (slotSubject slot) (some slot) else latest
  | .deleted slot => Function.update latest (slotSubject slot) none
  | .error _ => latest

def Driven.drive (d : Driven) : Drive → Driven
  | .event ev fates pushes =>
      let c : Controller Gateways :=
        ⟨d.ctl.reg,{ d.ctl.world with fates := fates, pushes := pushes }⟩
      let out := applyEvent d.wait (some gatewayHooks) c ev
      ⟨d.wait,out.2,observeSlot d.latest ev,!out.1.isOk⟩
  | .push s pol => { d with ctl := ⟨d.ctl.reg.step (.applyPolicy s (some pol)),d.ctl.world⟩ }

def Drives (d : Driven) (l : Drive) (d' : Driven) : Prop := d.stopped = false ∧ d' = d.drive l

def Driven.Started (d : Driven) : Prop :=
  ∃ wait alwaysDeny alwaysAllow fates pushes,
    d =
      ⟨wait,⟨newRegistry alwaysDeny alwaysAllow,⟨fun _ => 0,[],fates,pushes⟩⟩,fun _ => none,false⟩

structure Driven.Redirected (d : Driven) : Prop where
  gateways : ∀ s, (d.ctl.reg.bySubject s).isSome →
    ∃ slot, d.latest s = some slot ∧ slot.gateway ∈ d.ctl.world.table
  drained : (∀ s, d.ctl.reg.bySubject s = none) →
    d.ctl.world.table = [] ∧ ∀ g, d.ctl.world.gatewayDNSRefs g = 0

def Gateways.Inserts (w : Gateways) (g : Addr) : Prop :=
  w.gatewayDNSRefs g = 0 ∧ g.isValid = true ∧ ¬ Listed w.table g

def Fate.Enforces (f : Fate) : Prop :=
  f.denyFirst = none ∧ f.resolv = none ∧ f.redirect = none

def Fate.Reconciles (f : Fate) : Prop := f.resolv = none ∧ f.redirect = none

def Driven.Installs (d : Driven) (slot : Slot) (updated : Bool) (fates : List Fate) : Prop :=
  d.ctl.world.Inserts slot.gateway ∧
    (EnforcedAlready d.ctl.reg slot → updated = true ∧ ∃ fate ∈ fates.head?, fate.Reconciles) ∧
    (¬ EnforcedAlready d.ctl.reg slot →
      ∃ fate ∈ fates.take (d.wait.attempts registerBackoff), fate.Enforces)

def Driven.Alone (d : Driven) (s : Subject) : Prop := ∀ t, t ≠ s → d.ctl.reg.bySubject t = none

def Driven.ReleasesLast (d : Driven) (slot : Slot) : Prop :=
  (d.Alone (slotSubject slot) → d.ctl.world.gatewayDNSRefs slot.gateway ≤ 1 ∧
      ∀ g, g ≠ slot.gateway → d.ctl.world.gatewayDNSRefs g = 0) ∧
    (¬ d.Alone (slotSubject slot) → 1 < d.ctl.world.gatewayDNSRefs slot.gateway)

def KeepsRedirects (d : Driven) : Drive → Prop
  | .event (.bound slot) fates _ =>
      slot.phase = .bound → slot.gateway ∈ d.ctl.world.table ∨ d.Installs slot false fates
  | .event (.updated slot) fates _ =>
      slot.phase = .bound → slot.gateway ∈ d.ctl.world.table ∨ d.Installs slot true fates
  | .event (.deleted slot) _ _ =>
      (d.ctl.reg.bySubject (slotSubject slot)).isSome → d.ReleasesLast slot
  | _ => True

theorem mem_setup {table table' : List Addr} {g : Addr} {fault : Option String}
    (h : setupGatewayDNSRedirect table g fault = .ok table') (k : Addr) :
    k ∈ table' ↔ k ∈ table ∨ k = g ∧ (g.isValid = true ∧ ¬ Listed table g) ∧ fault = none := by
  unfold setupGatewayDNSRedirect at h
  split at h
  · cases h
  next hvalid =>
  split_ifs at h with hlisted
  · cases h
    simp [hlisted]
  split at h
  · cases h
    simp [hlisted,hvalid]
  · cases h

theorem setup_error {table : List Addr} {g : Addr} {fault : Option String} {e : String}
    (h : setupGatewayDNSRedirect table g fault = .error e) :
    ¬ ((g.isValid = true ∧ ¬ Listed table g) ∧ fault = none) := by
  rintro ⟨⟨hvalid,hlisted⟩,rfl⟩
  simp [setupGatewayDNSRedirect,hvalid,hlisted] at h

namespace Gateways

variable (w : Gateways) (g : Addr) (fault : Option String)

theorem mem_install (k : Addr) :
    k ∈ (w.install g fault).2.table ↔ k ∈ w.table ∨ k = g ∧ w.Inserts g ∧ fault = none := by
  unfold install
  by_cases hrefs : 0 < w.gatewayDNSRefs g
  · rw [if_pos hrefs]
    simp only [Inserts]
    constructor
    · exact .inl
    · rintro (hk | ⟨_,⟨hzero,_⟩,_⟩)
      · exact hk
      · omega
  have hzero : w.gatewayDNSRefs g = 0 := by omega
  rw [if_neg hrefs]
  cases hs : setupGatewayDNSRedirect w.table g fault with
  | ok table => simp [mem_setup hs,Inserts,hzero]
  | error e =>
    have hno := setup_error hs
    simp only [Inserts,hzero,true_and]
    tauto

theorem install_isOk (h : w.Inserts g) : (w.install g fault).1.isOk = true ↔ fault = none := by
  obtain ⟨hzero,hvalid,hlisted⟩ := h
  cases fault with
  | none | some e =>
    simp [install,hzero,setupGatewayDNSRedirect,hvalid,hlisted,Except.isOk,Except.toBool]

theorem install_error (h : (w.install g fault).1.isOk = false) : (w.install g fault).2 = w := by
  unfold install at h ⊢
  by_cases hrefs : 0 < w.gatewayDNSRefs g
  · rw [if_pos hrefs] at h
    cases h
  have hzero : w.gatewayDNSRefs g = 0 := by omega
  rw [if_neg hrefs] at h ⊢
  cases hs : setupGatewayDNSRedirect w.table g fault with
  | ok table =>
    rw [hs] at h
    cases h
  | error e => simp [installGatewayDNSRedirect,hzero,Except.isOk,Except.toBool]

theorem next_table : w.next.2.table = w.table := by
  unfold next
  split <;> rfl

theorem next_inserts : w.next.2.Inserts g ↔ w.Inserts g := by
  unfold next
  split <;> exact Iff.rfl

variable (slot : Slot)

theorem onRegistered_cases :
    (w.next.1.denyFirst = none ∧ w.next.1.resolv = none) ∧
        w.onRegistered slot = w.next.2.install slot.gateway w.next.1.redirect ∨
      ¬ w.next.1.Enforces ∧ ∃ e, w.onRegistered slot = (.error e, w.next.2) := by
  unfold onRegistered
  generalize w.next = out
  obtain ⟨⟨_ | d,_ | r,fault,nft⟩,w'⟩ := out
  · exact .inl ⟨⟨rfl,rfl⟩,rfl⟩
  all_goals exact .inr ⟨by simp [Fate.Enforces],_,rfl⟩

theorem mem_onRegistered (k : Addr) : k ∈ (w.onRegistered slot).2.table ↔
      k ∈ w.table ∨ k = slot.gateway ∧ w.Inserts slot.gateway ∧ w.next.1.Enforces := by
  rcases w.onRegistered_cases slot with ⟨⟨hdeny,hresolv⟩,h⟩ | ⟨hno,e,h⟩
  · simp [h,mem_install,next_table,next_inserts,Fate.Enforces,hdeny,hresolv]
  · simp [h,next_table,hno]

theorem onRegistered_isOk (hinserts : w.Inserts slot.gateway) :
    (w.onRegistered slot).1.isOk = true ↔ w.next.1.Enforces := by
  rcases w.onRegistered_cases slot with ⟨⟨hdeny,hresolv⟩,h⟩ | ⟨hno,e,h⟩
  · simp [h,install_isOk,next_inserts,hinserts,Fate.Enforces,hdeny,hresolv]
  · simp [h,hno,Except.isOk,Except.toBool]

theorem onRegistered_error (herror : (w.onRegistered slot).1.isOk = false) :
    (w.onRegistered slot).2 = w.next.2 := by
  rcases w.onRegistered_cases slot with ⟨_,h⟩ | ⟨_,e,h⟩
  · rw [h] at herror ⊢
    exact install_error _ _ _ herror
  · rw [h]

theorem mem_onSlotUpdated (k : Addr) : k ∈ (w.onSlotUpdated slot).2.table ↔
      k ∈ w.table ∨ k = slot.gateway ∧ w.Inserts slot.gateway ∧ w.next.1.Reconciles := by
  have htable := w.next_table
  have hinserts := w.next_inserts slot.gateway
  unfold onSlotUpdated
  generalize w.next = out at *
  obtain ⟨⟨d,r,fault,nft⟩,w'⟩ := out
  simp only at htable hinserts
  rcases r with _ | r
  · have hmem := mem_install w' slot.gateway fault k
    rw [htable,hinserts] at hmem
    simp only [Fate.Reconciles,true_and]
    rw [← hmem]
    rcases w'.install slot.gateway fault with ⟨_ | _,w''⟩
    · rfl
    · rcases nft with _ | e <;> rfl
  · simp [htable,Fate.Reconciles]

end Gateways

def Gateways.Enforced (w : Gateways) (slot : Slot) (attempts : Nat) : Prop :=
  w.Inserts slot.gateway ∧ ∃ fate ∈ w.fates.take attempts, fate.Enforces

theorem Gateways.enforced_succ (w : Gateways) (slot : Slot) (n : Nat) : w.Enforced slot (n + 1) ↔
      w.Inserts slot.gateway ∧ w.next.1.Enforces ∨ w.next.2.Enforced slot n := by
  unfold Gateways.Enforced
  rw [w.next_inserts]
  unfold Gateways.next
  split
  · next h => simp [h,Fate.canceled,Fate.Enforces]
  · next fate fates h =>
    simp only [h,List.take_succ_cons,List.exists_mem_cons_iff]
    exact and_or_left

theorem upTo_denying (slot : Slot) (n : Nat) {c : Controller Gateways}
    {m : Subject → Option Unit} (hno : ¬ EnforcedAlready c.reg slot)
    (hm : KeyedLog.write (registered c.reg) (slotSubject slot, some ()) = m) :
    ∃ done c', Retry.upTo (attempt gatewayHooks slot) n (.denying, c) = (done, .denying, c') ∧
      registered c'.reg = (if n = 0 then registered c.reg else m) ∧
      ∀ k, k ∈ c'.world.table ↔
        k ∈ c.world.table ∨ k = slot.gateway ∧ c.world.Enforced slot n := by
  induction n generalizing c with
  | zero => exact ⟨false,c,rfl,rfl,fun k => by simp [Gateways.Enforced]⟩
  | succ n ih =>
    obtain ⟨reg,hreg,⟨hactive,-⟩ | ⟨-,hno',ha⟩⟩ := attempt_cases gatewayHooks slot .denying c
    · exact absurd hactive hno
    rw [if_neg n.succ_ne_zero]
    cases hok : (c.world.onRegistered slot).1.isOk with
    | true =>
      have ha' : attempt gatewayHooks slot (.denying, c) =
          (true, .denying, ⟨reg,(c.world.onRegistered slot).2⟩) := by
        rw [ha,← hok]
        rfl
      refine ⟨true,_,Retry.upTo_first ha',hreg.trans hm,fun k => ?_⟩
      rw [Gateways.mem_onRegistered]
      refine or_congr_right (and_congr_right fun _ => ?_)
      rw [Gateways.enforced_succ]
      constructor
      · exact .inl
      rintro (h | ⟨hins,_⟩)
      · exact h
      · have hins := (c.world.next_inserts slot.gateway).mp hins
        exact ⟨hins,(c.world.onRegistered_isOk slot hins).mp hok⟩
    | false =>
      have ha' : attempt gatewayHooks slot (.denying, c) =
          (false, .denying, ⟨reg,c.world.next.2⟩) := by
        rw [ha,← hok,← c.world.onRegistered_error slot hok]
        rfl
      have hfails : ¬ (c.world.Inserts slot.gateway ∧ c.world.next.1.Enforces) := by
        rintro ⟨hins,hen⟩
        rw [(c.world.onRegistered_isOk slot hins).mpr hen] at hok
        cases hok
      have hagain : KeyedLog.write (registered reg) (slotSubject slot, some ()) = m := by
        rw [hreg,← hm]
        exact update_idem ..
      obtain ⟨done,c',hout,hreg',htable⟩ := @ih ⟨reg,c.world.next.2⟩ hno' hagain
      refine ⟨done,c',(Retry.upTo_again ha').trans hout,?_,fun k => ?_⟩
      · rw [hreg',hreg,hm,ite_self]
      · rw [htable,Gateways.enforced_succ,Gateways.next_table,or_iff_right hfails]

theorem registerSubject_table (wait : WaitHelper (State × Controller Gateways)) (slot : Slot)
    (hphase : slot.phase = .bound) (c : Controller Gateways) :
    ∃ r c', registerSubject wait (some gatewayHooks) slot c = (r, c') ∧
      registered c'.reg = KeyedLog.write (registered c.reg) (slotSubject slot, some ()) ∧
      (EnforcedAlready c.reg slot → r = .ok .active ∧ c'.world = { c.world with pushes := [] }) ∧
      (¬ EnforcedAlready c.reg slot → r ≠ .ok .active ∧
        ∀ k, k ∈ c'.world.table ↔ k ∈ c.world.table ∨
          k = slot.gateway ∧ c.world.Enforced slot (wait.attempts registerBackoff)) := by
  obtain ⟨n,hn,hwait⟩ := wait.registerBackoff_eq (attempt gatewayHooks slot) (.absent, c)
  rw [registerSubject,if_neg (not_not.mpr hphase),hwait,hn]
  by_cases h : EnforcedAlready c.reg slot
  · obtain ⟨reg,hreg,⟨-,ha⟩ | ⟨hno,-⟩⟩ := attempt_cases gatewayHooks slot .absent c
    · rw [Retry.upTo_first ha]
      refine ⟨_,_,rfl,?_,fun _ => ⟨rfl,rfl⟩,absurd h⟩
      rw [registeredComplete,registered_flush,hreg]
    · exact absurd h hno
  obtain ⟨done,c',hout,hreg,htable⟩ := upTo_denying slot (n + 1) h rfl
  have hstart : Retry.upTo (attempt gatewayHooks slot) (n + 1) (.absent, c) =
      (done, .denying, c') := hout
  rw [hstart]
  cases done with
  | false => exact ⟨_,c',rfl,hreg,fun h' => absurd h' h,fun _ => ⟨by simp,htable⟩⟩
  | true =>
    refine ⟨_,_,rfl,?_,fun h' => absurd h' h,fun _ => ⟨by simp,htable⟩⟩
    rw [registeredComplete,registered_flush]
    exact hreg

variable {d : Driven} {slot : Slot} (fates : List Fate) (pushes : List (Subject × NetworkPolicy))

theorem Driven.Installs.iff_enforced (h : ¬ EnforcedAlready d.ctl.reg slot) (updated : Bool) :
    d.Installs slot updated fates ↔
      Gateways.Enforced { d.ctl.world with fates := fates, pushes := pushes } slot
        (d.wait.attempts registerBackoff) := by
  constructor
  · rintro ⟨hins,_,hfates⟩
    exact ⟨hins,hfates h⟩
  · rintro ⟨hins,hfates⟩
    exact ⟨hins,fun hactive => absurd hactive h,fun _ => hfates⟩

structure Driven.Registers (d d' : Driven) (slot : Slot) (installs : Prop) : Prop where
  reg : registered d'.ctl.reg = KeyedLog.write (registered d.ctl.reg) (slotSubject slot, some ())
  table (k : Addr) :
    k ∈ d'.ctl.world.table ↔ k ∈ d.ctl.world.table ∨ k = slot.gateway ∧ installs

theorem bound_table (hphase : slot.phase = .bound) :
    d.Registers (d.drive (.event (.bound slot) fates pushes)) slot
      (d.Installs slot false fates) := by
  obtain ⟨r,c',hout,hreg,hactive,hfresh⟩ := registerSubject_table d.wait slot hphase
    ⟨d.ctl.reg,{ d.ctl.world with fates := fates, pushes := pushes }⟩
  have hctl : (d.drive (.event (.bound slot) fates pushes)).ctl = c' := by
    simp only [Driven.drive,applyEvent,hout]
    cases r <;> rfl
  refine ⟨by rw [hctl,hreg],fun k => ?_⟩
  rw [hctl]
  by_cases h : EnforcedAlready d.ctl.reg slot
  · rw [(hactive h).2]
    simp [Driven.Installs,h]
  · rw [(hfresh h).2,Driven.Installs.iff_enforced fates pushes h]

theorem updated_table (hphase : slot.phase = .bound) :
    d.Registers (d.drive (.event (.updated slot) fates pushes)) slot
      (d.Installs slot true fates) := by
  obtain ⟨r,c',hout,hreg,hactive,hfresh⟩ := registerSubject_table d.wait slot hphase
    ⟨d.ctl.reg,{ d.ctl.world with fates := fates, pushes := pushes }⟩
  by_cases h : EnforcedAlready d.ctl.reg slot
  · obtain ⟨rfl,hworld⟩ := hactive h
    have hctl : (d.drive (.event (.updated slot) fates pushes)).ctl =
        ⟨c'.reg,(c'.world.onSlotUpdated slot).2⟩ := by
      simp only [Driven.drive,applyEvent,hout]
      rfl
    refine ⟨by rw [hctl,hreg],fun k => ?_⟩
    rw [hctl,Gateways.mem_onSlotUpdated,hworld]
    simp only [Driven.Installs,h,Gateways.next,not_true_eq_false,true_and,false_implies,
      and_true,true_implies]
    cases fates with
    | nil => simp [Fate.canceled,Fate.Reconciles]
    | cons fate fates => simp [Gateways.Inserts]
  obtain ⟨hr,htable⟩ := hfresh h
  have hctl : (d.drive (.event (.updated slot) fates pushes)).ctl = c' := by
    simp only [Driven.drive,applyEvent,hout]
    rcases r with e | _ | _ | _
    · rfl
    · rfl
    · rfl
    · exact absurd rfl hr
  refine ⟨by rw [hctl,hreg],fun k => ?_⟩
  rw [hctl,htable,Driven.Installs.iff_enforced fates pushes h]

theorem Driven.Registers.redirected {d' : Driven} {installs : Prop}
    (hregisters : d.Registers d' slot installs) (hd : d.Redirected)
    (hlatest : d'.latest = Function.update d.latest (slotSubject slot) (some slot)) :
    d'.Redirected ↔ slot.gateway ∈ d.ctl.world.table ∨ installs := by
  obtain ⟨hreg,htable⟩ := hregisters
  have hself : (d'.ctl.reg.bySubject (slotSubject slot)).isSome = true := by
    rw [← registered_isSome,hreg,write_same rfl]
    rfl
  constructor
  · intro h
    obtain ⟨latest,hlast,hmem⟩ := h.gateways _ hself
    rw [hlatest,update_self] at hlast
    cases hlast
    rw [htable] at hmem
    exact hmem.imp_right And.right
  intro h
  refine ⟨fun s hs => ?_,fun hnone => ?_⟩
  · by_cases hsub : s = slotSubject slot
    · subst hsub
      refine ⟨slot,by rw [hlatest,update_self],(htable _).mpr ?_⟩
      exact h.imp_right fun hi => ⟨rfl,hi⟩
    · rw [← registered_isSome,hreg,write_other (Ne.symm hsub),registered_isSome] at hs
      obtain ⟨latest,hlast,hmem⟩ := hd.gateways s hs
      exact ⟨latest,by rw [hlatest,update_of_ne hsub,hlast],(htable _).mpr (.inl hmem)⟩
  · rw [hnone] at hself
    cases hself

theorem deleted_absent (h : d.ctl.reg.bySubject (slotSubject slot) = none) :
    let d' := d.drive (.event (.deleted slot) fates pushes)
    d'.ctl.reg = d.ctl.reg ∧ d'.ctl.world.table = d.ctl.world.table ∧
      d'.ctl.world.gatewayDNSRefs = d.ctl.world.gatewayDNSRefs := by
  simp [Driven.drive,applyEvent,unregister,h,unload]

theorem deleted_present (hd : Present d.ctl.reg)
    (h : (d.ctl.reg.bySubject (slotSubject slot)).isSome = true) :
    let d' := d.drive (.event (.deleted slot) fates pushes)
    d'.ctl.reg.bySubject = update d.ctl.reg.bySubject (slotSubject slot) none ∧
      d'.ctl.world.table = (d.ctl.world.release slot.gateway).table ∧
      d'.ctl.world.gatewayDNSRefs = (d.ctl.world.release slot.gateway).gatewayDNSRefs := by
  obtain ⟨e,he⟩ := isSome_iff_exists.mp h
  have hstate := hd _ e he
  have hby := d.ctl.reg.bySubject_unregister (slotSubject slot)
  have hprev : (d.ctl.reg.unregister (slotSubject slot)).1 = e.state := by
    simp only [unregister,he]
  have hunload : ∀ c : Controller Gateways, (unload (some gatewayHooks) slot e.state c).2 =
      ⟨c.reg,(c.world.onUnloaded slot).2⟩ := by
    intro c
    cases hs : e.state with
    | absent => exact absurd hs hstate
    | denying | active => rfl
  simp only [Driven.drive,applyEvent,hprev,hunload]
  refine ⟨hby,?_⟩
  unfold Gateways.onUnloaded Gateways.next
  cases fates with
  | nil => exact ⟨rfl,rfl⟩
  | cons fate fates =>
    obtain ⟨_,_,_,_ | _⟩ := fate
    all_goals exact ⟨rfl,rfl⟩

theorem Gateways.release_zero_iff (w : Gateways) (g : Addr) :
    (∀ h, (w.release g).gatewayDNSRefs h = 0) ↔
      w.gatewayDNSRefs g ≤ 1 ∧ ∀ h, h ≠ g → w.gatewayDNSRefs h = 0 := by
  have hsame : (w.release g).gatewayDNSRefs g = w.gatewayDNSRefs g - 1 := update_self ..
  have hother {h : Addr} (hh : h ≠ g) :
      (w.release g).gatewayDNSRefs h = w.gatewayDNSRefs h := update_of_ne hh ..
  constructor
  · intro h
    have hg := h g
    exact ⟨by omega,fun k hk => by rw [← hother hk,h k]⟩
  rintro ⟨hone,hzero⟩ k
  by_cases hk : k = g
  · subst hk
    omega
  · rw [hother hk,hzero k hk]

section Unloads

variable {d d' : Driven} {slot : Slot}
  (hreg : d'.ctl.reg.bySubject = Function.update d.ctl.reg.bySubject (slotSubject slot) none)
  (htable : d'.ctl.world.table = (d.ctl.world.release slot.gateway).table)

include hreg htable

theorem redirected_last (halone : d.Alone (slotSubject slot)) (hrefs : d'.ctl.world.gatewayDNSRefs =
      (d.ctl.world.release slot.gateway).gatewayDNSRefs) :
    d'.Redirected ↔ d.ctl.world.gatewayDNSRefs slot.gateway ≤ 1 ∧
      ∀ g, g ≠ slot.gateway → d.ctl.world.gatewayDNSRefs g = 0 := by
  have hnone (t : Subject) : d'.ctl.reg.bySubject t = none := by
    rw [hreg]
    by_cases ht : t = slotSubject slot
    · rw [ht,update_self]
    · rw [update_of_ne ht,halone t ht]
  rw [← Gateways.release_zero_iff,← hrefs]
  constructor
  · exact fun h => (h.drained hnone).2
  intro hzero
  refine ⟨fun t ht => ?_,fun _ => ⟨?_,hzero⟩⟩
  · rw [hnone t] at ht
    cases ht
  · rw [hrefs,Gateways.release_zero_iff] at hzero
    rw [htable]
    exact if_neg (by omega)

theorem redirected_shared (hd : d.Redirected) (halone : ¬ d.Alone (slotSubject slot))
    (hlatest : d'.latest = Function.update d.latest (slotSubject slot) none) :
    d'.Redirected ↔ 1 < d.ctl.world.gatewayDNSRefs slot.gateway := by
  have hothers {t : Subject} (ht : t ≠ slotSubject slot) :
      d'.ctl.reg.bySubject t = d.ctl.reg.bySubject t := by
    rw [hreg,update_of_ne ht]
  obtain ⟨t,ht,hsome⟩ : ∃ t, t ≠ slotSubject slot ∧ (d.ctl.reg.bySubject t).isSome = true := by
    simpa [Driven.Alone,isSome_iff_ne_none] using halone
  constructor
  · intro h
    obtain ⟨_,_,hmem⟩ := h.gateways t (by rw [hothers ht,hsome])
    by_contra hle
    rw [htable,Gateways.release,if_neg (by omega)] at hmem
    cases hmem
  intro hmany
  have htable' : d'.ctl.world.table = d.ctl.world.table := htable.trans (if_pos (by omega))
  refine ⟨fun u hu => ?_,fun hnone => ?_⟩
  · have hne : u ≠ slotSubject slot := by
      rintro rfl
      rw [hreg,update_self] at hu
      cases hu
    rw [hothers hne] at hu
    rw [htable',hlatest,update_of_ne hne]
    exact hd.gateways u hu
  · rw [← hothers ht,hnone] at hsome
    cases hsome

end Unloads

theorem redirected_same (hd : d.Redirected) {d' : Driven}
    (hreg : d'.ctl.reg.bySubject = d.ctl.reg.bySubject)
    (hlatest : ∀ s, (d.ctl.reg.bySubject s).isSome = true → d'.latest s = d.latest s)
    (htable : d'.ctl.world.table = d.ctl.world.table)
    (hrefs : d'.ctl.world.gatewayDNSRefs = d.ctl.world.gatewayDNSRefs) : d'.Redirected := by
  refine ⟨fun s hs => ?_,fun hnone => ?_⟩
  · rw [hreg] at hs
    rw [hlatest s hs,htable]
    exact hd.gateways s hs
  · rw [hreg] at hnone
    rw [htable,hrefs]
    exact hd.drained hnone

theorem redirected_slot (hd : d.Redirected) {ev : Event} {installs : Prop}
    (hev : ev = .bound slot ∨ ev = .updated slot)
    (hregisters : slot.phase = .bound →
      d.Registers (d.drive (.event ev fates pushes)) slot installs) :
    (d.drive (.event ev fates pushes)).Redirected ↔
      (slot.phase = .bound → slot.gateway ∈ d.ctl.world.table ∨ installs) := by
  have hlatest : (d.drive (.event ev fates pushes)).latest = if slot.phase = .bound then
      Function.update d.latest (slotSubject slot) (some slot) else d.latest := by
    rcases hev with rfl | rfl <;> rfl
  by_cases hphase : slot.phase = .bound
  · rw [if_pos hphase] at hlatest
    simpa [hphase] using (hregisters hphase).redirected hd hlatest
  have hout (c : Controller Gateways) :
      registerSubject d.wait (some gatewayHooks) slot c = (.ok .absent, c) := if_pos hphase
  have hctl (c : Controller Gateways) : (applyEvent d.wait (some gatewayHooks) c ev).2 = c := by
    rcases hev with rfl | rfl
    · rw [applyEvent,hout]
    · rw [applyEvent,hout]
      rfl
  rw [if_neg hphase] at hlatest
  refine iff_of_true (redirected_same hd ?_ (fun s _ => congrFun hlatest s) ?_ ?_)
    fun h => absurd h hphase
  all_goals rw [Driven.drive,hctl]

theorem redirected_iff (hd : d.Redirected) (hp : Present d.ctl.reg) (l : Drive) :
    (d.drive l).Redirected ↔ KeepsRedirects d l := by
  cases l with
  | push s pol =>
    refine iff_of_true ⟨fun t ht => ?_,fun hnone => hd.drained fun t => ?_⟩ trivial
    · rw [← registered_isSome,Driven.drive,registered_applyPolicy,registered_isSome] at ht
      exact hd.gateways t ht
    have hstep := congrFun (registered_applyPolicy d.ctl.reg s (some pol)) t
    have ht := hnone t
    simp only [Driven.drive] at ht
    simpa [registered,ht] using hstep
  | event ev fates pushes =>
    cases ev with
    | bound slot => exact redirected_slot _ _ hd (.inl rfl) (bound_table fates pushes)
    | updated slot => exact redirected_slot _ _ hd (.inr rfl) (updated_table fates pushes)
    | deleted slot =>
      cases hsome : d.ctl.reg.bySubject (slotSubject slot) with
      | none =>
        obtain ⟨hreg,htable,hrefs⟩ := deleted_absent fates pushes hsome
        simp only [KeepsRedirects,hsome,isSome_none,Bool.false_eq_true,false_implies,iff_true]
        refine redirected_same hd (congrArg _ hreg) (fun s hs => ?_) htable hrefs
        refine update_of_ne ?_ ..
        rintro rfl
        rw [hsome] at hs
        cases hs
      | some e =>
        have hsome' : (d.ctl.reg.bySubject (slotSubject slot)).isSome = true := by simp [hsome]
        obtain ⟨hreg,htable,hrefs⟩ := deleted_present fates pushes hp hsome'
        simp only [KeepsRedirects,hsome',true_implies,Driven.ReleasesLast]
        by_cases halone : d.Alone (slotSubject slot)
        · simp only [halone,true_implies,not_true_eq_false,false_implies,and_true]
          exact redirected_last hreg htable halone hrefs
        · simp only [halone,false_implies,not_false_eq_true,true_implies,true_and]
          exact redirected_shared hreg htable hd halone rfl
    | error e => exact iff_of_true (redirected_same hd rfl (fun _ _ => rfl) rfl rfl) trivial

structure Driven.Settled (d : Driven) : Prop where
  redirected : d.Redirected
  present : Present d.ctl.reg

theorem Driven.Started.settled (h : d.Started) : d.Settled := by
  obtain ⟨_,_,_,_,_,rfl⟩ := h
  exact ⟨⟨nofun,fun _ => ⟨rfl,fun _ => rfl⟩⟩,nofun⟩

theorem present_drive (h : Present d.ctl.reg) (l : Drive) : Present (d.drive l).ctl.reg := by
  cases l with
  | push s pol => exact h.step _
  | event ev fates pushes =>
    have hstep : ∀ r op, Present r → Present (r.step op) := fun r op hr => hr.step op
    exact applyEvent_preserves d.wait hstep
      (c := ⟨d.ctl.reg,{ d.ctl.world with fates := fates, pushes := pushes }⟩) h ev

theorem gateways_redirected_iff {d : Driven} (h : d.Started) (run : List Drive) :
    Runs.Always Drives Driven.Redirected d run ↔ Runs.Guarded Drives KeepsRedirects d run := by
  have hP : ∀ d, Driven.Settled d → Driven.Redirected d := fun _ hd => hd.redirected
  refine Runs.always_iff_guarded hP ?_ ?_ h.settled run
  · rintro d l _ hd hok ⟨_,rfl⟩
    exact ⟨(redirected_iff hd.redirected hd.present l).mpr hok,present_drive hd.present l⟩
  rintro d l d' hd hs hno
  refine ⟨d',hs,?_⟩
  obtain ⟨_,rfl⟩ := hs
  rwa [redirected_iff hd.redirected hd.present]

def bareFleet : Driven :=
  ⟨.perStep,⟨newRegistry [] [],⟨fun _ => 0,[],[],[]⟩⟩,fun _ => none,false⟩

theorem started_bareFleet : bareFleet.Started := ⟨_,[],[],[],[],rfl⟩

def boundSlot (uid : String) (ip gateway : BitVec 32) : Slot :=
  ⟨uid,.bound,⟨uid,1,1⟩,.v4 ip,"/run/netns/" ++ uid,"veth-" ++ uid,.v4 gateway,
    ⟨.v4 gateway,24⟩,"/run/dns/" ++ uid⟩

def Fate.fine : Fate := ⟨none,none,none,none⟩

def boundFine (slot : Slot) : Drive := .event (.bound slot) [.fine] []

def slotA : Slot := boundSlot "a" 0x0a000002 0x0a000001

def slotB : Slot := boundSlot "b" 0x0a000003 0x0a000001

def slotC : Slot := boundSlot "c" 0x0a000102 0x0a000101

theorem gateways_redirected_sharedGateway : bareFleet.Started ∧
      Runs.Always Drives Driven.Redirected bareFleet [boundFine slotA,boundFine slotB] := by
  refine ⟨started_bareFleet,(gateways_redirected_iff started_bareFleet _).mpr ?_⟩
  rintro _ ⟨_,rfl⟩
  refine ⟨fun _ => .inr ⟨?_,?_,fun _ =>
    ⟨.fine,.head _,rfl,rfl,rfl⟩⟩,?_⟩
  · exact ⟨rfl,rfl,by decide +kernel⟩
  · rintro ⟨_,he,_⟩
    cases he
  · rintro _ ⟨_,rfl⟩
    refine ⟨fun _ => .inl ?_,trivial⟩
    decide +kernel

def twoGateways : Driven := (bareFleet.drive (boundFine slotA)).drive (boundFine slotC)

def deletedFine (slot : Slot) : Drive := .event (.deleted slot) [.fine] []

theorem unload_empties_shared_table :
    bareFleet.Started ∧ Drives bareFleet (boundFine slotA) (bareFleet.drive (boundFine slotA)) ∧
      Drives (bareFleet.drive (boundFine slotA)) (boundFine slotC) twoGateways ∧
      Drives twoGateways (deletedFine slotA) (twoGateways.drive (deletedFine slotA)) ∧
      twoGateways.ctl.world.table = [slotA.gateway,slotC.gateway] ∧
      ((twoGateways.drive (deletedFine slotA)).ctl.reg.bySubject (slotSubject slotC)).isSome ∧
      (twoGateways.drive (deletedFine slotA)).latest (slotSubject slotC) = some slotC ∧
      (twoGateways.drive (deletedFine slotA)).ctl.world.table = [] ∧
      ¬ (twoGateways.drive (deletedFine slotA)).Redirected := by
  have hrun : (bareFleet.drive (boundFine slotA)).stopped = false ∧ twoGateways.stopped = false ∧
      twoGateways.ctl.world.table = [slotA.gateway,slotC.gateway] ∧
      ((twoGateways.drive (deletedFine slotA)).ctl.reg.bySubject (slotSubject slotC)).isSome ∧
      (twoGateways.drive (deletedFine slotA)).latest (slotSubject slotC) = some slotC ∧
      (twoGateways.drive (deletedFine slotA)).ctl.world.table = [] := by
    decide +kernel
  obtain ⟨hfirst,hsecond,htwo,hkept,hlatest,hempty⟩ := hrun
  refine ⟨started_bareFleet,⟨rfl,rfl⟩,⟨hfirst,rfl⟩,⟨hsecond,rfl⟩,htwo,hkept,hlatest,hempty,?_⟩
  intro h
  obtain ⟨_,_,hmem⟩ := h.gateways _ hkept
  rw [hempty] at hmem
  cases hmem

end OpenSandbox.Fleet
