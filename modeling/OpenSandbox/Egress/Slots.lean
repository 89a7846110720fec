import OpenSandbox.Library.GoText
import OpenSandbox.Egress.Netip
import Mathlib.Data.Finmap

namespace OpenSandbox.Slots

open Netip List

inductive Phase where
  | bound
  | clean
  | destroying
  deriving DecidableEq

structure Owner where
  sandboxUID : String
  instanceGeneration : Nat
  assignmentAttempt : Nat
  deriving DecidableEq

structure Slot where
  id : String
  phase : Phase
  owner : Owner
  ip : Addr
  hostNetnsPath : String
  hostVeth : String
  gateway : Addr
  privateCIDR : Prefix
  dnsPath : String
  deriving DecidableEq

inductive Event where
  | bound (slot : Slot)
  | updated (slot : Slot)
  | deleted (slot : Slot)
  | error (err : String)

structure RawSlot where
  id : String
  phase : String
  sandboxUID : String
  instanceGeneration : Nat
  assignmentAttempt : Nat
  ip : String
  hostNetnsPath : String
  hostVeth : String
  gateway : String
  privateCidr : String
  dnsPath : String

def blank (s : String) : Bool := GoText.trimSpace s = ""

inductive ParseError where
  | missingID
  | missing (id field : String)
  | unknownPhase (id raw : String)
  | invalid (id field raw : String)

def parsePhase (id raw : String) : Except ParseError Phase :=
  if raw = "Bound" then .ok .bound
  else if raw = "Clean" then .ok .clean
  else if raw = "Destroying" then .ok .destroying
  else .error (.unknownPhase id raw)

def required (id field raw : String) : Except ParseError Unit :=
  if blank raw then .error (.missing id field) else .ok ()

def parseIP (id field raw : String) : Except ParseError Addr :=
  match parseAddr (GoText.trimSpace raw) with
  | some a => .ok a
  | none => .error (.invalid id field raw)

def parseCIDR (id raw : String) : Except ParseError Prefix :=
  if blank raw then .ok ⟨.invalid,0⟩
  else match parsePrefix (GoText.trimSpace raw) with
    | some p => .ok p
    | none => .error (.invalid id "privateCidr" (GoText.trimSpace raw))

def unboundSlot (r : RawSlot) (phase : Phase) : Slot :=
  ⟨r.id,phase,⟨r.sandboxUID,r.instanceGeneration,r.assignmentAttempt⟩,
    .invalid,"","",.invalid,⟨.invalid,0⟩,""⟩

def parseNetwork (r : RawSlot) (slot : Slot) : Except ParseError Slot := do
  let ip ← parseIP r.id "ip" r.ip
  let gateway ← parseIP r.id "gateway" r.gateway
  required r.id "hostNetnsPath" r.hostNetnsPath
  required r.id "hostVeth" r.hostVeth
  required r.id "dnsPath" r.dnsPath
  let privateCIDR ← parseCIDR r.id r.privateCidr
  return { slot with ip, hostNetnsPath := r.hostNetnsPath, hostVeth := r.hostVeth, gateway,
                     privateCIDR, dnsPath := r.dnsPath }

def parse (r : RawSlot) : Except ParseError Slot := do
  if blank r.id then throw .missingID
  required r.id "owner.sandboxUid" r.sandboxUID
  let phase ← parsePhase r.id r.phase
  if phase = .bound then parseNetwork r (unboundSlot r phase) else return unboundSlot r phase

def leasedSlot (id : String) (phase : Phase) (owner : Owner) (ip : BitVec 32) (veth : String) :
    Slot :=
  ⟨id,phase,owner,.v4 ip,"/var/run/netns/" ++ id,veth,.v4 0x0A000001,⟨.invalid,0⟩,
    "/run/fast-sandbox/network/dns/" ++ id⟩

def slotEqual (a b : Slot) : Bool :=
  a.phase = b.phase && a.owner = b.owner && a.ip = b.ip && a.hostNetnsPath = b.hostNetnsPath &&
    a.hostVeth = b.hostVeth && a.gateway = b.gateway && a.privateCIDR = b.privateCIDR &&
    a.dnsPath = b.dnsPath

theorem slotEqual_iff {a b : Slot} (h : a.id = b.id) : slotEqual a b = true ↔ a = b := by
  cases a; cases b
  simp_all [slotEqual,and_assoc]

structure Snapshot where
  slots : Finmap fun _ : String => Slot
  keyed : ∀ id slot, slots.lookup id = some slot → slot.id = id

namespace Snapshot

def at? (S : Snapshot) (id : String) : Option Slot := S.slots.lookup id

def empty : Snapshot := ⟨∅,by simp⟩

@[simp] theorem at?_empty (id : String) : empty.at? id = none := rfl

theorem id_of_at? {S : Snapshot} {id : String} {slot : Slot} (h : S.at? id = some slot) :
    slot.id = id := S.keyed id slot h

def insert (S : Snapshot) (slot : Slot) : Snapshot where
  slots := S.slots.insert slot.id slot
  keyed := by
    intro id s h
    by_cases hid : id = slot.id
    · subst hid
      rw [Finmap.lookup_insert] at h
      exact congrArg Slot.id (Option.some.inj h).symm
    · rw [Finmap.lookup_insert_of_ne _ hid] at h
      exact S.keyed id s h

theorem at?_insert (S : Snapshot) (slot : Slot) (id : String) :
    (S.insert slot).at? id = if id = slot.id then some slot else S.at? id := by
  split_ifs with h
  · subst h; exact Finmap.lookup_insert _
  · exact Finmap.lookup_insert_of_ne _ h

def Order (S : Snapshot) (ids : List String) : Prop :=
  ids.Nodup ∧ ∀ id, id ∈ ids ↔ (S.at? id).isSome

theorem exists_order (S : Snapshot) : ∃ ids, S.Order ids := by
  refine ⟨S.slots.keys.toList,S.slots.keys.nodup_toList,fun id => ?_⟩
  rw [Finset.mem_toList,Finmap.mem_keys,at?,Finmap.lookup_isSome]

theorem exists_order_last {S : Snapshot} {id : String} (h : (S.at? id).isSome) :
    ∃ ids, S.Order (ids ++ [id]) := by
  obtain ⟨ids,hn,hm⟩ := S.exists_order
  have hid : id ∈ ids := (hm id).mpr h
  have hp : (ids.erase id ++ [id]).Perm ids :=
    (perm_append_singleton id _).trans (perm_cons_erase hid).symm
  exact ⟨ids.erase id,hp.nodup_iff.mpr hn,fun x => (hp.mem_iff).trans (hm x)⟩

theorem order_empty : empty.Order [] := ⟨nodup_nil,by simp⟩

theorem order_single (slot : Slot) : (empty.insert slot).Order [slot.id] := by
  refine ⟨nodup_singleton _,fun id => ?_⟩
  by_cases h : id = slot.id <;> simp [at?_insert,h]

end Snapshot

def snapshot (slots : List Slot) : Snapshot := slots.foldl Snapshot.insert Snapshot.empty

def curEvents (old : Option Slot) (slot : Slot) : List Event :=
  match old with
  | none => if slot.phase = .bound then [.bound slot] else []
  | some old =>
      if old.phase = .bound ∧ slot.phase ≠ .bound then [.deleted slot]
      else if old.phase = .bound ∧ slotEqual old slot = false then [.updated slot]
      else []

def prevEvents (old : Slot) (cur : Option Slot) : List Event :=
  if cur = none ∧ old.phase = .bound then [.deleted old] else []

def emitDiffs (prev cur : Snapshot) (curOrder prevOrder : List String) : List Event :=
  curOrder.flatMap (fun id => (cur.at? id).elim [] (curEvents (prev.at? id))) ++
    prevOrder.flatMap (fun id => (prev.at? id).elim [] fun old => prevEvents old (cur.at? id))

end OpenSandbox.Slots
