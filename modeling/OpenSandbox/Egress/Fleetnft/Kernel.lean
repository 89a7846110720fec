import OpenSandbox.Library.Ruleset
import OpenSandbox.Egress.Fleetnft.Names

namespace OpenSandbox.Fleetnft

open Netip Ruleset

inductive Proto where
  | tcp
  | udp
  | other (number : Nat)
  deriving DecidableEq

structure Packet where
  src : Addr
  dst : Addr
  iif : String
  proto : Proto
  dport : Nat
  established : Bool

def Family.carries : Family → Addr → Bool
  | .v4, a => a.is4
  | .v6, a => a.is6

inductive SetElem where
  | net (p : Prefix)
  | lease (a : Addr) (timeout : Int)
  deriving DecidableEq

def SetElem.covers : SetElem → Addr → Bool
  | .net p, a => p.contains a
  | .lease b _, a => b = a

def SetElem.addr : SetElem → Addr
  | .net p => p.ip
  | .lease a _ => a

inductive SetFlags where
  | interval
  | timeout (seconds : Nat)
  deriving DecidableEq

structure NftSet where
  type : Family
  flags : SetFlags
  elems : List SetElem

inductive Cond where
  | always
  | established
  | dport (proto : Proto) (port : Nat)
  | source (ip : Addr) (veth : String)
  | daddr (fam : Family) (set : String)
  deriving DecidableEq

abbrev NftRule := Rule Cond String

structure Table where
  base : Option String
  chains : String → Option (List NftRule)
  sets : String → Option NftSet

def Table.new : Table := ⟨none,fun _ => none,fun _ => none⟩

def inSet (sets : String → Option NftSet) (set : String) (a : Addr) : Bool :=
  (sets set).any fun s => s.elems.any (·.covers a)

def Cond.holds (sets : String → Option NftSet) (p : Packet) : Cond → Bool
  | .always => true
  | .established => p.established
  | .dport proto port => p.proto = proto && p.dport = port
  | .source ip veth => p.src = ip && p.iif = veth
  | .daddr fam set => fam.carries p.dst && inSet sets set p.dst

abbrev Kernel := Option Table

def jumpDepth : Nat := 16

def Table.chainVerdict (t : Table) (depth : Nat) (chain : String) (p : Packet) : Option Verdict :=
  eval (Cond.holds t.sets p) t.chains depth chain

def verdict (k : Kernel) (p : Packet) : Verdict :=
  match k.bind Table.base, k with
  | some chain, some t => (t.chainVerdict jumpDepth chain p).getD .drop
  | _, _ => .accept

inductive Stmt where
  | addBaseChain (chain : String)
  | addChain (chain : String)
  | flushChain (chain : String)
  | addRule (chain : String) (rule : NftRule)
  | addSet (set : String) (type : Family) (flags : SetFlags)
  | flushSet (set : String)
  | addElement (set : String) (elems : List SetElem)
  deriving DecidableEq

inductive Cmd where
  | deleteTable
  | addTable
  | stmt (s : Stmt)
  deriving DecidableEq

def noSuchFile : String := "Error: No such file or directory"
def fileExists : String := "Error: File exists"
def syntaxError : String := "Error: syntax error, unexpected string"
def conflictingIntervals : String := "Error: conflicting intervals specified"

def need (b : Bool) (err : String) : Except String Unit := if b then .ok () else .error err

def plainAddr (a : Addr) : Bool := a.isValid && a.withoutZone = a

def Cond.check (t : Table) : Cond → Except String Unit
  | .source ip _ => need (plainAddr ip) syntaxError
  | .daddr _ set => need (t.sets set).isSome noSuchFile
  | _ => .ok ()

def overlaps : SetElem → SetElem → Bool
  | .net p, .net q => decide (p ≠ q) && (p.contains q.ip || q.contains p.ip)
  | _, _ => false

def Stmt.check (t : Table) : Stmt → Except String Unit
  | .addBaseChain _ | .addChain _ => .ok ()
  | .flushChain chain => need (t.chains chain).isSome noSuchFile
  | .addRule chain rule => do
      need (t.chains chain).isSome noSuchFile
      rule.cond.check t
      match rule.target with
      | .jump target => need (t.chains target).isSome noSuchFile
      | .verdict _ => .ok ()
  | .addSet set type flags =>
      need ((t.sets set).all fun s => s.type = type && s.flags = flags) fileExists
  | .flushSet set => need (t.sets set).isSome noSuchFile
  | .addElement set elems =>
      match t.sets set with
      | none => .error noSuchFile
      | some s => do
          need (elems.all fun e => plainAddr e.addr && s.type.carries e.addr) syntaxError
          need (elems.all fun e => (s.elems ++ elems).all fun e' => !overlaps e e')
            conflictingIntervals

def Stmt.effect (t : Table) : Stmt → Table
  | .addBaseChain chain =>
      { t with
        base := some chain
        chains := Function.update t.chains chain (some ((t.chains chain).getD [])) }
  | .addChain chain =>
      { t with chains := Function.update t.chains chain (some ((t.chains chain).getD [])) }
  | .flushChain chain =>
      { t with chains := Function.update t.chains chain ((t.chains chain).map fun _ => []) }
  | .addRule chain rule =>
      { t with chains := Function.update t.chains chain ((t.chains chain).map (· ++ [rule])) }
  | .addSet set type flags =>
      { t with sets := Function.update t.sets set (some ((t.sets set).getD ⟨type,flags,[]⟩)) }
  | .flushSet set =>
      { t with
        sets := Function.update t.sets set ((t.sets set).map fun s => { s with elems := [] }) }
  | .addElement set elems =>
      { t with
        sets := Function.update t.sets set
          ((t.sets set).map fun s => { s with elems := s.elems ++ elems }) }

def Cmd.check (k : Kernel) : Cmd → Except String Unit
  | .deleteTable => need k.isSome noSuchFile
  | .addTable => .ok ()
  | .stmt s => match k with
      | none => .error noSuchFile
      | some t => s.check t

def Cmd.effect (k : Kernel) : Cmd → Kernel
  | .deleteTable => none
  | .addTable => some (k.getD .new)
  | .stmt s => k.map (s.effect ·)

def batch (k : Kernel) : List Cmd → Except String Kernel
  | [] => .ok k
  | c :: cs => match c.check k with
      | .error e => .error e
      | .ok _ => batch (c.effect k) cs

def run (fault : Option String) (k : Kernel) (script : List Cmd) : Except String Unit × Kernel :=
  match fault, batch k script with
  | some e, _ | none, .error e => (.error e, k)
  | none, .ok k' => (.ok (), k')

theorem batch_effect {k k' : Kernel} {script : List Cmd} (h : batch k script = .ok k') :
    k' = script.foldl Cmd.effect k := by
  induction script generalizing k with
  | nil => cases h; rfl
  | cons c cs ih =>
    rw [batch] at h
    split at h
    · cases h
    · exact ih h

theorem run_cases (fault : Option String) (k : Kernel) (script : List Cmd) :
    run fault k script = (.ok (), script.foldl Cmd.effect k) ∨
      ∃ e, run fault k script = (.error e, k) := by
  unfold run
  split
  · exact .inr ⟨_,rfl⟩
  · exact .inr ⟨_,rfl⟩
  · next k' hb =>
    rw [batch_effect hb]
    exact .inl rfl

def stmts (frag : List Stmt) : List Cmd := frag.map .stmt

theorem effect_stmts (k : Kernel) (frag : List Stmt) :
    (stmts frag).foldl Cmd.effect k = k.map (frag.foldl Stmt.effect ·) := by
  induction frag generalizing k with
  | nil => cases k <;> rfl
  | cons s frag ih =>
    refine (ih _).trans ?_
    cases k <;> rfl

def Stmt.chain? : Stmt → Option String
  | .addBaseChain c | .addChain c | .flushChain c | .addRule c _ => some c
  | _ => none

def Stmt.set? : Stmt → Option String
  | .addSet n _ _ | .flushSet n | .addElement n _ => some n
  | _ => none

theorem effect_chains_other {t : Table} {s : Stmt} {c : String} (h : s.chain? ≠ some c) :
    (s.effect t).chains c = t.chains c := by
  cases s <;> simp_all [Stmt.effect,Stmt.chain?,eq_comm]

theorem effect_sets_other {t : Table} {s : Stmt} {n : String} (h : s.set? ≠ some n) :
    (s.effect t).sets n = t.sets n := by
  cases s <;> simp_all [Stmt.effect,Stmt.set?,eq_comm]

theorem foldl_chains_other {frag : List Stmt} {c : String} (h : ∀ s ∈ frag, s.chain? ≠ some c)
    (t : Table) : (frag.foldl Stmt.effect t).chains c = t.chains c := by
  induction frag generalizing t with
  | nil => rfl
  | cons s frag ih =>
    exact (ih (fun u hu => h u (by simp [hu])) _).trans (effect_chains_other (h s (by simp)))

theorem foldl_sets_other {frag : List Stmt} {n : String} (h : ∀ s ∈ frag, s.set? ≠ some n)
    (t : Table) : (frag.foldl Stmt.effect t).sets n = t.sets n := by
  induction frag generalizing t with
  | nil => rfl
  | cons s frag ih =>
    exact (ih (fun u hu => h u (by simp [hu])) _).trans (effect_sets_other (h s (by simp)))

theorem foldl_addRule (chain : String) (rules : List NftRule) (t : Table) :
    (rules.map (Stmt.addRule chain)).foldl Stmt.effect t =
      { t with chains := Function.update t.chains chain ((t.chains chain).map (· ++ rules)) } := by
  induction rules generalizing t with
  | nil => simp
  | cons r rules ih =>
    rw [List.map_cons,List.foldl_cons,ih]
    simp [Stmt.effect,Function.comp_def]

end OpenSandbox.Fleetnft
