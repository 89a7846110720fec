import OpenSandbox.Egress.Coverage
import OpenSandbox.Egress.Fleetnft.Script

namespace OpenSandbox.Nftables

open Netip Policy Ruleset Fleetnft

structure OutPacket where
  dst : Addr
  proto : Proto
  dport : Nat
  established : Bool
  mark : Nat
  oif : String

inductive SetName where
  | allow (fam : Family)
  | deny (fam : Family)
  | dynAllow (fam : Family)
  | dohBlock (fam : Family)
  deriving DecidableEq

inductive Match where
  | always
  | established
  | mark (value : Nat)
  | oifname (name : String)
  | service (addr : Addr) (proto : Proto) (port : Nat)
  | dport (proto : Proto) (port : Nat)
  | daddr (fam : Family) (set : SetName)
  | daddrPort (fam : Family) (set : SetName) (proto : Proto) (port : Nat)

abbrev ChainRule := Rule Match Empty

abbrev Sets := SetName → Option (List SetElem)

def setHas (sets : Sets) (set : SetName) (a : Addr) : Bool :=
  (sets set).any fun elems => elems.any (·.covers a)

def Match.holds (sets : Sets) (p : OutPacket) : Match → Bool
  | .always => true
  | .established => p.established
  | .mark value => p.mark = value
  | .oifname name => p.oif = name
  | .service addr proto port => p.dst = addr && p.proto = proto && p.dport = port
  | .dport proto port => p.proto = proto && p.dport = port
  | .daddr fam set => fam.carries p.dst && setHas sets set p.dst
  | .daddrPort fam set proto port =>
      fam.carries p.dst && setHas sets set p.dst && p.proto = proto && p.dport = port

structure Chain where
  policy : Verdict
  rules : List ChainRule

structure OutTable where
  sets : Sets
  chain : Option Chain

def OutTable.empty : OutTable := ⟨fun _ => none,none⟩

inductive Line where
  | deleteTable
  | addTable
  | addSet (set : SetName) (fam : Family) (flags : SetFlags)
  | addElement (set : SetName) (elems : List SetElem)
  | addChain (policy : Verdict)
  | addRule (rule : ChainRule)

def Line.onTable (t : OutTable) : Line → OutTable
  | .addSet set _ _ => { t with sets := Function.update t.sets set (some ((t.sets set).getD [])) }
  | .addElement set elems =>
      { t with sets := Function.update t.sets set ((t.sets set).map (· ++ elems)) }
  | .addChain policy => { t with chain := some ⟨policy,[]⟩ }
  | .addRule rule =>
      { t with chain := t.chain.map fun c => { c with rules := c.rules ++ [rule] } }
  | _ => t

def Line.effect (k : Option OutTable) : Line → Option OutTable
  | .deleteTable => none
  | .addTable => some (k.getD .empty)
  | line => k.map (line.onTable ·)

def load (script : List Line) (k : Option OutTable) : Option OutTable := script.foldl Line.effect k

def noCalls : Empty → Option Verdict := nofun

def OutTable.verdict (t : OutTable) (p : OutPacket) : Verdict :=
  match t.chain with
  | none => .accept
  | some c => (walk (Match.holds t.sets p) noCalls c.rules).getD c.policy

def outVerdict (k : Option OutTable) (p : OutPacket) : Verdict :=
  match k with
  | none => .accept
  | some t => t.verdict p

structure Options where
  blockDoT : Bool
  blockDoH443 : Bool
  dohBlocklistV4 : List Element
  dohBlocklistV6 : List Element

def accept (m : Match) : ChainRule := ⟨m,.verdict .accept⟩

def drop (m : Match) : ChainRule := ⟨m,.verdict .drop⟩

def markValue : Nat := 0x1

def proxyAddr : Addr := .v4 0x7f000001#32

def proxyPort : Nat := 15353

def setLines (dohBlockV4 dohBlockV6 : List Prefix) : List Line :=
  [.addSet (.allow .v4) .v4 .interval,.addSet (.deny .v4) .v4 .interval,
    .addSet (.allow .v6) .v6 .interval,.addSet (.deny .v6) .v6 .interval,
    .addSet (.dynAllow .v4) .v4 (.timeout dynSetTimeoutS),
    .addSet (.dynAllow .v6) .v6 (.timeout dynSetTimeoutS)] ++
  (if dohBlockV4 ≠ [] then [.addSet (.dohBlock .v4) .v4 .interval] else []) ++
  if dohBlockV6 ≠ [] then [.addSet (.dohBlock .v6) .v6 .interval] else []

def writeElements (set : SetName) (elems : List SetElem) : List Line :=
  if elems = [] then [] else [.addElement set elems]

def dotRules (opts : Options) : List ChainRule :=
  if opts.blockDoT then [drop (.dport .tcp 853),drop (.dport .udp 853)] else []

def dohRules (opts : Options) (dohBlockV4 dohBlockV6 : List Prefix) : List ChainRule :=
  if opts.blockDoH443 then
    if dohBlockV4 = [] ∧ dohBlockV6 = [] then [drop (.dport .tcp 443)]
    else
      (if dohBlockV4 ≠ [] then [drop (.daddrPort .v4 (.dohBlock .v4) .tcp 443)] else []) ++
        if dohBlockV6 ≠ [] then [drop (.daddrPort .v6 (.dohBlock .v6) .tcp 443)] else []
  else []

def gateRules (opts : Options) (dohBlockV4 dohBlockV6 : List Prefix) : List ChainRule :=
  [accept .established,accept (.mark markValue),accept (.oifname "lo"),
    accept (.service proxyAddr .udp proxyPort),accept (.service proxyAddr .tcp proxyPort)] ++
  dotRules opts ++ dohRules opts dohBlockV4 dohBlockV6

def policyRules (chainPolicy : Verdict) : List ChainRule :=
  [drop (.daddr .v4 (.deny .v4)),drop (.daddr .v6 (.deny .v6)),
    accept (.daddr .v4 (.dynAllow .v4)),accept (.daddr .v6 (.dynAllow .v6)),
    accept (.daddr .v4 (.allow .v4)),accept (.daddr .v6 (.allow .v6))] ++
  if chainPolicy = .drop then [drop .always] else []

def chainPolicy (defaultAction : String) : Verdict :=
  if defaultAction = actionAllow then .accept else .drop

structure Elements where
  allowV4 : List Prefix
  allowV6 : List Prefix
  denyV4 : List Prefix
  denyV6 : List Prefix
  dohBlockV4 : List Prefix
  dohBlockV6 : List Prefix

def normalizeElements (p : NetworkPolicy) (opts : Options) : Except String Elements := do
  let sets := p.staticIPSets
  let allowV4 ← normalizeIntervalSet sets.allowV4
  let allowV6 ← normalizeIntervalSet sets.allowV6
  let denyV4 ← normalizeIntervalSet sets.denyV4
  let denyV6 ← normalizeIntervalSet sets.denyV6
  let dohBlockV4 ← normalizeIntervalSet opts.dohBlocklistV4
  let dohBlockV6 ← normalizeIntervalSet opts.dohBlocklistV6
  return ⟨allowV4,allowV6,denyV4,denyV6,dohBlockV4,dohBlockV6⟩

def chainRules (opts : Options) (els : Elements) (policy : Verdict) : List ChainRule :=
  gateRules opts els.dohBlockV4 els.dohBlockV6 ++ policyRules policy

def scriptLines (opts : Options) (els : Elements) (policy : Verdict) : List Line :=
  [.deleteTable,.addTable] ++ setLines els.dohBlockV4 els.dohBlockV6 ++
    writeElements (.allow .v4) (els.allowV4.map .net) ++
    writeElements (.deny .v4) (els.denyV4.map .net) ++
    writeElements (.allow .v6) (els.allowV6.map .net) ++
    writeElements (.deny .v6) (els.denyV6.map .net) ++
    writeElements (.dohBlock .v4) (els.dohBlockV4.map .net) ++
    writeElements (.dohBlock .v6) (els.dohBlockV6.map .net) ++ [.addChain policy] ++
    (chainRules opts els policy).map .addRule

def buildRuleset (p : NetworkPolicy) (opts : Options) : Except String (List Line) :=
  (normalizeElements p opts).map fun els => scriptLines opts els (chainPolicy p.defaultAction)

def buildAddResolvedIPsScript (ips : List ResolvedIP) : List Line :=
  writeElements (.dynAllow .v4) (leases .v4 ips) ++ writeElements (.dynAllow .v6) (leases .v6 ips)

def isTruthy (v : String) : Bool :=
  GoText.toLower (GoText.trimSpace v) ∈ ["1","true","yes","y","on"]

def addDohEntry (opts : Options) (entry : List Char) : Options :=
  let target := GoText.trimSpace (String.ofList entry)
  match parseAddr target with
  | some (.v4 x) => { opts with dohBlocklistV4 := opts.dohBlocklistV4 ++ [.addr (.v4 x)] }
  | some (.v6 x zone) =>
      { opts with dohBlocklistV6 := opts.dohBlocklistV6 ++ [.addr (.v6 x zone)] }
  | some .invalid => opts
  | none =>
      match parsePrefix target with
      | some ⟨.v4 x,n⟩ =>
          { opts with dohBlocklistV4 := opts.dohBlocklistV4 ++ [.cidr ⟨.v4 x,n⟩] }
      | some ⟨.v6 x zone,n⟩ =>
          { opts with dohBlocklistV6 := opts.dohBlocklistV6 ++ [.cidr ⟨.v6 x zone,n⟩] }
      | _ => opts

def parseNftOptions (blockDoH443 dohBlocklist : String) : Options :=
  (dohBlocklist.toList.splitOn ',').foldl addDohEntry ⟨true,isTruthy blockDoH443,[],[]⟩

end OpenSandbox.Nftables
