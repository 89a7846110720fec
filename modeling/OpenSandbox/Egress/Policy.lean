import OpenSandbox.Library.GoText
import OpenSandbox.Egress.Netip

namespace OpenSandbox.Policy

open Netip

def actionAllow : String := "allow"
def actionDeny : String := "deny"

inductive TargetKind where
  | unknown
  | domain
  | ip
  | cidr
  deriving DecidableEq

structure EgressRule where
  action : String
  target : String
  targetKind : TargetKind
  ip : Addr
  cidr : Prefix
  deriving DecidableEq

structure CompiledDomainRule where
  index : Nat
  action : String
  deriving DecidableEq

structure CompiledDomainIndex where
  exact : List (String × CompiledDomainRule)
  wildcard : List (String × CompiledDomainRule)
  deriving DecidableEq

def insertFirst (m : List (String × CompiledDomainRule)) (k : String) (r : CompiledDomainRule) :
    List (String × CompiledDomainRule) :=
  if (m.lookup k).isSome then m else m ++ [(k, r)]

def compileRule (idx : CompiledDomainIndex) (r : EgressRule) (i : Nat) : CompiledDomainIndex :=
  let pattern := GoText.toLower (GoText.trimSpace r.target)
  if r.targetKind ≠ .domain ∨ pattern = "" then idx
  else match pattern.toList with
    | '*' :: '.' :: rest =>
        { idx with
          wildcard := insertFirst idx.wildcard (String.ofList ('.' :: rest)) ⟨i,r.action⟩ }
    | _ => { idx with exact := insertFirst idx.exact pattern ⟨i,r.action⟩ }

def compileDomainIndex (egress : List EgressRule) : CompiledDomainIndex :=
  egress.zipIdx.foldl (fun idx ri => compileRule idx ri.1 ri.2) ⟨[],[]⟩

structure NetworkPolicy where
  egress : List EgressRule
  defaultAction : String
  domainIndex : Option CompiledDomainIndex
  deriving DecidableEq

def defaultDenyPolicy : NetworkPolicy := ⟨[],actionDeny,some (compileDomainIndex [])⟩

def ensureDefaults (p : NetworkPolicy) : NetworkPolicy :=
  { p with
    defaultAction := if p.defaultAction = "" then actionDeny else p.defaultAction
    domainIndex := some (compileDomainIndex p.egress) }

def mergeAlwaysOverlay (user : Option NetworkPolicy) (alwaysDeny alwaysAllow : List EgressRule) :
    NetworkPolicy :=
  let user := user.getD defaultDenyPolicy
  ensureDefaults { user with egress := alwaysDeny ++ alwaysAllow ++ user.egress }

inductive Element where
  | addr (a : Addr)
  | cidr (p : Prefix)
  deriving DecidableEq

def Element.is4 : Element → Bool
  | .addr a => a.is4
  | .cidr p => p.ip.is4

def Element.is6 : Element → Bool
  | .addr a => a.is6
  | .cidr p => p.ip.is6

def EgressRule.element (r : EgressRule) : Option Element :=
  match r.targetKind with
  | .ip => some (.addr r.ip)
  | .cidr => some (.cidr r.cidr)
  | _ => none

structure StaticIPSets where
  allowV4 : List Element
  allowV6 : List Element
  denyV4 : List Element
  denyV6 : List Element

def bucket (egress : List EgressRule) (allow : Bool) (family : Element → Bool) : List Element :=
  egress.filterMap fun r =>
    if decide (r.action = actionAllow) = allow then r.element.filter family else none

def NetworkPolicy.staticIPSets (p : NetworkPolicy) : StaticIPSets where
  allowV4 := bucket p.egress true Element.is4
  allowV6 := bucket p.egress true Element.is6
  denyV4 := bucket p.egress false Element.is4
  denyV6 := bucket p.egress false Element.is6

def parseAsPrefix : Element → Except String Prefix
  | .cidr p => if p.isValid then .ok p else .error "nftables: invalid IP or CIDR"
  | .addr (.v4 x) => .ok (.prefixFrom (.v4 x) 32)
  | .addr (.v6 x zone) => .ok (.prefixFrom (.v6 x zone) 128)
  | .addr .invalid => .error "nftables: invalid IP or CIDR"

def uniquePrefixes : List Prefix → List Prefix :=
  List.foldl (fun out p => if p ∈ out then out else out ++ [p]) []

def strictSupernet (super sub : Prefix) : Bool :=
  super.ip.is4 = sub.ip.is4 && decide (super.bits < sub.bits) && super.contains sub.ip

def removeStrictSubnets (ps : List Prefix) : List Prefix :=
  ps.filter fun p => !ps.any fun q => strictSupernet q p

def normalizeIntervalSet (elems : List Element) : Except String (List Prefix) := do
  let ps ← elems.mapM fun e => (parseAsPrefix e).map Prefix.masked
  return (removeStrictSubnets (uniquePrefixes ps)).map Prefix.masked

end OpenSandbox.Policy
