import Mathlib.Tactic

namespace OpenSandbox.Netip

inductive Addr where
  | invalid
  | v4 (bits : BitVec 32)
  | v6 (bits : BitVec 128) (zone : String)
  deriving DecidableEq

namespace Addr

def isValid : Addr → Bool
  | .invalid => false
  | _ => true

def is4 : Addr → Bool
  | .v4 _ => true
  | _ => false

def is6 : Addr → Bool
  | .v6 _ _ => true
  | _ => false

def unmap : Addr → Addr
  | .v6 bits zone => if bits >>> 32 = 0xffff#128 then .v4 (bits.setWidth 32) else .v6 bits zone
  | a => a

def withoutZone : Addr → Addr
  | .v6 bits _ => .v6 bits ""
  | a => a

def bitLen : Addr → Nat
  | .invalid => 0
  | .v4 _ => 32
  | .v6 _ _ => 128

end Addr

structure Prefix where
  ip : Addr
  bitsPlusOne : Nat
  deriving DecidableEq

namespace Prefix

def isValid (p : Prefix) : Bool := decide (0 < p.bitsPlusOne)

def bits (p : Prefix) : Int := (p.bitsPlusOne : Int) - 1

def prefixFrom (ip : Addr) (bits : Nat) : Prefix :=
  if ip.isValid ∧ bits ≤ ip.bitLen then ⟨ip.withoutZone,bits + 1⟩ else ⟨ip.withoutZone,0⟩

def keepTop {w : Nat} (x : BitVec w) (n : Nat) : BitVec w := (x >>> (w - n)) <<< (w - n)

def masked (p : Prefix) : Prefix :=
  match p.isValid, p.ip with
  | true, .v4 x => prefixFrom (.v4 (keepTop x (p.bitsPlusOne - 1))) (p.bitsPlusOne - 1)
  | true, .v6 x zone => prefixFrom (.v6 (keepTop x (p.bitsPlusOne - 1)) zone) (p.bitsPlusOne - 1)
  | _, _ => ⟨.invalid,0⟩

def contains (p : Prefix) (a : Addr) : Bool :=
  p.isValid &&
    match p.ip, a with
    | .v4 x, .v4 y => decide ((x ^^^ y) >>> (32 - (p.bitsPlusOne - 1)) = 0#32)
    | .v6 x _, .v6 y zone => zone = "" && decide ((x ^^^ y) >>> (128 - (p.bitsPlusOne - 1)) = 0#128)
    | _, _ => false

end Prefix

def octets : List Char → Nat → Nat → List Nat → Option (List Nat)
  | [], val, digLen, fields =>
      if digLen = 0 ∨ fields.length < 3 then none else some (fields ++ [val])
  | c :: cs, val, digLen, fields =>
      if c.isDigit then
        if digLen = 1 ∧ val = 0 then none
        else if val * 10 + (c.toNat - 48) > 255 then none
        else octets cs (val * 10 + (c.toNat - 48)) (digLen + 1) fields
      else if c = '.' then
        if digLen = 0 ∨ fields.length = 3 then none else octets cs 0 0 (fields ++ [val])
      else none

def parseIPv4Fields (s : List Char) : Option (List Nat) := octets s 0 0 []

def parseIPv4 (s : List Char) : Option Addr :=
  (parseIPv4Fields s).map fun fields =>
    .v4 (BitVec.ofNat 32 (fields.foldl (fun acc o => acc * 256 + o) 0))

def hexDigit (c : Char) : Option Nat :=
  if c.isDigit then some (c.toNat - 48)
  else if 'a' ≤ c ∧ c ≤ 'f' then some (c.toNat - 87)
  else if 'A' ≤ c ∧ c ≤ 'F' then some (c.toNat - 55)
  else none

def hexGroup : List Char → Nat → Nat → Option (Nat × Nat × List Char)
  | [], acc, off => some (acc, off, [])
  | c :: cs, acc, off =>
      match hexDigit c with
      | none => some (acc, off, c :: cs)
      | some d => if off > 3 then none else hexGroup cs (acc * 16 + d) (off + 1)

def hexGroups : Nat → List Char → List Nat → Option Nat →
    Option (List Nat × Option Nat × List Char)
  | 0, s, groups, ellipsis => some (groups, ellipsis, s)
  | fuel + 1, s, groups, ellipsis =>
      match hexGroup s 0 0 with
      | none | some (_, 0, _) => none
      | some (acc, _, rest) =>
          match rest with
          | [] => some (groups ++ [acc], ellipsis, [])
          | '.' :: _ =>
              if (ellipsis = none ∧ groups.length ≠ 6) ∨ groups.length > 6 then none
              else (parseIPv4Fields s).map fun fields =>
                (groups ++ [fields[0]?.getD 0 * 256 + fields[1]?.getD 0,
                  fields[2]?.getD 0 * 256 + fields[3]?.getD 0], ellipsis, [])
          | [':'] => none
          | ':' :: ':' :: tail =>
              if ellipsis.isSome then none
              else if tail = [] then some (groups ++ [acc], some (groups.length + 1), [])
              else hexGroups fuel tail (groups ++ [acc]) (some (groups.length + 1))
          | ':' :: tail => hexGroups fuel tail (groups ++ [acc]) ellipsis
          | _ => none

def expandEllipsis (groups : List Nat) : Option Nat → Option (List Nat)
  | none => if groups.length = 8 then some groups else none
  | some e =>
      if groups.length = 8 then none
      else some (groups.take e ++ List.replicate (8 - groups.length) 0 ++ groups.drop e)

def parseIPv6 (s : List Char) : Option Addr :=
  let body := s.takeWhile (· ≠ '%')
  let zone := (s.dropWhile (· ≠ '%')).drop 1
  if body.length < s.length ∧ zone = [] then none
  else
    let parsed := match body with
      | [':',':'] => some ([], some 0, [])
      | ':' :: ':' :: rest => hexGroups 8 rest [] (some 0)
      | _ => hexGroups 8 body [] none
    match parsed with
    | some (groups, ellipsis, []) =>
        (expandEllipsis groups ellipsis).map fun gs =>
          .v6 (BitVec.ofNat 128 (gs.foldl (fun acc g => acc * 65536 + g) 0)) (String.ofList zone)
    | _ => none

def parseAddr (s : String) : Option Addr :=
  match s.toList.find? (fun c => c = '.' ∨ c = ':' ∨ c = '%') with
  | some '.' => parseIPv4 s.toList
  | some ':' => parseIPv6 s.toList
  | _ => none

def parseBits (s : List Char) : Option Nat :=
  match s with
  | [] => none
  | c :: cs =>
      if cs ≠ [] ∧ c = '0' then none
      else if (c :: cs).all Char.isDigit then
        some ((c :: cs).foldl (fun acc d => acc * 10 + (d.toNat - 48)) 0)
      else none

def parsePrefix (s : String) : Option Prefix :=
  let tail := s.toList.reverse.takeWhile (· ≠ '/')
  let head := (s.toList.reverse.dropWhile (· ≠ '/')).drop 1
  if tail.length = s.toList.length then none
  else
    match parseAddr (String.ofList head.reverse), parseBits tail.reverse with
    | some (.v6 x ""), some bits => if bits ≤ 128 then some (.prefixFrom (.v6 x "") bits) else none
    | some (.v4 x), some bits => if bits ≤ 32 then some (.prefixFrom (.v4 x) bits) else none
    | _, _ => none

def decimalText (n : Nat) : List Char := Nat.toDigits 10 n

def hexText (n : Nat) : List Char := Nat.toDigits 16 n

def fieldOf {w : Nat} (x : BitVec w) (width i : Nat) : Nat := x.toNat / 2 ^ (width * i) % 2 ^ width

def text4 (x : BitVec 32) : List Char :=
  ['.'].intercalate ([3,2,1,0].map fun i => decimalText (fieldOf x 8 i))

def longestZeros (groups : List Nat) : Nat × Nat :=
  (List.range 8).foldl
    (fun best i =>
      let len := ((groups.drop i).takeWhile (· = 0)).length
      if 2 ≤ len ∧ best.2 < len then (i, len) else best)
    (0, 0)

def text6 (x : BitVec 128) : List Char :=
  let groups := [7,6,5,4,3,2,1,0].map fun i => fieldOf x 16 i
  let join (gs : List Nat) := [':'].intercalate (gs.map hexText)
  let run := longestZeros groups
  if run.2 = 0 then join groups
  else join (groups.take run.1) ++ [':',':'] ++ join (groups.drop (run.1 + run.2))

def Addr.text : Addr → String
  | .invalid => "invalid IP"
  | .v4 x => String.ofList (text4 x)
  | .v6 x zone =>
      let body :=
        match (Addr.v6 x "").unmap with
        | .v4 y => [':',':','f','f','f','f',':'] ++ text4 y
        | _ => text6 x
      String.ofList (if zone = "" then body else body ++ '%' :: zone.toList)

end OpenSandbox.Netip
