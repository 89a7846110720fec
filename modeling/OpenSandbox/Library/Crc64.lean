import Mathlib.Tactic

namespace Crc64

open List

def ecma : BitVec 64 := 0xC96C5795D7870F42#64

def shiftOnce (crc : BitVec 64) : BitVec 64 :=
  if crc.getLsbD 0 then (crc >>> 1) ^^^ ecma else crc >>> 1

def tableEntry (i : BitVec 64) : BitVec 64 :=
  shiftOnce (shiftOnce (shiftOnce (shiftOnce (shiftOnce (shiftOnce (shiftOnce (shiftOnce i)))))))

def writeByte (crc : BitVec 64) (b : UInt8) : BitVec 64 :=
  tableEntry ((crc &&& 0xFF#64) ^^^ b.toBitVec.setWidth 64) ^^^ (crc >>> 8)

def write (crc : BitVec 64) (data : List UInt8) : BitVec 64 := ~~~ (data.foldl writeByte (~~~ crc))

def init : BitVec 64 := 0#64

def checksum (data : List UInt8) : BitVec 64 := write init data

theorem checksum_append (a b : List UInt8) : checksum (a ++ b) = write (checksum a) b := by
  simp only [checksum,write,BitVec.not_not,foldl_append]

def bigEndian (n : Nat) : List UInt8 :=
  [n / 2 ^ 56,n / 2 ^ 48,n / 2 ^ 40,n / 2 ^ 32,n / 2 ^ 24,n / 2 ^ 16,n / 2 ^ 8,n].map
    UInt8.ofNat

def fromBigEndian (bytes : List UInt8) : Nat := bytes.foldl (fun n b => 256 * n + b.toNat) 0

def tableSum : Nat := 0x60269A52E1B7FE65

def header : List UInt8 := [0x63,0x72,0x63,0x02] ++ bigEndian tableSum

def marshalBinary (crc : BitVec 64) : List UInt8 := header ++ bigEndian crc.toNat

def unmarshalBinary (data : List UInt8) : Option (BitVec 64) :=
  if data.length = 20 ∧ data.take 12 = header then
    some (BitVec.ofNat 64 (fromBigEndian (data.drop 12)))
  else none

theorem fromBigEndian_bigEndian {n : Nat} (h : n < 2 ^ 64) : fromBigEndian (bigEndian n) = n := by
  simp only [fromBigEndian,bigEndian,map_cons,map_nil,foldl_cons,foldl_nil,UInt8.toNat_ofNat']
  omega

theorem unmarshalBinary_marshalBinary (crc : BitVec 64) :
    unmarshalBinary (marshalBinary crc) = some crc := by
  have hlen : header.length = 12 := rfl
  have hdrop : (marshalBinary crc).drop 12 = bigEndian crc.toNat := by
    rw [marshalBinary,← hlen,drop_left]
  have htake : (marshalBinary crc).take 12 = header := by
    rw [marshalBinary,← hlen,take_left]
  rw [unmarshalBinary,if_pos ⟨rfl,htake⟩,hdrop,fromBigEndian_bigEndian crc.isLt,
    BitVec.ofNat_toNat,BitVec.setWidth_eq]

example : checksum [0x31,0x32,0x33,0x34,0x35,0x36,0x37,0x38,0x39] = 0x995DC9BBDF1939FA#64 :=
  by decide +kernel

end Crc64
