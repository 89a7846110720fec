import OpenSandbox.Library.PyEncode
import OpenSandbox.Egress.Mitm.Select

namespace OpenSandbox.Mitm

open PyText Vault List

def normalizedType (py : Lower) (contentType : String) : String :=
  py.lower (strip (beforeSemicolon contentType))

def isJsonType (py : Lower) (contentType : String) : Bool :=
  let normalized := normalizedType py contentType
  normalized = "application/json" || endsWith normalized "+json"

def encodedSubstitutionValue (py : Lower) (value surface contentType : String) : String :=
  if surface = "path" ∨ surface = "query" then quote value
  else if surface = "body" then
    if isJsonType py contentType then dumpsContent value
    else if normalizedType py contentType = "application/x-www-form-urlencoded" then
      quotePlus value
    else value
  else value

def plusEscape (c : Char) : List Char := if c = '+' then ['%','2','0'] else [c]

@[mk_iff]
structure Escaped (b : UInt8) : Prop where
  percent : (escapeByte b).flatMap plusEscape = quoteByte [] b
  plus : escapeByte b = (quoteByte [32] b).map spaceToPlus
  unslashed : '\\' ∉ escapeByte b
  plain : b ≠ 32 → escapeByte b = quoteByte [] b

theorem escaped (b : UInt8) : Escaped b := by
  have htable : ∀ n < 256, Escaped (UInt8.ofNat n) := by
    simp only [escaped_iff]
    decide +kernel
  exact @UInt8.ofNat_toNat b ▸ htable b.toNat b.toNat_lt

theorem plusToPercent_queryEscape (value : String) :
    plusToPercent (queryEscape value) = quote value := by
  rw [plusToPercent,queryEscape,quote,quoteWith,String.toList_ofList,flatMap_assoc]
  congr 1
  refine flatMap_congr fun c _ => ?_
  rw [flatMap_assoc]
  exact flatMap_congr fun b _ => (escaped b).percent

theorem queryEscape_eq_quotePlus (value : String) : queryEscape value = quotePlus value := by
  unfold quotePlus
  split_ifs with hspace
  · rw [queryEscape,quoteWith,map_flatMap]
    congr 1
    refine flatMap_congr fun c _ => ?_
    rw [map_flatMap]
    exact flatMap_congr fun b _ => (escaped b).plus
  · rw [queryEscape,quote,quoteWith]
    congr 1
    refine flatMap_congr fun c hc => flatMap_congr fun b hb => ?_
    refine (escaped _).plain fun hb32 => hspace ?_
    have heq : c = ' ' := space_mem_utf8EncodeChar (hb32 ▸ hb)
    exact heq ▸ hc

theorem backslash_not_mem_queryEscape (value : String) : '\\' ∉ (queryEscape value).toList := by
  simp only [queryEscape,String.toList_ofList,mem_flatMap,not_exists,not_and]
  intro c _ b _
  exact (escaped b).unslashed

variable {value : String}

theorem backslash_not_mem_plusToPercent (h : '\\' ∉ value.toList) :
    '\\' ∉ (plusToPercent value).toList := by
  simp only [plusToPercent,String.toList_ofList,mem_flatMap,not_exists,not_and]
  intro c hc
  split_ifs with hplus
  · decide
  · rw [mem_singleton]
    exact fun heq => h (heq ▸ hc)

theorem lowerHexByte_ne_backslash {c : Char} (h : c ≠ '\\') : lowerHexByte c ≠ '\\' := by
  by_cases hupper : 'A' ≤ c ∧ c ≤ 'F'
  · have hhigh : c.toNat ≤ 70 := hupper.2
    have htable : ∀ n < 71, lowerHexByte (Char.ofNat n) ≠ '\\' := by decide +kernel
    exact Char.ofNat_toNat c ▸ htable c.toNat (by omega)
  · rwa [lowerHexByte,if_neg hupper]

theorem backslash_not_mem_lowercaseEscapes {cs : List Char} (h : '\\' ∉ cs) :
    '\\' ∉ lowercaseEscapes cs := by
  induction cs using lowercaseEscapes.induct with
  | case1 a b rest hhex ih =>
    simp only [mem_cons,not_or] at h
    rw [lowercaseEscapes,if_pos hhex]
    simp only [mem_cons,not_or]
    exact ⟨h.1,(lowerHexByte_ne_backslash (Ne.symm h.2.1)).symm,
      (lowerHexByte_ne_backslash (Ne.symm h.2.2.1)).symm,ih h.2.2.2⟩
  | case2 a b rest hhex ih =>
    rw [lowercaseEscapes,if_neg hhex]
    simp only [mem_cons,not_or] at h ih ⊢
    exact ⟨h.1,ih h.2⟩
  | case3 c rest hne ih =>
    rw [lowercaseEscapes]
    · simp only [mem_cons,not_or] at h ⊢
      exact ⟨h.1,ih h.2⟩
    · exact hne
  | case4 => simp [lowercaseEscapes]

theorem backslash_not_mem_lowercasePercentEscapes (h : '\\' ∉ value.toList) :
    '\\' ∉ (lowercasePercentEscapes value).toList := by
  rw [lowercasePercentEscapes,String.toList_ofList]
  exact backslash_not_mem_lowercaseEscapes h

theorem dumpsRune_wide {c : Char} (h : 128 ≤ c.toNat) : dumpsRune c = jsonASCIIRune c := by
  have hne (d : Char) (hd : d.toNat < 128) : c ≠ d := by
    rintro rfl
    omega
  have hrange : ¬ (' ' ≤ c ∧ c ≤ '~') := by
    rintro ⟨_,hle⟩
    have : c.toNat ≤ 126 := hle
    omega
  have h8 : ¬ c.toNat = 8 := by omega
  have h12 : ¬ c.toNat = 12 := by omega
  have hcontrol : ¬ c.toNat < 0x20 := by omega
  have hascii : ¬ c.toNat < 0x80 := by omega
  simp only [dumpsRune,jsonASCIIRune,hne '\\' (by decide),hne '"' (by decide),hne '\n' (by decide),
    hne '\r' (by decide),hne '\t' (by decide),hrange,h8,h12,hcontrol,hascii,if_false]
  exact if_congr (by omega) rfl rfl

theorem dumpsRune_eq_jsonASCIIRune {c : Char} (h : c ≠ '\x7f') : dumpsRune c = jsonASCIIRune c := by
  have hcode : c.toNat ≠ 127 := fun heq => h (Char.toNat_inj.mp heq)
  by_cases hascii : c.toNat < 127
  · have htable : ∀ n < 127, dumpsRune (Char.ofNat n) = jsonASCIIRune (Char.ofNat n) := by
      decide +kernel
    exact Char.ofNat_toNat c ▸ htable c.toNat hascii
  · exact dumpsRune_wide (by omega)

theorem del_not_mem_escapeCode (n : Nat) : '\x7f' ∉ GoJson.escapeCode n := by
  have hhex : ∀ k < 16, '\x7f' ≠ GoJson.hexLower k := by decide
  simp only [GoJson.escapeCode,mem_cons,not_mem_nil,not_or,or_false]
  refine ⟨by decide,by decide,?_,?_,?_,?_⟩
  all_goals exact hhex _ (Nat.mod_lt _ (by decide))

theorem del_not_mem_dumpsRune (c : Char) : '\x7f' ∉ dumpsRune c := by
  unfold dumpsRune
  split_ifs with h1 h2 hrange h4 h5 h6 h7 h8 h9
  · decide
  · decide
  · rw [mem_singleton]
    rintro rfl
    exact absurd hrange.2 (by decide)
  · decide
  · decide
  · decide
  · decide
  · decide
  · exact del_not_mem_escapeCode _
  · rw [mem_append,not_or]
    exact ⟨del_not_mem_escapeCode _,del_not_mem_escapeCode _⟩

theorem dumpsContent_eq (h : '\x7f' ∉ value.toList) :
    dumpsContent value = jsonASCIIEncodedStringContent value := by
  rw [dumpsContent,jsonASCIIEncodedStringContent]
  congr 1
  refine flatMap_congr fun c hc => dumpsRune_eq_jsonASCIIRune ?_
  rintro rfl
  exact h hc

theorem dumpsContent_not_mem_variants (h : '\x7f' ∈ value.toList) :
    dumpsContent value ∉ substitutionRedactionVariants value := by
  have hdel : '\x7f' ∉ (dumpsContent value).toList := by
    rw [dumpsContent,String.toList_ofList,mem_flatMap]
    rintro ⟨c,_,hc⟩
    exact del_not_mem_dumpsRune c hc
  have hback : '\\' ∈ (dumpsContent value).toList := by
    rw [dumpsContent,String.toList_ofList,mem_flatMap]
    exact ⟨_,h,by decide⟩
  have hform := backslash_not_mem_queryEscape value
  have hurl := backslash_not_mem_plusToPercent hform
  have hraw {other : String} (hin : '\x7f' ∈ other.toList) : dumpsContent value ≠ other :=
    fun heq => hdel (heq ▸ hin)
  have hescaped {other : String} (hin : '\\' ∉ other.toList) : dumpsContent value ≠ other :=
    fun heq => hin (heq ▸ hback)
  simp only [substitutionRedactionVariants,mem_cons,not_mem_nil,or_false,not_or]
  refine ⟨hraw h,hescaped hurl,hescaped (backslash_not_mem_lowercasePercentEscapes hurl),
    hescaped hform,hescaped (backslash_not_mem_lowercasePercentEscapes hform),hraw ?_,hraw ?_⟩
  · rw [jsonEncodedStringContent,String.toList_ofList,mem_flatMap]
    exact ⟨_,h,by decide⟩
  · rw [jsonASCIIEncodedStringContent,String.toList_ofList,mem_flatMap]
    exact ⟨_,h,by decide⟩

theorem dumpsContent_mem_variants_iff (value : String) :
    dumpsContent value ∈ substitutionRedactionVariants value ↔ '\x7f' ∉ value.toList := by
  constructor
  · intro hmem hdel
    exact dumpsContent_not_mem_variants hdel hmem
  · intro hdel
    rw [dumpsContent_eq hdel]
    simp [substitutionRedactionVariants]

theorem encoded_mem_variants_iff (py : Lower) (value surface contentType : String) :
    encodedSubstitutionValue py value surface contentType ∈ substitutionRedactionVariants value ↔
      ¬ (surface = "body" ∧ isJsonType py contentType = true ∧ '\x7f' ∈ value.toList) := by
  have hvalue : value ∈ substitutionRedactionVariants value := by
    simp [substitutionRedactionVariants]
  unfold encodedSubstitutionValue
  split_ifs with hurl hbody hjson hform
  · have hsurface : surface ≠ "body" := by
      rcases hurl with rfl | rfl
      all_goals decide
    simp [hsurface,substitutionRedactionVariants,plusToPercent_queryEscape]
  · simp [hbody,hjson,dumpsContent_mem_variants_iff]
  · simp [hjson,substitutionRedactionVariants,queryEscape_eq_quotePlus]
  · simp [hjson,hvalue]
  · simp [hbody,hvalue]

theorem encoded_del_not_redacted :
    encodedSubstitutionValue Lower.onAscii "k\x7f" "body" "application/json" = "k\\u007f" ∧
      substitutionRedactionVariants "k\x7f" =
        ["k\x7f","k%7F","k%7f","k%7F","k%7f","k\x7f","k\x7f"] ∧
      encodedSubstitutionValue Lower.onAscii "k\x7f" "body" "application/json" ∉
        substitutionRedactionVariants "k\x7f" := by
  decide

end OpenSandbox.Mitm
