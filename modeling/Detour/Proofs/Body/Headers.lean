import Detour.Body.Decode
import Detour.Body.Encode
import Detour.Proofs.Body.Reading

/-!
# Headers

The first byte of a header tells its form in two bits. The other six hold the code size of a tiny
header; those of a fat header belong to a word that packs twelve flag bits below four size bits.
Reading a header accepts exactly the bytes of the well-formed ones, with every code size that the
form has room for.
-/

namespace Detour.Body

/-! ## Packed bits -/

/-- The word of two bytes, the low one first. -/
def pairOfBytes (first second : UInt8) : UInt16 :=
  first.toUInt16 ||| (second.toUInt16 <<< 8)

theorem toNat_pairOfBytes (first second : UInt8) :
    (pairOfBytes first second).toNat = first.toNat + 256 * second.toNat := by
  have low : first.toNat < 2 ^ 8 := first.toNat_lt
  have high := second.toNat_lt
  have shifted : (second.toUInt16 <<< 8).toNat = 2 ^ 8 * second.toNat := by
    rw [UInt16.toNat_shiftLeft, UInt8.toNat_toUInt16, Nat.shiftLeft_eq]
    change second.toNat * 2 ^ 8 % 2 ^ 16 = _
    omega
  rw [pairOfBytes, UInt16.toNat_or, UInt8.toNat_toUInt16, shifted, Nat.or_comm,
    ← Nat.two_pow_add_eq_or_of_lt low]
  omega

theorem littleEndian_pairOfBytes (first second : UInt8) :
    littleEndian 2 (pairOfBytes first second).toNat = [first, second] := by
  rw [toNat_pairOfBytes]
  exact littleEndian_ofLittleEndian [first, second]

theorem exists_pairOfBytes (word : UInt16) : ∃ first second, word = pairOfBytes first second := by
  refine ⟨word.toUInt8, (word >>> 8).toUInt8, UInt16.toNat_inj.mp ?_⟩
  have bound := word.toNat_lt
  rw [toNat_pairOfBytes, UInt16.toNat_toUInt8, UInt16.toNat_toUInt8, UInt16.toNat_shiftRight,
    Nat.shiftRight_eq_div_pow]
  change _ = word.toNat % 2 ^ 8 + 256 * (word.toNat / 2 ^ 8 % 2 ^ 8)
  omega

theorem toNat_lowTwelve (word : UInt16) : (word &&& 0x0FFF).toNat = word.toNat % 4096 := by
  rw [UInt16.toNat_and]
  exact Nat.and_two_pow_sub_one_eq_mod word.toNat 12

theorem toNat_highFour (word : UInt16) : (word >>> 12).toUInt8.toNat = word.toNat / 4096 := by
  have bound := word.toNat_lt
  rw [UInt16.toNat_toUInt8, UInt16.toNat_shiftRight, Nat.shiftRight_eq_div_pow]
  change word.toNat / 2 ^ 12 % 2 ^ 8 = _
  omega

theorem toNat_lowTwo (byte : UInt8) : (byte &&& 0x03).toNat = byte.toNat % 4 := by
  rw [UInt8.toNat_and]
  exact Nat.and_two_pow_sub_one_eq_mod byte.toNat 2

/-- The low bits of a word are those of its first byte. -/
theorem lowTwo_pairOfBytes_iff {first second : UInt8} :
    pairOfBytes first second &&& 0x0003 = 3 ↔ first &&& 0x03 = 3 := by
  rw [← UInt16.toNat_inj, ← UInt8.toNat_inj, toNat_lowTwo, UInt16.toNat_and]
  change _ &&& (2 ^ 2 - 1) = 3 ↔ _ = 3
  rw [Nat.and_two_pow_sub_one_eq_mod, toNat_pairOfBytes]
  omega

/-! ## Fat headers -/

namespace FatHeader

/-- The fat headers that bytes can spell. -/
structure WellFormed (header : FatHeader) : Prop where
  flags_lt : header.flags < 0x1000
  /-- The two format bits are part of the flags. -/
  format : header.flags &&& 0x0003 = 3
  three_le_dwords : 3 ≤ header.dwords
  dwords_le : header.dwords ≤ 15
  length_extra : header.extra.length = (header.dwords.toNat - 3) * 4

/-- The word with the size and the flags of a header. -/
def packed (header : FatHeader) : UInt16 :=
  (header.dwords.toUInt16 <<< 12) ||| (header.flags &&& 0x0FFF)

theorem toNat_packed (header : FatHeader) :
    header.packed.toNat = 4096 * (header.dwords.toNat % 16) + header.flags.toNat % 4096 := by
  have low : header.flags.toNat % 4096 < 2 ^ 12 := Nat.mod_lt _ (by decide)
  have bound := header.dwords.toNat_lt
  have shifted : (header.dwords.toUInt16 <<< 12).toNat = 2 ^ 12 * (header.dwords.toNat % 16) := by
    rw [UInt16.toNat_shiftLeft, UInt8.toNat_toUInt16, Nat.shiftLeft_eq]
    change header.dwords.toNat * 2 ^ 12 % 2 ^ 16 = _
    omega
  rw [packed, UInt16.toNat_or, shifted, toNat_lowTwelve, ← Nat.two_pow_add_eq_or_of_lt low]

/-- A word packs the size and the flags that are taken out of it. -/
theorem packed_eq_iff {header : FatHeader} {word : UInt16} (flags_lt : header.flags < 0x1000)
    (dwords_le : header.dwords ≤ 15) :
    header.packed = word ↔
      header.flags = word &&& 0x0FFF ∧ header.dwords = (word >>> 12).toUInt8 := by
  have flagsBound : header.flags.toNat < 0x1000 := UInt16.lt_iff_toNat_lt.mp flags_lt
  have dwordsBound : header.dwords.toNat ≤ 15 := UInt8.le_iff_toNat_le.mp dwords_le
  have wordBound := word.toNat_lt
  rw [← UInt16.toNat_inj, ← UInt16.toNat_inj, ← UInt8.toNat_inj, toNat_packed, toNat_lowTwelve,
    toNat_highFour]
  omega

/-- The bytes of a header behind its packed word. -/
def behindPacked (header : FatHeader) (codeSize : Nat) : List UInt8 :=
  littleEndian 2 header.maxStack.toNat ++
    (littleEndian 4 codeSize ++ (littleEndian 4 header.locals.raw.toNat ++ header.extra))

theorem encode_eq {header : FatHeader} {first second : UInt8} (codeSize : Nat)
    (isPacked : header.packed = pairOfBytes first second) :
    header.encode codeSize = first :: second :: header.behindPacked codeSize := by
  have word := littleEndian_pairOfBytes first second
  rw [← isPacked] at word
  change littleEndian 2 header.packed.toNat ++ _ ++ _ ++ _ ++ _ = _
  rw [word, behindPacked]
  simp only [List.append_assoc, List.cons_append, List.nil_append]

/-- What is read behind the first byte, field by field. -/
theorem read_eq_ok_iff_fields {first : UInt8} {header : FatHeader} {codeSize : Nat}
    {cursor next : Cursor} :
    FatHeader.read first cursor = .ok ((header, codeSize), next) ↔
      ∃ second, header.flags = pairOfBytes first second &&& 0x0FFF ∧
        header.dwords = (pairOfBytes first second >>> 12).toUInt8 ∧
        3 ≤ header.dwords.toNat ∧ header.extra.length = (header.dwords.toNat - 3) * 4 ∧
        codeSize < UInt32.size ∧
        cursor.Crosses (second :: header.behindPacked codeSize) next := by
  rw [FatHeader.read, Reader.bind_eq_ok_iff]
  constructor
  · intro accepted
    obtain ⟨second, afterSecond, readSecond, readFields⟩ := accepted
    split at readFields
    · cases readFields
    · rename_i enough
      obtain ⟨maxStack, afterStack, readStack, behindStack⟩ := Reader.bind_eq_ok_iff.mp readFields
      obtain ⟨size, afterSize, readSize, behindSize⟩ := Reader.bind_eq_ok_iff.mp behindStack
      obtain ⟨locals, afterLocals, readLocals, behindLocals⟩ := Reader.bind_eq_ok_iff.mp behindSize
      obtain ⟨extra, readExtra, described⟩ := Reader.map_eq_ok_iff.mp behindLocals
      obtain ⟨extraLength, crossedExtra⟩ := Cursor.take_eq_ok_iff.mp readExtra
      cases described
      have crossedSecond := Cursor.byte_eq_ok_iff.mp readSecond
      have crossedStack := Cursor.word16_eq_ok_iff.mp readStack
      have crossedSize := Cursor.word32_eq_ok_iff.mp readSize
      have crossedLocals := Cursor.word32_eq_ok_iff.mp readLocals
      have fromLocals := Cursor.crosses_append_iff.mpr ⟨afterLocals, crossedLocals, crossedExtra⟩
      have fromSize := Cursor.crosses_append_iff.mpr ⟨afterSize, crossedSize, fromLocals⟩
      have fromStack := Cursor.crosses_append_iff.mpr ⟨afterStack, crossedStack, fromSize⟩
      have fromSecond := Cursor.crosses_cons_iff.mpr ⟨afterSecond, crossedSecond, fromStack⟩
      exact ⟨second, rfl, rfl, Nat.le_of_not_lt enough, extraLength, size.toNat_lt, fromSecond⟩
  · intro described
    obtain ⟨second, flags_eq, dwords_eq, enough, extraLength, fits, crossed⟩ := described
    obtain ⟨afterSecond, crossedSecond, behindSecond⟩ := Cursor.crosses_cons_iff.mp crossed
    obtain ⟨afterStack, crossedStack, behindStack⟩ := Cursor.crosses_append_iff.mp behindSecond
    obtain ⟨afterSize, crossedSize, behindSize⟩ := Cursor.crosses_append_iff.mp behindStack
    obtain ⟨afterLocals, crossedLocals, crossedExtra⟩ := Cursor.crosses_append_iff.mp behindSize
    have notFew : ¬ header.dwords.toNat < MethodHeader.fatDwords := Nat.not_lt_of_le enough
    have size : (UInt32.ofNat codeSize).toNat = codeSize := UInt32.toNat_ofNat_of_lt' fits
    rw [← size] at crossedSize
    have readSecond := Cursor.byte_eq_ok_iff.mpr crossedSecond
    have readStack := Cursor.word16_eq_ok_iff.mpr crossedStack
    have readSize := Cursor.word32_eq_ok_iff.mpr crossedSize
    have readLocals := Cursor.word32_eq_ok_iff.mpr crossedLocals
    have readExtra := Cursor.take_eq_ok_iff.mpr ⟨extraLength, crossedExtra⟩
    refine ⟨second, afterSecond, readSecond, ?_⟩
    rw [pairOfBytes] at flags_eq dwords_eq
    rw [← dwords_eq, ← flags_eq, if_neg notFew]
    refine Reader.bind_eq_ok_iff.mpr ⟨header.maxStack, afterStack, readStack, ?_⟩
    refine Reader.bind_eq_ok_iff.mpr ⟨UInt32.ofNat codeSize, afterSize, readSize, ?_⟩
    refine Reader.bind_eq_ok_iff.mpr ⟨header.locals.raw, afterLocals, readLocals, ?_⟩
    refine Reader.map_eq_ok_iff.mpr ⟨header.extra, readExtra, ?_⟩
    rw [size]

/-- Behind a first byte of the fat form, exactly the well-formed headers are read. -/
theorem read_eq_ok_iff {first : UInt8} {header : FatHeader} {codeSize : Nat}
    {cursor next : Cursor} (format : first &&& 0x03 = MethodHeader.fatFormat) :
    FatHeader.read first cursor = .ok ((header, codeSize), next) ↔
      header.WellFormed ∧ codeSize < UInt32.size ∧
        ∃ rest, header.encode codeSize = first :: rest ∧ cursor.Crosses rest next := by
  rw [read_eq_ok_iff_fields]
  constructor
  · intro described
    obtain ⟨second, flags_eq, dwords_eq, enough, extraLength, fits, crossed⟩ := described
    have wordBound := (pairOfBytes first second).toNat_lt
    have flags_lt : header.flags < 0x1000 := by
      rw [flags_eq, UInt16.lt_iff_toNat_lt, toNat_lowTwelve]
      exact Nat.mod_lt _ (by decide)
    have dwords_le : header.dwords ≤ 15 := by
      rw [dwords_eq, UInt8.le_iff_toNat_le, toNat_highFour]
      change _ ≤ 15
      omega
    have isPacked := (packed_eq_iff flags_lt dwords_le).mpr ⟨flags_eq, dwords_eq⟩
    have flagsFormat : header.flags &&& 0x0003 = 3 := by
      rw [flags_eq, UInt16.and_assoc]
      exact lowTwo_pairOfBytes_iff.mpr format
    exact ⟨⟨flags_lt, flagsFormat, UInt8.le_iff_toNat_le.mpr enough, dwords_le, extraLength⟩,
      fits, _, encode_eq codeSize isPacked, crossed⟩
  · intro described
    obtain ⟨wellFormed, fits, rest, encoded, crossed⟩ := described
    obtain ⟨low, second, isPacked⟩ := exists_pairOfBytes header.packed
    rw [encode_eq codeSize isPacked] at encoded
    cases encoded
    obtain ⟨flags_eq, dwords_eq⟩ :=
      (packed_eq_iff wellFormed.flags_lt wellFormed.dwords_le).mp isPacked
    exact ⟨second, flags_eq, dwords_eq, UInt8.le_iff_toNat_le.mp wellFormed.three_le_dwords,
      wellFormed.length_extra, fits, crossed⟩

theorem exists_encode_eq_cons {header : FatHeader} (wellFormed : header.WellFormed)
    (codeSize : Nat) :
    ∃ first rest, header.encode codeSize = first :: rest ∧
      first &&& 0x03 = MethodHeader.fatFormat := by
  obtain ⟨first, second, isPacked⟩ := exists_pairOfBytes header.packed
  obtain ⟨flags_eq, _⟩ := (packed_eq_iff wellFormed.flags_lt wellFormed.dwords_le).mp isPacked
  have format := wellFormed.format
  rw [flags_eq, UInt16.and_assoc] at format
  exact ⟨first, _, encode_eq codeSize isPacked, lowTwo_pairOfBytes_iff.mp format⟩

end FatHeader

/-! ## Both forms -/

theorem toNat_highSix (byte : UInt8) : (byte >>> 2).toNat = byte.toNat / 4 := by
  rw [UInt8.toNat_shiftRight, Nat.shiftRight_eq_div_pow]
  rfl

namespace MethodHeader

/-- The headers that bytes can spell. -/
def WellFormed : MethodHeader → Prop
  | tiny => True
  | fat header => header.WellFormed

/-- The only byte of a tiny header. -/
def tinyByte (codeSize : Nat) : UInt8 :=
  (UInt8.ofNat codeSize <<< 2) ||| tinyFormat

theorem toNat_tinyByte {codeSize : Nat} (fits : codeSize ≤ tinyMaxCodeSize) :
    (tinyByte codeSize).toNat = 4 * codeSize + 2 := by
  have small : codeSize ≤ 63 := fits
  have shifted : (UInt8.ofNat codeSize <<< 2).toNat = 2 ^ 2 * codeSize := by
    rw [UInt8.toNat_shiftLeft, UInt8.toNat_ofNat', Nat.shiftLeft_eq]
    change codeSize % 2 ^ 8 * 2 ^ 2 % 2 ^ 8 = _
    omega
  have format : tinyFormat.toNat < 2 ^ 2 := by decide
  rw [tinyByte, UInt8.toNat_or, shifted, ← Nat.two_pow_add_eq_or_of_lt format]
  rfl

/-- A byte of the tiny form is the header of the code size in its six high bits. -/
theorem tinyByte_highSix {byte : UInt8} (format : byte &&& 0x03 = tinyFormat) :
    (byte >>> 2).toNat ≤ tinyMaxCodeSize ∧ tinyByte (byte >>> 2).toNat = byte := by
  have bound := byte.toNat_lt
  have low := congrArg UInt8.toNat format
  rw [toNat_lowTwo] at low
  change _ = 2 at low
  have fits : (byte >>> 2).toNat ≤ tinyMaxCodeSize := by
    rw [toNat_highSix]
    change _ ≤ 63
    omega
  refine ⟨fits, UInt8.toNat_inj.mp ?_⟩
  rw [toNat_tinyByte fits, toNat_highSix]
  omega

theorem format_tinyByte {codeSize : Nat} (fits : codeSize ≤ tinyMaxCodeSize) :
    tinyByte codeSize &&& 0x03 = tinyFormat ∧ (tinyByte codeSize >>> 2).toNat = codeSize := by
  constructor
  · apply UInt8.toNat_inj.mp
    rw [toNat_lowTwo, toNat_tinyByte fits]
    change _ = 2
    omega
  · rw [toNat_highSix, toNat_tinyByte fits]
    omega

theorem encode_tiny_eq_ok_iff {codeSize : Nat} {bytes : List UInt8} :
    encode .tiny codeSize = .ok bytes ↔
      codeSize ≤ tinyMaxCodeSize ∧ bytes = [tinyByte codeSize] := by
  by_cases tooLarge : codeSize > tinyMaxCodeSize
  · rw [encode, if_pos tooLarge]
    constructor
    · intro impossible
      cases impossible
    · intro impossible
      omega
  · rw [encode, if_neg tooLarge, Except.ok.injEq]
    constructor
    · intro same
      exact ⟨Nat.le_of_not_lt tooLarge, same.symm⟩
    · intro same
      exact same.2.symm

theorem encode_fat_eq_ok_iff {header : FatHeader} {codeSize : Nat} {bytes : List UInt8} :
    encode (.fat header) codeSize = .ok bytes ↔
      codeSize < UInt32.size ∧ bytes = header.encode codeSize := by
  by_cases fits : codeSize < UInt32.size
  · rw [encode, if_pos fits, Except.ok.injEq]
    constructor
    · intro same
      exact ⟨fits, same.symm⟩
    · intro same
      exact same.2.symm
  · rw [encode, if_neg fits]
    constructor
    · intro impossible
      cases impossible
    · intro impossible
      exact absurd impossible.1 fits

/-- Whatever header can state a code size, the code size is a word. -/
theorem codeSize_lt_of_encode {header : MethodHeader} {codeSize : Nat} {bytes : List UInt8}
    (encoded : header.encode codeSize = .ok bytes) : codeSize < UInt32.size := by
  cases header with
  | tiny =>
    have small : codeSize ≤ 63 := (encode_tiny_eq_ok_iff.mp encoded).1
    exact Nat.lt_of_le_of_lt small (by decide)
  | fat header => exact (encode_fat_eq_ok_iff.mp encoded).1

/-- The count of bytes that a header takes. -/
def size : MethodHeader → Nat
  | tiny => 1
  | fat header => 12 + header.extra.length

theorem length_of_encode {header : MethodHeader} {codeSize : Nat} {bytes : List UInt8}
    (encoded : header.encode codeSize = .ok bytes) : bytes.length = header.size := by
  cases header with
  | tiny =>
    obtain ⟨_, rfl⟩ := encode_tiny_eq_ok_iff.mp encoded
    rfl
  | fat header =>
    obtain ⟨_, rfl⟩ := encode_fat_eq_ok_iff.mp encoded
    rw [FatHeader.encode]
    simp only [List.length_append, length_littleEndian, size]

/-- Exactly the well-formed headers are read, with the code sizes that they can state. -/
theorem read_eq_ok_iff {header : MethodHeader} {codeSize : Nat} {cursor next : Cursor} :
    MethodHeader.read cursor = .ok ((header, codeSize), next) ↔
      header.WellFormed ∧
        ∃ bytes, header.encode codeSize = .ok bytes ∧ cursor.Crosses bytes next := by
  rw [MethodHeader.read, Reader.bind_eq_ok_iff]
  constructor
  · intro accepted
    obtain ⟨first, middle, readFirst, readRest⟩ := accepted
    have crossedFirst := Cursor.byte_eq_ok_iff.mp readFirst
    by_cases isTiny : first &&& 0x03 = tinyFormat
    · rw [if_pos isTiny] at readRest
      obtain ⟨described, rfl⟩ := Reader.pure_eq_ok_iff.mp readRest
      cases described
      obtain ⟨fits, same⟩ := tinyByte_highSix isTiny
      rw [← same] at crossedFirst
      exact ⟨trivial, _, encode_tiny_eq_ok_iff.mpr ⟨fits, rfl⟩, crossedFirst⟩
    · rw [if_neg isTiny] at readRest
      by_cases isFat : first &&& 0x03 = fatFormat
      · rw [if_pos isFat] at readRest
        obtain ⟨⟨fatHeader, size⟩, readFat, described⟩ := Reader.map_eq_ok_iff.mp readRest
        cases described
        obtain ⟨wellFormed, fits, rest, encoded, crossedRest⟩ :=
          (FatHeader.read_eq_ok_iff isFat).mp readFat
        refine ⟨wellFormed, _, encode_fat_eq_ok_iff.mpr ⟨fits, rfl⟩, ?_⟩
        rw [encoded]
        exact Cursor.crosses_cons_iff.mpr ⟨middle, crossedFirst, crossedRest⟩
      · rw [if_neg isFat] at readRest
        cases readRest
  · intro described
    obtain ⟨wellFormed, bytes, encoded, crossed⟩ := described
    cases header with
    | tiny =>
      obtain ⟨fits, rfl⟩ := encode_tiny_eq_ok_iff.mp encoded
      obtain ⟨format, size⟩ := format_tinyByte fits
      refine ⟨tinyByte codeSize, next, Cursor.byte_eq_ok_iff.mpr crossed, ?_⟩
      rw [if_pos format, size]
      exact Reader.pure_eq_ok_iff.mpr ⟨rfl, rfl⟩
    | fat header =>
      obtain ⟨fits, rfl⟩ := encode_fat_eq_ok_iff.mp encoded
      obtain ⟨first, rest, split, format⟩ := FatHeader.exists_encode_eq_cons wellFormed codeSize
      rw [split] at crossed
      obtain ⟨middle, crossedFirst, crossedRest⟩ := Cursor.crosses_cons_iff.mp crossed
      have notTiny : ¬ first &&& 0x03 = tinyFormat := by
        rw [format]
        decide
      have readRest :=
        (FatHeader.read_eq_ok_iff format).mpr ⟨wellFormed, fits, rest, split, crossedRest⟩
      refine ⟨first, middle, Cursor.byte_eq_ok_iff.mpr crossedFirst, ?_⟩
      rw [if_neg notTiny, if_pos format]
      exact Reader.map_eq_ok_iff.mpr ⟨(header, codeSize), readRest, rfl⟩

end MethodHeader

end Detour.Body
