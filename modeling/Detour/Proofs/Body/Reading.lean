import Detour.Body.Cursor
import Detour.Proofs.Sequencing

/-!
# What readers accept

A reader that succeeds has crossed some bytes: they stood in front of its cursor and stand behind
the next one. For every primitive reader the bytes of a value are determined by the value, so that
a reader's success is equivalent to crossing them.
-/

namespace Detour.Body

/-- `next` stands behind the bytes that `cursor` stands in front of. -/
structure Cursor.Crosses (cursor : Cursor) (bytes : List UInt8) (next : Cursor) : Prop where
  rest_eq : cursor.rest = bytes ++ next.rest
  position_eq : next.position = cursor.position + bytes.length

namespace Cursor

theorem crosses_nil_iff {cursor next : Cursor} : cursor.Crosses [] next ↔ next = cursor := by
  constructor
  · intro accepted
    obtain ⟨rest_eq, position_eq⟩ := accepted
    cases cursor
    cases next
    simp_all
  · intro same
    subst same
    exact ⟨rfl, rfl⟩

theorem crosses_append_iff {cursor next : Cursor} {first second : List UInt8} :
    cursor.Crosses (first ++ second) next ↔
      ∃ middle, cursor.Crosses first middle ∧ middle.Crosses second next := by
  constructor
  · intro accepted
    obtain ⟨rest_eq, position_eq⟩ := accepted
    refine ⟨⟨second ++ next.rest, cursor.position + first.length⟩, ⟨?_, rfl⟩, ⟨rfl, ?_⟩⟩
    · rw [rest_eq, List.append_assoc]
    · rw [position_eq, List.length_append, Nat.add_assoc]
  · intro described
    obtain ⟨middle, ⟨firstRest, firstPosition⟩, ⟨secondRest, secondPosition⟩⟩ := described
    constructor
    · rw [firstRest, secondRest, List.append_assoc]
    · rw [secondPosition, firstPosition, List.length_append, Nat.add_assoc]

theorem crosses_cons_iff {cursor next : Cursor} {byte : UInt8} {rest : List UInt8} :
    cursor.Crosses (byte :: rest) next ↔
      ∃ middle, cursor.Crosses [byte] middle ∧ middle.Crosses rest next := by
  rw [← List.singleton_append, crosses_append_iff]

theorem crosses_start (bytes rest : List UInt8) :
    (start (bytes ++ rest)).Crosses bytes ⟨rest, bytes.length⟩ :=
  ⟨rfl, (Nat.zero_add _).symm⟩

end Cursor

/-! ## Composed readers -/

variable {α β : Type}

namespace Reader

theorem bind_eq_ok_iff {reader : Reader α} {continuation : α → Reader β} {cursor next : Cursor}
    {value : β} :
    (reader >>= continuation) cursor = .ok (value, next) ↔
      ∃ first middle, reader cursor = .ok (first, middle) ∧
        continuation first middle = .ok (value, next) :=
  StateT.bind_eq_ok_iff

theorem pure_eq_ok_iff {value result : α} {cursor next : Cursor} :
    (pure value : Reader α) cursor = .ok (result, next) ↔ value = result ∧ next = cursor :=
  StateT.pure_eq_ok_iff

/-- A reader that only wraps what another one gives. -/
theorem map_eq_ok_iff {reader : Reader α} {wrap : α → β} {cursor next : Cursor} {value : β} :
    (do return wrap (← reader) : Reader β) cursor = .ok (value, next) ↔
      ∃ inner, reader cursor = .ok (inner, next) ∧ wrap inner = value := by
  rw [bind_eq_ok_iff]
  constructor
  · intro accepted
    obtain ⟨inner, middle, read, returned⟩ := accepted
    obtain ⟨wrapped, rfl⟩ := pure_eq_ok_iff.mp returned
    exact ⟨inner, read, wrapped⟩
  · intro described
    obtain ⟨inner, read, wrapped⟩ := described
    exact ⟨inner, next, read, pure_eq_ok_iff.mpr ⟨wrapped, rfl⟩⟩

end Reader

/-! ## Words -/

theorem ofLittleEndian_lt (bytes : List UInt8) :
    ofLittleEndian bytes < Nat.pow 256 bytes.length := by
  induction bytes with
  | nil => decide
  | cons byte rest ih =>
    have bound := byte.toNat_lt
    have power : Nat.pow 256 (rest.length + 1) = Nat.pow 256 rest.length * 256 := rfl
    rw [ofLittleEndian, List.length_cons, power]
    omega

namespace Cursor

theorem take_eq_ok_iff {count : Nat} {cursor next : Cursor} {bytes : List UInt8} :
    take count cursor = .ok (bytes, next) ↔ bytes.length = count ∧ cursor.Crosses bytes next := by
  constructor
  · intro taken
    by_cases enough : (cursor.rest.take count).length = count
    · rw [take, if_pos enough] at taken
      cases taken
      exact ⟨enough, (List.take_append_drop count cursor.rest).symm, by rw [enough]⟩
    · rw [take, if_neg enough] at taken
      cases taken
  · intro described
    obtain ⟨rfl, rest_eq, position_eq⟩ := described
    obtain ⟨rest, position⟩ := cursor
    obtain ⟨nextRest, nextPosition⟩ := next
    dsimp only at rest_eq position_eq
    rw [rest_eq, position_eq]
    exact take_append bytes nextRest position

theorem word_eq_ok_iff {width n : Nat} {cursor next : Cursor} :
    word width cursor = .ok (n, next) ↔
      n < Nat.pow 256 width ∧ cursor.Crosses (littleEndian width n) next := by
  rw [word, Reader.map_eq_ok_iff]
  constructor
  · intro accepted
    obtain ⟨bytes, taken, rfl⟩ := accepted
    obtain ⟨rfl, crossed⟩ := take_eq_ok_iff.mp taken
    rw [littleEndian_ofLittleEndian]
    exact ⟨ofLittleEndian_lt bytes, crossed⟩
  · intro described
    obtain ⟨fits, crossed⟩ := described
    have taken := take_eq_ok_iff.mpr ⟨length_littleEndian width n, crossed⟩
    exact ⟨littleEndian width n, taken, ofLittleEndian_littleEndian fits⟩

/-- A word read as a type whose values are the numbers of exactly `width` bytes. -/
theorem map_word_eq_ok_iff {α : Type} {width : Nat} {ofNat : Nat → α} {toNat : α → Nat}
    (toNat_lt : ∀ value, toNat value < Nat.pow 256 width)
    (ofNat_toNat : ∀ value, ofNat (toNat value) = value)
    (toNat_ofNat : ∀ n, n < Nat.pow 256 width → toNat (ofNat n) = n)
    {value : α} {cursor next : Cursor} :
    (do return ofNat (← word width) : Reader α) cursor = .ok (value, next) ↔
      cursor.Crosses (littleEndian width (toNat value)) next := by
  rw [Reader.map_eq_ok_iff]
  constructor
  · intro accepted
    obtain ⟨n, read, rfl⟩ := accepted
    obtain ⟨fits, crossed⟩ := word_eq_ok_iff.mp read
    rw [toNat_ofNat n fits]
    exact crossed
  · intro crossed
    exact ⟨toNat value, word_eq_ok_iff.mpr ⟨toNat_lt value, crossed⟩, ofNat_toNat value⟩

theorem byte_eq_ok_iff {value : UInt8} {cursor next : Cursor} :
    byte cursor = .ok (value, next) ↔ cursor.Crosses [value] next := by
  have single : [value] = littleEndian 1 value.toNat := by
    rw [littleEndian, littleEndian, UInt8.ofNat_toNat]
  rw [single]
  exact map_word_eq_ok_iff UInt8.toNat_lt (fun _ => UInt8.ofNat_toNat)
    (fun _ => UInt8.toNat_ofNat_of_lt')

theorem word16_eq_ok_iff {value : UInt16} {cursor next : Cursor} :
    word16 cursor = .ok (value, next) ↔ cursor.Crosses (littleEndian 2 value.toNat) next :=
  map_word_eq_ok_iff UInt16.toNat_lt (fun _ => UInt16.ofNat_toNat)
    (fun _ => UInt16.toNat_ofNat_of_lt')

theorem word32_eq_ok_iff {value : UInt32} {cursor next : Cursor} :
    word32 cursor = .ok (value, next) ↔ cursor.Crosses (littleEndian 4 value.toNat) next :=
  map_word_eq_ok_iff UInt32.toNat_lt (fun _ => UInt32.ofNat_toNat)
    (fun _ => UInt32.toNat_ofNat_of_lt')

theorem word64_eq_ok_iff {value : UInt64} {cursor next : Cursor} :
    word64 cursor = .ok (value, next) ↔ cursor.Crosses (littleEndian 8 value.toNat) next :=
  map_word_eq_ok_iff UInt64.toNat_lt (fun _ => UInt64.ofNat_toNat)
    (fun _ => UInt64.toNat_ofNat_of_lt')

theorem signedByte_eq_ok_iff {value : Int8} {cursor next : Cursor} :
    signedByte cursor = .ok (value, next) ↔ cursor.Crosses [value.toUInt8] next := by
  rw [signedByte, Reader.map_eq_ok_iff]
  constructor
  · intro accepted
    obtain ⟨raw, read, rfl⟩ := accepted
    exact byte_eq_ok_iff.mp read
  · intro crossed
    exact ⟨value.toUInt8, byte_eq_ok_iff.mpr crossed, rfl⟩

theorem signedWord32_eq_ok_iff {value : Int32} {cursor next : Cursor} :
    signedWord32 cursor = .ok (value, next) ↔
      cursor.Crosses (littleEndian 4 value.toUInt32.toNat) next := by
  rw [signedWord32, Reader.map_eq_ok_iff]
  constructor
  · intro accepted
    obtain ⟨raw, read, rfl⟩ := accepted
    exact word32_eq_ok_iff.mp read
  · intro crossed
    exact ⟨value.toUInt32, word32_eq_ok_iff.mpr crossed, rfl⟩

theorem signedWords32_eq_ok_iff {count : Nat} {values : List Int32} {cursor next : Cursor} :
    signedWords32 count cursor = .ok (values, next) ↔
      values.length = count ∧
        cursor.Crosses (values.flatMap fun value => littleEndian 4 value.toUInt32.toNat) next := by
  induction count generalizing values cursor with
  | zero =>
    rw [signedWords32, Reader.pure_eq_ok_iff]
    constructor
    · intro accepted
      obtain ⟨rfl, rfl⟩ := accepted
      exact ⟨rfl, crosses_nil_iff.mpr rfl⟩
    · intro described
      obtain ⟨empty, crossed⟩ := described
      obtain rfl := List.length_eq_zero_iff.mp empty
      exact ⟨rfl, crosses_nil_iff.mp crossed⟩
  | succ count ih =>
    rw [signedWords32, Reader.bind_eq_ok_iff]
    constructor
    · intro accepted
      obtain ⟨first, middle, readFirst, readOthers⟩ := accepted
      obtain ⟨rest, readRest, rfl⟩ := Reader.map_eq_ok_iff.mp readOthers
      have crossedFirst := signedWord32_eq_ok_iff.mp readFirst
      obtain ⟨rfl, crossedRest⟩ := ih.mp readRest
      refine ⟨rfl, ?_⟩
      rw [List.flatMap_cons]
      exact crosses_append_iff.mpr ⟨middle, crossedFirst, crossedRest⟩
    · intro described
      obtain ⟨counted, crossed⟩ := described
      obtain ⟨first, rest, rfl⟩ := List.exists_cons_of_length_eq_add_one counted
      rw [List.flatMap_cons] at crossed
      obtain ⟨middle, crossedFirst, crossedRest⟩ := crosses_append_iff.mp crossed
      have readFirst := signedWord32_eq_ok_iff.mpr crossedFirst
      have restCounted : rest.length = count := Nat.succ.inj counted
      have readRest := ih.mpr ⟨restCounted, crossedRest⟩
      exact ⟨first, middle, readFirst, Reader.map_eq_ok_iff.mpr ⟨rest, readRest, rfl⟩⟩

end Cursor

end Detour.Body
