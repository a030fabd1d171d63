import Detour.Proofs.Body.CodeGrammar

/-!
# Code behind other code

A cursor counts the bytes in front of it. With more bytes in front, a reader takes the same bytes
and comes to the same end, and only the positions that it reports move along. Instruction boundaries
are found from the left alone, so behind code that can be decoded the rest is read as if it stood on
its own: its instructions and its fault are the same, as far to the right as that code is long.
-/

namespace Detour.Body

variable {α β : Type}

/-! ## More bytes in front -/

/-- The same rest with more bytes in front of it. -/
def Cursor.shift (cursor : Cursor) (distance : Nat) : Cursor :=
  ⟨cursor.rest, cursor.position + distance⟩

/-- The same instruction further on; offsets are words. -/
def Instruction.shift (instruction : Instruction) (distance : Nat) : Instruction :=
  { instruction with offset := instruction.offset + UInt32.ofNat distance }

/-- The same fault further on. The faults of headers and of code sizes name no place. -/
def BodyError.shift (fault : BodyError) (distance : Nat) : BodyError :=
  match fault with
  | unexpectedEnd offset => unexpectedEnd (offset + distance)
  | invalidHeader byte => invalidHeader byte
  | invalidOpcode opcode offset => invalidOpcode opcode (offset + distance)
  | codeTooLarge size => codeTooLarge size

/-- The same outcome further on: the places in a fault move, and a value moves in its own way. -/
def relocated (distance : Nat) (move : α → β) : Except BodyError α → Except BodyError β
  | .ok value => .ok (move value)
  | .error fault => .error (fault.shift distance)

namespace Reader

/-- With more bytes in front, `moved` comes to what `reader` comes to without them. -/
def Relocates (distance : Nat) (move : α → α) (reader moved : Reader α) : Prop :=
  ∀ cursor, moved (cursor.shift distance) =
    relocated distance (Prod.map move (·.shift distance)) (reader cursor)

variable {distance : Nat} {move : α → α}

theorem relocates_pure (value : α) :
    Relocates distance move (pure value : Reader α) (pure (move value)) :=
  fun _ => rfl

theorem relocates_throw (fault : BodyError) :
    Relocates distance move (throw fault : Reader α) (throw (fault.shift distance)) :=
  fun _ => rfl

theorem relocates_get :
    Relocates distance (·.shift distance) (get : Reader Cursor) get :=
  fun _ => rfl

theorem Relocates.bind {moveRest : β → β} {reader moved : Reader α}
    {continuation movedContinuation : α → Reader β} (first : Relocates distance move reader moved)
    (continues : ∀ value,
      Relocates distance moveRest (continuation value) (movedContinuation (move value))) :
    Relocates distance moveRest (reader >>= continuation) (moved >>= movedContinuation) := by
  intro cursor
  have firstMoved := first cursor
  cases outcome : reader cursor with
  | error fault =>
    rw [outcome] at firstMoved
    rw [bind_of_error outcome, bind_of_error firstMoved]
    rfl
  | ok result =>
    obtain ⟨value, middle⟩ := result
    rw [outcome] at firstMoved
    rw [bind_of_ok outcome, bind_of_ok firstMoved]
    exact continues value middle

/-- A reader that comes to the same value wherever it stands. -/
def IsRelocatable (reader : Reader α) : Prop :=
  ∀ distance, Relocates distance id reader reader

theorem isRelocatable_pure (value : α) : IsRelocatable (pure value : Reader α) :=
  fun _ => relocates_pure value

theorem IsRelocatable.bind {reader : Reader α} {continuation : α → Reader β}
    (first : IsRelocatable reader) (continues : ∀ value, IsRelocatable (continuation value)) :
    IsRelocatable (reader >>= continuation) :=
  fun distance => (first distance).bind fun value => continues value distance

theorem IsRelocatable.map {reader : Reader α} (wrap : α → β) (inner : IsRelocatable reader) :
    IsRelocatable (do return wrap (← reader)) :=
  inner.bind fun value => isRelocatable_pure (wrap value)

end Reader

open Reader

/-! ## Words -/

namespace Cursor

theorem isRelocatable_take (count : Nat) : IsRelocatable (take count) := by
  intro distance cursor
  have behind : cursor.position + distance + count = cursor.position + count + distance :=
    Nat.add_right_comm _ _ _
  unfold take
  dsimp only [shift]
  rw [behind]
  split
  · rfl
  · rfl

theorem isRelocatable_word (width : Nat) : IsRelocatable (word width) :=
  (isRelocatable_take width).map _

theorem isRelocatable_byte : IsRelocatable byte :=
  (isRelocatable_word 1).map _

theorem isRelocatable_word32 : IsRelocatable word32 :=
  (isRelocatable_word 4).map _

theorem isRelocatable_signedWords32 (count : Nat) : IsRelocatable (signedWords32 count) := by
  induction count with
  | zero => exact isRelocatable_pure []
  | succ count ih =>
    have first : IsRelocatable signedWord32 := isRelocatable_word32.map _
    exact first.bind fun value => ih.map _

end Cursor

/-! ## Instructions -/

theorem Opcode.isRelocatable_read : IsRelocatable Opcode.read := by
  refine Cursor.isRelocatable_byte.bind fun first => ?_
  split
  · exact Cursor.isRelocatable_byte.map _
  · exact isRelocatable_pure _

theorem Operand.isRelocatable_readSwitch : IsRelocatable Operand.readSwitch := by
  intro distance
  refine (Cursor.isRelocatable_word32 distance).bind fun count => ?_
  refine relocates_get.bind fun cursor => ?_
  -- Room for the targets is a matter of the rest alone, and the fault tells where it was missing.
  change Relocates distance id (if count.toNat > cursor.rest.length / 4 then _ else _)
    (if count.toNat > cursor.rest.length / 4 then _ else _)
  split
  · exact relocates_throw _
  · exact (Cursor.isRelocatable_signedWords32 count.toNat).map _ distance

theorem Operand.isRelocatable_read (shape : OperandShape) : IsRelocatable (Operand.read shape) := by
  cases fixed : shape.width? with
  | some width =>
    rw [Operand.read_eq_of_width? fixed]
    exact (Cursor.isRelocatable_take width).map _
  | none =>
    cases shape with
    | switch => exact Operand.isRelocatable_readSwitch
    | none | shortVar | shortInt | shortBranch | var | int | long | single | double | branch
    | token => cases fixed

/-- Only the offset of an instruction tells where it was read. -/
theorem Instruction.relocates_read (distance : Nat) :
    Relocates distance (·.shift distance) Instruction.read Instruction.read := by
  refine relocates_get.bind fun cursor => ?_
  refine (Opcode.isRelocatable_read distance).bind fun opcode => ?_
  dsimp only [id]
  cases opcode.operandShape? with
  | none => exact relocates_throw (.invalidOpcode opcode cursor.position)
  | some shape =>
    refine (Operand.isRelocatable_read shape distance).bind fun operand => ?_
    have offset : UInt32.ofNat (cursor.shift distance).position =
        UInt32.ofNat cursor.position + UInt32.ofNat distance := UInt32.ofNat_add _ _
    rw [offset]
    exact relocates_pure _

/-! ## Streams -/

theorem readInstructions_shift (fuel : Nat) (cursor : Cursor) (distance : Nat) :
    readInstructions fuel (cursor.shift distance) =
      relocated distance (List.map (·.shift distance)) (readInstructions fuel cursor) := by
  induction fuel generalizing cursor with
  | zero => rfl
  | succ fuel ih =>
    by_cases empty : cursor.rest = []
    · have movedEmpty : (cursor.shift distance).rest = [] := empty
      rw [readInstructions_of_empty empty, readInstructions_of_empty movedEmpty]
      rfl
    · have movedSomething : (cursor.shift distance).rest ≠ [] := empty
      have moved := Instruction.relocates_read distance cursor
      cases outcome : Instruction.read cursor with
      | error fault =>
        rw [outcome] at moved
        rw [readInstructions_of_fault empty outcome,
          readInstructions_of_fault movedSomething moved]
        rfl
      | ok result =>
        obtain ⟨first, next⟩ := result
        rw [outcome] at moved
        rw [readInstructions_of_read outcome, readInstructions_of_read moved, ih next]
        cases readInstructions fuel next with
        | error fault => rfl
        | ok others => rfl

/-- Fuel for every byte is enough, and more of it changes nothing. -/
theorem readInstructions_eq_of_enough {fuel other : Nat} {cursor : Cursor}
    (enough : cursor.rest.length ≤ fuel) (otherEnough : cursor.rest.length ≤ other) :
    readInstructions fuel cursor = readInstructions other cursor := by
  induction fuel generalizing cursor other with
  | zero =>
    have empty : cursor.rest = [] := List.length_eq_zero_iff.mp (Nat.le_zero.mp enough)
    rw [readInstructions_of_empty empty, readInstructions_of_empty empty]
  | succ fuel ih =>
    by_cases empty : cursor.rest = []
    · rw [readInstructions_of_empty empty, readInstructions_of_empty empty]
    · have something := List.length_pos_iff.mpr empty
      cases other with
      | zero => omega
      | succ other =>
        cases outcome : Instruction.read cursor with
        | error fault =>
          rw [readInstructions_of_fault empty outcome, readInstructions_of_fault empty outcome]
        | ok result =>
          obtain ⟨first, next⟩ := result
          have positive := first.size_pos
          have split := Instruction.length_rest_of_read outcome
          have restEnough : next.rest.length ≤ fuel := by omega
          have otherRestEnough : next.rest.length ≤ other := by omega
          rw [readInstructions_of_read outcome, readInstructions_of_read outcome,
            ih restEnough otherRestEnough]

/-- Bytes behind an instruction do not change it. -/
theorem Instruction.read_append {instruction : Instruction} {cursor next : Cursor}
    (read : Instruction.read cursor = .ok (instruction, next)) (more : List UInt8) :
    Instruction.read ⟨cursor.rest ++ more, cursor.position⟩ =
      .ok (instruction, ⟨next.rest ++ more, next.position⟩) := by
  obtain ⟨placed, shaped, counted, crossed⟩ := read_eq_ok_iff.mp read
  refine read_eq_ok_iff.mpr ⟨placed, shaped, counted, ?_, crossed.position_eq⟩
  rw [crossed.rest_eq, List.append_assoc]

/-- Bytes behind a stream are read from where the stream ends. -/
theorem Cursor.Spells.readInstructions_append {cursor : Cursor} {instructions : List Instruction}
    (spelled : cursor.Spells instructions) (more : List UInt8) {fuel : Nat}
    (enough : cursor.rest.length + more.length ≤ fuel) :
    readInstructions fuel ⟨cursor.rest ++ more, cursor.position⟩ =
      (readInstructions more.length ⟨more, cursor.position + cursor.rest.length⟩).map
        (instructions ++ ·) := by
  induction instructions generalizing cursor fuel with
  | nil =>
    have empty : cursor.rest = [] := spelled.rest_eq
    rw [empty, List.length_nil, Nat.zero_add] at enough
    rw [empty, List.nil_append, List.length_nil, Nat.add_zero,
      readInstructions_eq_of_enough enough (Nat.le_refl _)]
    cases readInstructions more.length ⟨more, cursor.position⟩ with
    | error fault => rfl
    | ok others => rfl
  | cons first rest ih =>
    obtain ⟨next, read, spelledRest⟩ := spells_cons_iff.mp spelled
    obtain ⟨_, _, _, crossed⟩ := Instruction.read_eq_ok_iff.mp read
    have positive := first.size_pos
    have split := Instruction.length_rest_of_read read
    have ends : next.position + next.rest.length = cursor.position + cursor.rest.length := by
      rw [crossed.position_eq, first.length_encode, split, Nat.add_assoc]
    cases fuel with
    | zero => omega
    | succ fuel =>
      rw [readInstructions_of_read (Instruction.read_append read more),
        ih spelledRest (by omega), ends]
      cases readInstructions more.length ⟨more, cursor.position + cursor.rest.length⟩ with
      | error fault => rfl
      | ok others => rfl

/-- Behind code that can be decoded, other code is decoded as it is on its own, only further on. -/
theorem decodeInstructions_append {code : List UInt8} {instructions : List Instruction}
    (decoded : decodeInstructions code = .ok instructions) (more : List UInt8) :
    decodeInstructions (code ++ more) =
      (relocated code.length (List.map (·.shift code.length)) (decodeInstructions more)).map
        (instructions ++ ·) := by
  have spelled := decodeInstructions_eq_ok_iff.mp decoded
  have enough : code.length + more.length ≤ (code ++ more).length :=
    Nat.le_of_eq List.length_append.symm
  rw [decodeInstructions, decodeInstructions, ← readInstructions_shift]
  exact spelled.readInstructions_append more enough

end Detour.Body
