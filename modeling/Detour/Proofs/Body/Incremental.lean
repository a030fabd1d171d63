import Detour.Body.Decode
import Detour.Proofs.Body.Reading

/-!
# Incremental reading

A reader is incremental if what it comes to is settled by the bytes that it has seen. Other bytes
behind those that it takes change nothing, and the only fault that more bytes can mend is that there
were not enough of them. So a reader that is given a part of what it would take has no other way out
than to report the end, at a place inside that part.
-/

namespace Detour.Body

variable {α β : Type}

namespace Reader

/-- A fault at a cursor: the bytes in front of it end, or no bytes behind them make a difference. -/
inductive Faults (reader : Reader α) (cursor : Cursor) : BodyError → Prop where
  | cutOff {place : Nat} (from_le : cursor.position ≤ place)
      (le_end : place ≤ cursor.position + cursor.rest.length) :
    Faults reader cursor (.unexpectedEnd place)
  | lasting {fault : BodyError} (notEnd : ∀ place, fault ≠ .unexpectedEnd place)
      (lasts : ∀ more, reader ⟨cursor.rest ++ more, cursor.position⟩ = .error fault) :
    Faults reader cursor fault

/-- More bytes mend nothing but an unexpected end. -/
structure Incremental (reader : Reader α) : Prop where
  takes : ∀ {cursor next : Cursor} {value : α}, reader cursor = .ok (value, next) →
    ∃ bytes, cursor.Crosses bytes next ∧
      ∀ more, reader ⟨bytes ++ more, cursor.position⟩ = .ok (value, ⟨more, next.position⟩)
  faults : ∀ {cursor : Cursor} {fault : BodyError}, reader cursor = .error fault →
    Faults reader cursor fault

theorem incremental_pure (value : α) : Incremental (pure value : Reader α) where
  takes read := by
    obtain ⟨rfl, rfl⟩ := pure_eq_ok_iff.mp read
    exact ⟨[], Cursor.crosses_nil_iff.mpr rfl, fun more => rfl⟩
  faults failed := by cases failed

theorem incremental_throw {fault : BodyError} (notEnd : ∀ place, fault ≠ .unexpectedEnd place) :
    Incremental (throw fault : Reader α) where
  takes read := by cases read
  faults failed := by
    cases failed
    exact .lasting notEnd fun more => rfl

theorem bind_of_ok {reader : Reader α} {continuation : α → Reader β} {cursor middle : Cursor}
    {first : α} (read : reader cursor = .ok (first, middle)) :
    (reader >>= continuation) cursor = continuation first middle :=
  Except.bind_of_ok read fun outcome => continuation outcome.1 outcome.2

theorem bind_of_error {reader : Reader α} {continuation : α → Reader β} {cursor : Cursor}
    {fault : BodyError} (failed : reader cursor = .error fault) :
    (reader >>= continuation) cursor = .error fault :=
  Except.bind_of_error failed fun outcome => continuation outcome.1 outcome.2

theorem incremental_bind {reader : Reader α} {continuation : α → Reader β}
    (first : Incremental reader) (continues : ∀ value, Incremental (continuation value)) :
    Incremental (reader >>= continuation) where
  takes := by
    intro cursor next value read
    obtain ⟨inner, middle, readFirst, readRest⟩ := bind_eq_ok_iff.mp read
    obtain ⟨firstBytes, crossedFirst, firstAgain⟩ := first.takes readFirst
    obtain ⟨restBytes, crossedRest, restAgain⟩ := (continues inner).takes readRest
    refine ⟨firstBytes ++ restBytes, ?_, ?_⟩
    · exact Cursor.crosses_append_iff.mpr ⟨middle, crossedFirst, crossedRest⟩
    · intro more
      rw [List.append_assoc, bind_of_ok (firstAgain (restBytes ++ more))]
      exact restAgain more
  faults := by
    intro cursor fault failed
    cases outcome : reader cursor with
    | error firstFault =>
      rw [bind_of_error outcome] at failed
      cases failed
      cases first.faults outcome with
      | cutOff from_le le_end => exact .cutOff from_le le_end
      | lasting notEnd lasts => exact .lasting notEnd fun more => bind_of_error (lasts more)
    | ok result =>
      obtain ⟨inner, middle⟩ := result
      rw [bind_of_ok outcome] at failed
      obtain ⟨firstBytes, crossedFirst, firstAgain⟩ := first.takes outcome
      have rest_eq := crossedFirst.rest_eq
      have position_eq := crossedFirst.position_eq
      cases (continues inner).faults failed with
      | cutOff from_le le_end =>
        rw [position_eq] at from_le le_end
        have split := congrArg List.length rest_eq
        rw [List.length_append] at split
        exact .cutOff (by omega) (by omega)
      | lasting notEnd lasts =>
        refine .lasting notEnd fun more => ?_
        rw [rest_eq, List.append_assoc, bind_of_ok (firstAgain (middle.rest ++ more))]
        exact lasts more

theorem incremental_map {reader : Reader α} (wrap : α → β) (inner : Incremental reader) :
    Incremental (do return wrap (← reader)) :=
  incremental_bind inner fun value => incremental_pure (wrap value)

/-- With fewer bytes than it takes, an incremental reader reports the end of those that it has. -/
theorem Incremental.cut {reader : Reader α} (incremental : Incremental reader)
    {cursor next : Cursor} {value : α} {bytes part : List UInt8}
    (read : reader cursor = .ok (value, next)) (crossed : cursor.Crosses bytes next)
    (isPart : part <+: bytes) (shorter : part.length < bytes.length) :
    ∃ place, reader ⟨part, cursor.position⟩ = .error (.unexpectedEnd place) ∧
      cursor.position ≤ place ∧ place ≤ cursor.position + part.length := by
  -- Whatever the part came to for good, the whole would come to as well.
  obtain ⟨missing, rfl⟩ := isPart
  have whole : cursor = ⟨part ++ (missing ++ next.rest), cursor.position⟩ := by
    rw [← List.append_assoc, ← crossed.rest_eq]
  cases outcome : reader ⟨part, cursor.position⟩ with
  | ok result =>
    obtain ⟨_, early⟩ := result
    obtain ⟨taken, crossedEarly, again⟩ := incremental.takes outcome
    have split : part = taken ++ early.rest := crossedEarly.rest_eq
    have earlyPosition : early.position = cursor.position + taken.length :=
      crossedEarly.position_eq
    have readAgain := again (early.rest ++ (missing ++ next.rest))
    rw [← List.append_assoc, ← split] at readAgain
    rw [whole, readAgain] at read
    have samePosition : early.position = next.position :=
      congrArg (fun result => result.2.position) (Except.ok.inj read)
    have position_eq := crossed.position_eq
    have counted := congrArg List.length split
    rw [List.length_append] at counted
    omega
  | error fault =>
    cases incremental.faults outcome with
    | cutOff from_le le_end => exact ⟨_, rfl, from_le, le_end⟩
    | lasting notEnd lasts =>
      have lastsHere := lasts (missing ++ next.rest)
      rw [whole, lastsHere] at read
      cases read

end Reader

/-! ## Words -/

namespace Cursor

open Reader

theorem incremental_take (count : Nat) : Incremental (take count) where
  takes read := by
    obtain ⟨counted, crossed⟩ := take_eq_ok_iff.mp read
    exact ⟨_, crossed, fun more => take_eq_ok_iff.mpr ⟨counted, rfl, crossed.position_eq⟩⟩
  faults := by
    intro cursor fault failed
    unfold take at failed
    dsimp only at failed
    split at failed
    · cases failed
    · cases failed
      exact .cutOff (Nat.le_refl _) (Nat.le_add_right _ _)

theorem incremental_word (width : Nat) : Incremental (word width) :=
  incremental_map _ (incremental_take width)

theorem incremental_byte : Incremental byte :=
  incremental_map _ (incremental_word 1)

theorem incremental_word16 : Incremental word16 :=
  incremental_map _ (incremental_word 2)

theorem incremental_word32 : Incremental word32 :=
  incremental_map _ (incremental_word 4)

end Cursor

open Reader

/-! ## Headers -/

theorem FatHeader.incremental_read (first : UInt8) : Incremental (FatHeader.read first) := by
  unfold FatHeader.read
  refine incremental_bind Cursor.incremental_byte fun second => ?_
  dsimp only
  split
  · exact incremental_throw fun place => nofun
  · refine incremental_bind Cursor.incremental_word16 fun maxStack => ?_
    refine incremental_bind Cursor.incremental_word32 fun codeSize => ?_
    refine incremental_bind Cursor.incremental_word32 fun locals => ?_
    exact incremental_map _ (Cursor.incremental_take _)

theorem MethodHeader.incremental_read : Incremental MethodHeader.read := by
  unfold MethodHeader.read
  refine incremental_bind Cursor.incremental_byte fun first => ?_
  split
  · exact incremental_pure _
  · split
    · exact incremental_map _ (FatHeader.incremental_read first)
    · exact incremental_throw fun place => nofun

end Detour.Body
