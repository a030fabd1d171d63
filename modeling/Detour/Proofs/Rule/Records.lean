import Detour.Proofs.Json.Strings
import Detour.Proofs.Sequencing
import Detour.Rule.Document

/-!
# What records are read from

A record that is read from an object has each of its fields from the one member of that name, or
does without one; a record that is read from an array has the field with a given place from the item
there. What is said about a field is the same for both. The other members of an object are skipped,
so that an object whose fields can be read is read whatever else it holds, in any order.
-/

namespace Detour

open Detour.Json

namespace Json

/-! ## Parts of values -/

/-- The values of the members with a name, in order. -/
def Members.under (name : String) : Members → List Value
  | .closed | .broken _ => []
  | .member key value rest =>
    match key.decode with
    | .ok text => if text = name then value :: rest.under name else rest.under name
    | .error _ => rest.under name

def Items.item? : Nat → Items → Option Value
  | _, .closed | _, .broken _ => none
  | 0, .item value _ => some value
  | index + 1, .item _ rest => rest.item? index

/-- The values of a field in a record: those of its members with the name, or the item at its
place. -/
def Value.field (name : String) (index : Nat) : Value → List Value
  | .object members => members.under name
  | .array items => (items.item? index).toList
  | _ => []

/-- The items of an array that is closed. -/
inductive Items.Lists : Items → List Value → Prop where
  | nil : Items.Lists .closed []
  | cons {rest : Items} {values : List Value} (value : Value) (restLists : rest.Lists values) :
      Items.Lists (.item value rest) (value :: values)

/-- The members of an object that is closed, with the names that their keys write. -/
inductive Members.Lists : Members → List (String × Value) → Prop where
  | nil : Members.Lists .closed []
  | cons {key : RawText} {name : String} {rest : Members} {fields : List (String × Value)}
      (writes : key.Writes name) (value : Value) (restLists : rest.Lists fields) :
      Members.Lists (.member key value rest) ((name, value) :: fields)

/-- The values under a name, in order. -/
def valuesUnder (name : String) (fields : List (String × Value)) : List Value :=
  (fields.filter (·.1 == name)).map (·.2)

section Under

variable {key : RawText} {name other : String} {value : Value} {rest : Members}

theorem Members.under_member_self (decoded : key.decode = .ok name) :
    (Members.member key value rest).under name = value :: rest.under name := by
  rw [Members.under, decoded]
  exact if_pos rfl

theorem Members.under_member_of_ne (decoded : key.decode = .ok other) (differs : other ≠ name) :
    (Members.member key value rest).under name = rest.under name := by
  rw [Members.under, decoded]
  exact if_neg differs

theorem valuesUnder_cons_self (fields : List (String × Value)) :
    valuesUnder name ((name, value) :: fields) = value :: valuesUnder name fields := by
  simp [valuesUnder]

theorem valuesUnder_cons_of_ne (differs : other ≠ name) (fields : List (String × Value)) :
    valuesUnder name ((other, value) :: fields) = valuesUnder name fields := by
  simp [valuesUnder, differs]

theorem Members.Lists.under_eq {members : Members} {fields : List (String × Value)}
    (lists : members.Lists fields) (name : String) :
    members.under name = valuesUnder name fields := by
  induction lists with
  | nil => rfl
  | @cons key text rest fields writes value restLists ih =>
    by_cases same : text = name
    · cases same
      rw [Members.under_member_self writes.decode_eq, valuesUnder_cons_self, ih]
    · rw [Members.under_member_of_ne writes.decode_eq same, valuesUnder_cons_of_ne same, ih]

end Under

end Json

namespace Rule

variable {α β σ : Type}

/-! ## Single fields -/

/-- What a field is read as, from the values that are there for it: nothing from none, and from one
value what it is read as. Once a field was seen, there is no further value. -/
inductive Fills (read : Value → Reading α) : Option α → List Value → Option α → Prop where
  | kept (seen : Option α) : Fills read seen [] seen
  | filled {value : Value} {content : α} (isRead : read value = .ok content) :
      Fills read none [value] (some content)

theorem Fills.unique {read : Value → Reading α} {before first second : Option α}
    {values : List Value} (fillsFirst : Fills read before values first)
    (fillsSecond : Fills read before values second) : first = second := by
  cases fillsFirst with
  | kept =>
    cases fillsSecond with
    | kept => rfl
  | filled firstRead =>
    cases fillsSecond with
    | filled secondRead =>
      rw [firstRead] at secondRead
      cases secondRead
      rfl

namespace Reading

theorem ofText_eq_ok_iff {outcome : Except Fault α} {value : α} :
    ofText outcome = .ok value ↔ outcome = .ok value := by
  cases outcome with
  | ok found => simp [ofText]
  | error fault => simp [ofText]

theorem wrongType_ne_ok (expected : Expected) (value : Value) (content : α) :
    wrongType expected value ≠ .ok content := by
  intro impossible
  cases value with
  | number parts =>
    obtain ⟨number, -, refused⟩ := Except.bind_eq_ok_iff.mp impossible
    cases number <;> cases refused
  | text raw =>
    obtain ⟨text, -, refused⟩ := Except.bind_eq_ok_iff.mp impossible
    cases refused
  | _ => cases impossible

theorem text_eq_ok_iff {value : Value} {string : String} :
    text value = .ok string ↔ ∃ raw, value = .text raw ∧ raw.decode = .ok string := by
  constructor
  · intro isRead
    cases value with
    | text raw => exact ⟨raw, rfl, ofText_eq_ok_iff.mp isRead⟩
    | _ =>
      simp only [text] at isRead
      exact absurd isRead (wrongType_ne_ok .text _ _)
  · rintro ⟨raw, rfl, decoded⟩
    exact ofText_eq_ok_iff.mpr decoded

theorem required_eq_ok_iff {name : String} {seen : Option α} {content : α} :
    required name seen = .ok content ↔ seen = some content := by
  cases seen with
  | none => simp [required, refuse]
  | some found => simp [required]

theorem define_eq_ok_iff {assembly typeName methodName : String} {signature : List UInt8}
    {wrapper : Wrapper} :
    define assembly typeName methodName signature = .ok wrapper ↔
      Wrapper.define assembly typeName methodName signature = .ok wrapper := by
  unfold define
  cases Wrapper.define assembly typeName methodName signature with
  | ok defined => simp
  | error error => simp [refuse]

theorem record_eq_ok_iff {expected : Expected} {fromArray : Items → Reading α}
    {fromObject : Members → Reading α} {value : Value} {content : α} :
    record expected fromArray fromObject value = .ok content ↔
      (∃ items, value = .array items ∧ fromArray items = .ok content) ∨
      ∃ members, value = .object members ∧ fromObject members = .ok content := by
  constructor
  · intro isRead
    cases value with
    | array items => exact .inl ⟨items, rfl, isRead⟩
    | object members => exact .inr ⟨members, rfl, isRead⟩
    | _ =>
      simp only [record] at isRead
      exact absurd isRead (wrongType_ne_ok expected _ _)
  · rintro (⟨items, rfl, isRead⟩ | ⟨members, rfl, isRead⟩)
    · exact isRead
    · exact isRead

theorem items_eq_ok_iff {read : Value → Reading α} {contents : List α} : ∀ {values : Items},
    items read values = .ok contents ↔
      ∃ listed, values.Lists listed ∧
        List.Forall₂ (fun value content => read value = .ok content) listed contents
  | .closed => by
    constructor
    · intro isRead
      cases isRead
      exact ⟨[], .nil, .nil⟩
    · rintro ⟨listed, lists, contentsRead⟩
      cases lists
      cases contentsRead
      rfl
  | .broken fault => by
    constructor
    · intro impossible
      cases impossible
    · rintro ⟨listed, impossible, -⟩
      cases impossible
  | .item value rest => by
    rw [items, Except.bind_eq_ok_iff]
    constructor
    · rintro ⟨first, firstRead, continued⟩
      obtain ⟨others, othersRead, returned⟩ := Except.bind_eq_ok_iff.mp continued
      cases returned
      obtain ⟨listed, lists, contentsRead⟩ := items_eq_ok_iff.mp othersRead
      exact ⟨value :: listed, .cons value lists, .cons firstRead contentsRead⟩
    · rintro ⟨listed, lists, contentsRead⟩
      cases lists with
      | cons _ restLists =>
        cases contentsRead with
        | cons firstRead othersRead =>
          refine ⟨_, firstRead, ?_⟩
          rw [Except.bind_of_ok (items_eq_ok_iff.mpr ⟨_, restLists, othersRead⟩)]
          rfl

theorem sequence_eq_ok_iff {read : Value → Reading α} {value : Value} {contents : List α} :
    sequence read value = .ok contents ↔
      ∃ values listed, value = .array values ∧ values.Lists listed ∧
        List.Forall₂ (fun value content => read value = .ok content) listed contents := by
  constructor
  · intro isRead
    cases value with
    | array values =>
      obtain ⟨listed, lists, contentsRead⟩ := items_eq_ok_iff.mp isRead
      exact ⟨values, listed, rfl, lists, contentsRead⟩
    | _ =>
      simp only [sequence] at isRead
      exact absurd isRead (wrongType_ne_ok .sequence _ _)
  · rintro ⟨values, listed, rfl, lists, contentsRead⟩
    exact items_eq_ok_iff.mpr ⟨listed, lists, contentsRead⟩

end Reading

/-! ## Records written as objects -/

/-- One field of a draft. -/
structure Slot (σ : Type) where
  Content : Type
  name : String
  read : Value → Reading Content
  get : σ → Option Content
  set : σ → Option Content → σ

/-- The draft with a value taken for the field, which must not have been seen before. -/
def Slot.take (slot : Slot σ) (draft : σ) (value : Value) : Reading σ := do
  return slot.set draft (← Reading.setOnce slot.name (slot.get draft) slot.read value)

theorem Slot.take_eq_ok_iff {slot : Slot σ} {draft next : σ} {value : Value} :
    slot.take draft value = .ok next ↔
      slot.get draft = none ∧
        ∃ content, slot.read value = .ok content ∧ next = slot.set draft (some content) := by
  unfold Slot.take Reading.setOnce
  cases seen : slot.get draft with
  | some content =>
    constructor
    · intro impossible
      cases impossible
    · rintro ⟨impossible, -⟩
      cases impossible
  | none =>
    cases isRead : slot.read value with
    | error error =>
      constructor
      · intro impossible
        cases impossible
      · rintro ⟨-, content, impossible, -⟩
        cases impossible
    | ok content =>
      constructor
      · intro taken
        cases taken
        exact ⟨rfl, content, rfl, rfl⟩
      · rintro ⟨-, _, ⟨rfl⟩, rfl⟩
        rfl

/-- The fields of a draft are apart, and members are added to them by name. Members with other names
are skipped. -/
structure AddsTo (add : σ → String → Value → Reading σ) (slots : List (Slot σ)) : Prop where
  get_set : ∀ slot ∈ slots, ∀ draft content, slot.get (slot.set draft content) = content
  get_set_other : ∀ slot ∈ slots, ∀ other ∈ slots, slot.name ≠ other.name →
    ∀ draft content, slot.get (other.set draft content) = slot.get draft
  add_known : ∀ slot ∈ slots, ∀ draft value, add draft slot.name value = slot.take draft value
  add_unknown : ∀ key, (∀ slot ∈ slots, slot.name ≠ key) → ∀ draft value,
    add draft key value = (Reading.skip value).map fun _ => draft

namespace AddsTo

variable {add : σ → String → Value → Reading σ} {slots : List (Slot σ)} {slot : Slot σ}

/-- Adding a member leaves the fields with other names alone. -/
theorem get_of_ne (adds : AddsTo add slots) (isSlot : slot ∈ slots) {draft next : σ}
    {key : String} {value : Value} (added : add draft key value = .ok next)
    (differs : slot.name ≠ key) : slot.get next = slot.get draft := by
  by_cases known : ∃ other ∈ slots, other.name = key
  · obtain ⟨other, isOther, rfl⟩ := known
    rw [adds.add_known other isOther] at added
    obtain ⟨-, content, -, rfl⟩ := Slot.take_eq_ok_iff.mp added
    exact adds.get_set_other slot isSlot other isOther differs _ _
  · have unknown : ∀ other ∈ slots, other.name ≠ key := fun other isOther same =>
      known ⟨other, isOther, same⟩
    rw [adds.add_unknown key unknown] at added
    obtain ⟨-, -, rfl⟩ := Except.map_eq_ok_iff.mp added
    rfl

theorem fills_cons (adds : AddsTo add slots) (isSlot : slot ∈ slots) {draft next : σ}
    {key : RawText} {name : String} {value : Value} {rest : Members}
    {after : Option slot.Content} (decoded : key.decode = .ok name)
    (added : add draft name value = .ok next) :
    Fills slot.read (slot.get draft) ((Members.member key value rest).under slot.name) after ↔
      Fills slot.read (slot.get next) (rest.under slot.name) after := by
  by_cases same : name = slot.name
  · cases same
    rw [adds.add_known slot isSlot] at added
    obtain ⟨unseen, content, isRead, rfl⟩ := Slot.take_eq_ok_iff.mp added
    rw [Members.under_member_self decoded, unseen, adds.get_set slot isSlot]
    constructor
    · intro fills
      generalize behind : rest.under slot.name = others at fills
      cases fills with
      | filled sameRead =>
        rw [isRead] at sameRead
        cases sameRead
        exact .kept _
    · intro fills
      generalize rest.under slot.name = others at fills
      cases fills with
      | kept => exact .filled isRead
  · rw [Members.under_member_of_ne decoded same,
      adds.get_of_ne isSlot added fun sameName => same sameName.symm]

/-- Behind all members, each field holds what it was filled with. -/
theorem fills (adds : AddsTo add slots) {final : σ} :
    ∀ {members : Members} {draft : σ}, Reading.members add draft members = .ok final →
      ∀ slot ∈ slots, Fills slot.read (slot.get draft) (members.under slot.name) (slot.get final)
  | .closed, draft, isRead, slot, isSlot => by
    cases isRead
    exact .kept _
  | .broken fault, draft, impossible, slot, isSlot => by cases impossible
  | .member key value rest, draft, isRead, slot, isSlot => by
    obtain ⟨name, decoded, continued⟩ := Except.bind_eq_ok_iff.mp isRead
    obtain ⟨next, added, restRead⟩ := Except.bind_eq_ok_iff.mp continued
    exact (adds.fills_cons isSlot (Reading.ofText_eq_ok_iff.mp decoded) added).mpr
      (adds.fills restRead slot isSlot)

/-- Members are read if each field can be filled and the other members can be skipped. -/
theorem exists_members (adds : AddsTo add slots) {members : Members}
    {fields : List (String × Value)} (lists : members.Lists fields)
    (sound : ∀ field ∈ fields, field.2.fault? = none) {draft : σ}
    (fillable : ∀ slot ∈ slots, ∃ after,
      Fills slot.read (slot.get draft) (members.under slot.name) after) :
    ∃ final, Reading.members add draft members = .ok final := by
  induction lists generalizing draft with
  | nil => exact ⟨draft, rfl⟩
  | @cons key name rest fields writes value restLists ih =>
    obtain ⟨soundValue, soundRest⟩ := List.forall_mem_cons.mp sound
    have decoded := writes.decode_eq
    have exists_added : ∃ next, add draft name value = .ok next := by
      by_cases known : ∃ slot ∈ slots, slot.name = name
      · obtain ⟨slot, isSlot, rfl⟩ := known
        obtain ⟨after, fills⟩ := fillable slot isSlot
        rw [Members.under_member_self decoded] at fills
        rw [adds.add_known slot isSlot]
        generalize unseen : slot.get draft = seen at fills
        generalize rest.under slot.name = others at fills
        cases fills with
        | filled isRead => exact ⟨_, Slot.take_eq_ok_iff.mpr ⟨unseen, _, isRead, rfl⟩⟩
      · have unknown : ∀ slot ∈ slots, slot.name ≠ name := fun slot isSlot same =>
          known ⟨slot, isSlot, same⟩
        refine ⟨draft, ?_⟩
        rw [adds.add_unknown name unknown, Reading.skip, soundValue]
        rfl
    obtain ⟨next, added⟩ := exists_added
    obtain ⟨final, restRead⟩ := ih soundRest fun slot isSlot => by
      obtain ⟨after, fills⟩ := fillable slot isSlot
      exact ⟨after, (adds.fills_cons isSlot decoded added).mp fills⟩
    refine ⟨final, ?_⟩
    rw [Reading.members, decoded, Reading.ofText, Except.bind_of_ok rfl, Except.bind_of_ok added]
    exact restRead

/-- What a draft holds behind all members, field by field. -/
theorem exists_final (adds : AddsTo add slots) {members : Members}
    {fields : List (String × Value)} (lists : members.Lists fields)
    (sound : ∀ field ∈ fields, field.2.fault? = none) {draft : σ}
    (fillable : ∀ slot ∈ slots, ∃ after,
      Fills slot.read (slot.get draft) (valuesUnder slot.name fields) after) :
    ∃ final, Reading.members add draft members = .ok final ∧ ∀ slot ∈ slots,
      Fills slot.read (slot.get draft) (valuesUnder slot.name fields) (slot.get final) := by
  simp only [← lists.under_eq] at fillable ⊢
  obtain ⟨final, isRead⟩ := adds.exists_members lists sound fillable
  exact ⟨final, isRead, adds.fills isRead⟩

end AddsTo

/-! ## Records written as arrays -/

namespace Reading

/-- The items behind the first one. -/
def tail : Items → Items
  | .item _ rest => rest
  | items => items

theorem item?_tail (items : Items) (index : Nat) :
    (tail items).item? index = items.item? (index + 1) := by
  cases items <;> simp [tail, Items.item?]

theorem run_of_fromItems {fields : StateT Items Reading α} {items : Items} {content : α}
    (isRead : fromItems fields items = .ok content) :
    ∃ rest, fields items = .ok (content, rest) := by
  obtain ⟨⟨found, rest⟩, ran, continued⟩ := Except.bind_eq_ok_iff.mp isRead
  obtain ⟨-, -, returned⟩ := Except.bind_eq_ok_iff.mp continued
  cases returned
  exact ⟨rest, ran⟩

theorem fills_of_nextField? {read : Value → Reading α} {items rest : Items} {seen : Option α}
    (isRead : nextField? read items = .ok (seen, rest)) :
    rest = tail items ∧ Fills read none (items.item? 0).toList seen := by
  cases items with
  | closed =>
    cases isRead
    exact ⟨rfl, .kept none⟩
  | broken fault => cases isRead
  | item value others =>
    obtain ⟨content, valueRead, returned⟩ := Except.bind_eq_ok_iff.mp isRead
    cases returned
    exact ⟨rfl, .filled valueRead⟩

theorem fills_of_nextField {expected : Expected} {index : Nat} {read : Value → Reading α}
    {items rest : Items} {content : α}
    (isRead : nextField expected index read items = .ok (content, rest)) :
    rest = tail items ∧ Fills read none (items.item? 0).toList (some content) := by
  obtain ⟨seen, between, seenRead, continued⟩ := StateT.bind_eq_ok_iff.mp isRead
  cases seen with
  | none => cases continued
  | some value =>
    cases continued
    exact fills_of_nextField? seenRead

end Reading

end Rule

end Detour
