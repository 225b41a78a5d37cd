import Mathlib.Algebra.Order.Ring.Int
import Mathlib.Data.List.Basic
import Mathlib.Tactic.Common

/-!
# JSON values and derived struct decoding

A JSON value, and the way a derived deserializer reads a struct from it. `Json.structFields` finds
the fields of a struct: in an object by name, where a name the struct knows may occur once and every
other member is ignored, and in an array by position. `Json.required` and `Json.defaulted` decode
one field.

`lookup_eq_of_structFields` and `length_of_structFields` are what two structs read from one value
have in common: from an object they read the same member under the same name, and an array is as
long as the last required field of either.
-/

set_option autoImplicit false
set_option relaxedAutoImplicit false

namespace MessagingRelayer.Foundation

/-- A computation in two parts succeeds when both parts do. -/
theorem bind_eq_ok_iff {Failure First Second : Type} {first : Except Failure First}
    {second : First → Except Failure Second} {result : Second} :
    (first >>= second) = .ok result ↔ ∃ value, first = .ok value ∧ second value = .ok result := by
  cases first with
  | error failure =>
    change Except.error failure = Except.ok result ↔ _
    simp
  | ok value =>
    change second value = Except.ok result ↔ _
    simp

/-- A JSON value. Members of an object keep their order and their repetitions; a number is kept
as an integer when it is written without a fraction and an exponent, and as its text otherwise. -/
inductive Json
  | null
  | bool (value : Bool)
  | int (value : Int)
  | float (text : String)
  | str (value : String)
  | arr (items : List Json)
  | obj (members : List (String × Json))

namespace Json

/-! ### The fields of a struct -/

/-- The fields of a derived struct with the given field names, as a function of the name. -/
def structFields (names : List String) : Json → Except String (String → Option Json)
  | .obj members =>
    match names.find? fun name ↦ 1 < members.countP fun member ↦ member.1 == name with
    | some name => .error s!"duplicate field `{name}`"
    | none => .ok fun name ↦ members.lookup name
  | .arr items =>
    if names.length < items.length then .error "trailing characters"
    else .ok fun name ↦ (names.zip items).lookup name
  | _ => .error "invalid type, expected struct"

variable {Value : Type*}

/-- A field without a default. -/
def required (fields : String → Option Json) (name : String)
    (decode : Json → Except String Value) : Except String Value :=
  match fields name with
  | none => .error s!"missing field `{name}`"
  | some json => decode json

/-- A field with a default. -/
def defaulted (fields : String → Option Json) (name : String)
    (decode : Json → Except String Value) (default : Value) : Except String Value :=
  match fields name with
  | none => .ok default
  | some json => decode json

/-! ### The values of a field -/

/-- A string. -/
def asString : Json → Except String String
  | .str value => .ok value
  | _ => .error "invalid type, expected a string"

/-- A signed 64-bit integer. -/
def asI64 : Json → Except String Int
  | .int value =>
    if -2 ^ 63 ≤ value ∧ value < 2 ^ 63 then .ok value else .error "invalid value, expected i64"
  | _ => .error "invalid type, expected i64"

/-- What is read as an `i64` is in its range. -/
theorem asI64_eq_ok {json : Json} {value : Int} (hread : asI64 json = .ok value) :
    -2 ^ 63 ≤ value ∧ value < 2 ^ 63 := by
  cases json with
  | int number =>
    unfold asI64 at hread
    simp only at hread
    split_ifs at hread with hrange
    obtain rfl := Except.ok.inj hread
    exact hrange
  | _ => simp [asI64] at hread

/-- A sequence. -/
def asVec (decode : Json → Except String Value) : Json → Except String (List Value)
  | .arr items => items.mapM decode
  | _ => .error "invalid type, expected a sequence"

/-! ### Two structs read from one value -/

theorem required_eq_ok {fields : String → Option Json} {name : String}
    {decode : Json → Except String Value} {value : Value}
    (hrequired : required fields name decode = .ok value) :
    ∃ json, fields name = some json ∧ decode json = .ok value := by
  unfold required at hrequired
  cases hfield : fields name with
  | none => simp [hfield] at hrequired
  | some json => exact ⟨json, rfl, by simpa [hfield] using hrequired⟩

theorem idxOf_lt_of_lookup_zip {names : List String} {items : List Json} {name : String}
    {json : Json} (hlookup : (names.zip items).lookup name = some json) :
    names.idxOf name < items.length := by
  induction names generalizing items with
  | nil => simp at hlookup
  | cons head rest ih =>
    cases items with
    | nil => simp at hlookup
    | cons item others =>
      rw [List.zip_cons_cons, List.lookup_cons] at hlookup
      by_cases hname : name = head
      · subst hname
        simp
      · rw [beq_false_of_ne hname] at hlookup
        rw [List.idxOf_cons_ne _ (Ne.symm hname), List.length_cons]
        exact Nat.succ_lt_succ (ih hlookup)

/-- Struct fields read from an object are its members. -/
theorem lookup_eq_of_structFields {names : List String} {members : List (String × Json)}
    {fields : String → Option Json} (hfields : structFields names (.obj members) = .ok fields) :
    fields = fun name ↦ members.lookup name := by
  simp only [structFields] at hfields
  split at hfields
  · exact absurd hfields (by simp)
  · exact (Except.ok.inj hfields).symm

/-- Struct fields read from an array are no more than the struct has, and reach to every field that
was found. -/
theorem length_of_structFields {names : List String} {items : List Json}
    {fields : String → Option Json} (hfields : structFields names (.arr items) = .ok fields) :
    items.length ≤ names.length ∧
      ∀ name json, fields name = some json → names.idxOf name < items.length := by
  simp only [structFields] at hfields
  split_ifs at hfields with hlength
  obtain rfl := Except.ok.inj hfields
  exact ⟨Nat.le_of_not_lt hlength, fun name json hjson ↦ idxOf_lt_of_lookup_zip hjson⟩

/-- Struct fields are read from an object or from an array. -/
theorem obj_or_arr_of_structFields {names : List String} {json : Json}
    {fields : String → Option Json} (hfields : structFields names json = .ok fields) :
    (∃ members, json = .obj members) ∨ ∃ items, json = .arr items := by
  cases json with
  | obj members => exact Or.inl ⟨members, rfl⟩
  | arr items => exact Or.inr ⟨items, rfl⟩
  | null => simp [structFields] at hfields
  | bool value => simp [structFields] at hfields
  | int value => simp [structFields] at hfields
  | float text => simp [structFields] at hfields
  | str value => simp [structFields] at hfields

end Json

end MessagingRelayer.Foundation
