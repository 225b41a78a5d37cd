import MessagingRelayer.Http.Request

/-!
# Integers written and read

The text of an integer is read back by the integer parser of the language, where the type has the
integer (`parseI64_toString`, `parseUsize_toString`).
-/

set_option autoImplicit false
set_option relaxedAutoImplicit false

namespace MessagingRelayer

/-- One more digit at the end. -/
theorem decimalValue_concat {digits : List Char} {value last : Nat}
    (hvalue : decimalValue digits = some value) (hlast : last < 10) :
    decimalValue (digits ++ [last.digitChar]) = some (10 * value + last) := by
  unfold decimalValue at hvalue ⊢
  split_ifs at hvalue with hdigits
  have hchar : last.digitChar.isDigit = true ∧ last.digitChar.toNat - '0'.toNat = last := by
    clear hvalue
    revert last
    decide
  have hall : (digits ++ [last.digitChar]).all Char.isDigit = true := by
    rw [List.all_append, hdigits.2, List.all_cons, hchar.1]
    rfl
  rw [if_pos ⟨List.append_ne_nil_of_left_ne_nil hdigits.1 _, hall⟩, List.foldl_append,
    Option.some.inj hvalue, List.foldl_cons, List.foldl_nil, hchar.2]

theorem decimalValue_toDigits (value : Nat) :
    decimalValue (Nat.toDigits 10 value) = some value := by
  induction value using Nat.strong_induction_on with
  | _ value ih =>
    rw [Nat.toDigits_eq_if (by decide)]
    split_ifs with hsmall
    · clear ih
      revert value
      decide
    · rw [decimalValue_concat (ih (value / 10) (by omega)) (Nat.mod_lt _ (by decide)),
        Nat.div_add_mod]

/-- Assumes: an integer in the range of an `i64`. -/
theorem parseI64_toString {value : Int} (hvalue : -2 ^ 63 ≤ value ∧ value < 2 ^ 63) :
    parseI64 (toString value) = some value := by
  have htext : (toString value).toList =
      if 0 ≤ value then Nat.toDigits 10 value.toNat
      else '-' :: Nat.toDigits 10 (-value).toNat := by
    rw [Int.toString_eq_repr, Int.repr_eq_if]
    split_ifs with hnonneg
    · exact Nat.toList_repr
    · rw [String.toList_append, Nat.toList_repr]
      rfl
  have hfirst {symbol : Char} {digits : List Char} {natural : Nat}
      (hdigits : Nat.toDigits 10 natural = symbol :: digits) : symbol.isDigit = true :=
    Nat.isDigit_of_mem_toDigits (by decide) (by decide) (hdigits ▸ List.mem_cons_self)
  unfold parseI64
  rw [htext]
  split_ifs with hnonneg
  · have hback : (value.toNat : Int) = value := by omega
    split
    · next digits hdigits => exact absurd (hfirst hdigits) (by decide)
    · next digits hdigits => exact absurd (hfirst hdigits) (by decide)
    · rw [decimalValue_toDigits]
      exact Option.bind_eq_some_iff.mpr ⟨value, congrArg some hback, if_pos hvalue⟩
  · have hback : -((-value).toNat : Int) = value := by omega
    simp only [decimalValue_toDigits]
    exact Option.bind_eq_some_iff.mpr ⟨value, congrArg some hback, if_pos hvalue⟩

/-- Assumes: an integer in the range of a `usize`. -/
theorem parseUsize_toString {value : Nat} (hvalue : value < 2 ^ 64) :
    parseUsize (toString value) = some value := by
  have htext : (toString value).toList = Nat.toDigits 10 value := Nat.toList_repr
  unfold parseUsize
  rw [htext]
  split
  · next digits hdigits =>
    have hfirst : '+'.isDigit = true :=
      Nat.isDigit_of_mem_toDigits (by decide) (by decide) (hdigits ▸ List.mem_cons_self)
    exact absurd hfirst (by decide)
  · rw [decimalValue_toDigits]
    exact Option.bind_eq_some_iff.mpr ⟨value, rfl, if_pos hvalue⟩

end MessagingRelayer
