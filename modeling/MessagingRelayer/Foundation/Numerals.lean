import MessagingRelayer.Foundation.Hex
import MessagingRelayer.Foundation.Text

/-!
# Numbers in bytes and in hexadecimal digits

A number below `256 ^ count` is determined by its `count` bytes (`bytes_inj`). A list of hexadecimal
digits in either case spells a number, and lists of one length spell the same number exactly when
they are the same in lower case (`Hex.number_eq_iff`).
-/

set_option autoImplicit false
set_option relaxedAutoImplicit false

namespace MessagingRelayer.Foundation

/-! ### Bytes -/

/-- Assumes: numbers of `count` bytes. They are equal when their bytes are. -/
theorem bytes_inj {count first second : ℕ} (hfirst : first < 256 ^ count)
    (hsecond : second < 256 ^ count)
    (heq : ((List.range count).map fun index ↦ UInt8.ofNat (first / 256 ^ index)) =
      (List.range count).map fun index ↦ UInt8.ofNat (second / 256 ^ index)) :
    first = second := by
  induction count generalizing first second with
  | zero => omega
  | succ count ih =>
    rw [List.range_succ_eq_map, List.map_cons, List.map_cons, List.map_map, List.map_map] at heq
    obtain ⟨hhead, htail⟩ := List.cons.inj heq
    have hlow : first % 256 = second % 256 := by
      simpa using congrArg UInt8.toNat hhead
    have hshift (number index : ℕ) : number / 256 ^ (index + 1) = number / 256 / 256 ^ index := by
      rw [Nat.div_div_eq_div_mul, pow_succ']
    have hhigh : first / 256 = second / 256 := by
      refine ih ?_ ?_ ?_
      · rw [pow_succ'] at hfirst
        omega
      · rw [pow_succ'] at hsecond
        omega
      · simpa [Function.comp_def, hshift] using htail
    omega

/-- Assumes: numbers of `length` bytes. They are equal when they fill the bytes in the same way. -/
theorem FixedBytes.bigEndian_inj {length first second : ℕ} (hfirst : first < 256 ^ length)
    (hsecond : second < 256 ^ length)
    (heq : FixedBytes.bigEndian length first = FixedBytes.bigEndian length second) :
    first = second :=
  bytes_inj hfirst hsecond (List.reverse_injective (congrArg Subtype.val heq))

/-! ### Hexadecimal digits -/

namespace Hex

/-- Every symbol is a hexadecimal digit. -/
def IsDigits (symbols : List Char) : Prop :=
  ∀ symbol ∈ symbols, (digitValue symbol).isSome = true

instance (symbols : List Char) : Decidable (IsDigits symbols) :=
  List.decidableBAll _ _

/-- The value of a hexadecimal digit, and zero for other symbols. -/
def digit (symbol : Char) : ℕ :=
  (digitValue symbol).getD 0

/-- The number that hexadecimal digits spell, the most significant one first. -/
def number (symbols : List Char) : ℕ :=
  Nat.ofDigits 16 (symbols.reverse.map digit)

variable {symbol : Char} {first second : List Char}

theorem digit_lt (symbol : Char) : digit symbol < 16 := by
  unfold digit
  cases hvalue : digitValue symbol with
  | none => decide
  | some value => exact (digitChar_of_digitValue hvalue).1

theorem digit_digitChar {value : ℕ} (hvalue : value < 16) : digit value.digitChar = value := by
  rw [digit, digitValue_digitChar hvalue, Option.getD_some]

/-- What a table of the ASCII characters says of digits holds of every digit. -/
theorem of_table {property : Char → Prop}
    (htable : ∀ code < 128, (digitValue (Char.ofNat code)).isSome = true →
      property (Char.ofNat code))
    (hdigit : (digitValue symbol).isSome = true) : property symbol := by
  obtain ⟨value, hvalue⟩ := Option.isSome_iff_exists.mp hdigit
  have hsymbol := htable symbol.toNat (toNat_lt_of_digitValue hvalue)
  rw [Char.ofNat_toNat] at hsymbol
  exact hsymbol hdigit

/-- A digit in lower case is the lower-case digit of its value. -/
theorem toLower_eq_digitChar (hdigit : (digitValue symbol).isSome = true) :
    symbol.toLower = (digit symbol).digitChar :=
  @of_table symbol (fun symbol ↦ symbol.toLower = (digit symbol).digitChar) (by decide) hdigit

theorem map_toLower_eq (hdigits : IsDigits first) :
    first.map Char.toLower = (first.map digit).map Nat.digitChar := by
  rw [List.map_map]
  exact List.map_congr_left fun symbol hmem ↦ toLower_eq_digitChar (hdigits symbol hmem)

/-- Digits are the same in lower case exactly when they have the same values. -/
theorem map_toLower_eq_iff (hfirst : IsDigits first) (hsecond : IsDigits second) :
    first.map Char.toLower = second.map Char.toLower ↔ first.map digit = second.map digit := by
  rw [map_toLower_eq hfirst, map_toLower_eq hsecond]
  refine ⟨fun hchars ↦ ?_, fun hvalues ↦ congrArg (List.map Nat.digitChar) hvalues⟩
  have hread (symbols : List Char) :
      ((symbols.map digit).map Nat.digitChar).map digit = symbols.map digit := by
    rw [List.map_map]
    refine (List.map_congr_left ?_).trans (List.map_id _)
    intro value hmem
    obtain ⟨symbol, -, rfl⟩ := List.mem_map.mp hmem
    exact digit_digitChar (digit_lt symbol)
  rw [← hread first, hchars, hread second]

theorem digits_lt (symbols : List Char) : ∀ value ∈ symbols.reverse.map digit, value < 16 := by
  intro value hmem
  obtain ⟨symbol, -, rfl⟩ := List.mem_map.mp hmem
  exact digit_lt symbol

theorem number_lt (symbols : List Char) : number symbols < 16 ^ symbols.length := by
  have hlt := Nat.ofDigits_lt_base_pow_length (by decide) (digits_lt symbols)
  rwa [List.length_map, List.length_reverse] at hlt

/-- The more significant digits of a number weigh as much as there are digits after them. -/
theorem number_append (first second : List Char) :
    number (first ++ second) = number second + 16 ^ second.length * number first := by
  unfold number
  rw [List.reverse_append, List.map_append, Nat.ofDigits_append, List.length_map,
    List.length_reverse]

/-- Assumes: lists of one length. They spell the same number exactly when they are the same in lower
case. -/
theorem number_eq_iff (hlength : first.length = second.length) (hfirst : IsDigits first)
    (hsecond : IsDigits second) :
    number first = number second ↔ first.map Char.toLower = second.map Char.toLower := by
  rw [map_toLower_eq_iff hfirst hsecond]
  constructor
  · intro hnumber
    have hvalues := Nat.ofDigits_inj_of_len_eq (by decide) (by simp [hlength]) (digits_lt first)
      (digits_lt second) hnumber
    rwa [List.map_reverse, List.map_reverse, List.reverse_inj] at hvalues
  · intro hvalues
    unfold number
    rw [List.map_reverse, List.map_reverse, hvalues]

end Hex

end MessagingRelayer.Foundation
