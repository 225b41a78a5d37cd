import Mathlib

/-!
# Text on the wire

`utf8` is the UTF-8 encoding of a string as a list of bytes. It is injective (`utf8_injective`), and
an ASCII character at the head of a string is its first byte (`head?_utf8`).

A record written as fields with a separator between them is read back at the first separator:
`colon_inj` says so for a colon, which `colon_notMem_toString` and the hexadecimal alphabet keep out
of the fields. `head?_toString` is the first character of the decimal text of an integer.
-/

set_option autoImplicit false
set_option relaxedAutoImplicit false

namespace MessagingRelayer.Foundation

/-! ### Bytes -/

/-- A list of bytes of a fixed length. -/
abbrev FixedBytes (length : Nat) :=
  {bytes : List UInt8 // bytes.length = length}

/-- The byte repeated to a fixed length. -/
def FixedBytes.fill (length : Nat) (byte : UInt8) : FixedBytes length :=
  ⟨List.replicate length byte, List.length_replicate⟩

/-- The last bytes of a number, most significant byte first. -/
def FixedBytes.bigEndian (length value : Nat) : FixedBytes length :=
  ⟨((List.range length).map fun index ↦ UInt8.ofNat (value / 256 ^ index)).reverse, by simp⟩

/-! ### UTF-8 -/

/-- The bytes of a string in UTF-8. -/
def utf8 (text : String) : List UInt8 :=
  text.toList.flatMap String.utf8EncodeChar

theorem toByteArray_eq_utf8 (text : String) : text.toByteArray = (utf8 text).toByteArray := by
  have hlist : (String.ofList text.toList).toByteArray = (utf8 text).toByteArray := rfl
  rwa [String.ofList_toList] at hlist

/-- Two strings with the same bytes are equal. -/
theorem utf8_injective : Function.Injective utf8 := by
  intro first second hbytes
  rw [← String.toByteArray_inj, toByteArray_eq_utf8, toByteArray_eq_utf8, hbytes]

theorem utf8_append (first second : String) :
    utf8 (first ++ second) = utf8 first ++ utf8 second := by
  unfold utf8
  rw [String.toList_append, List.flatMap_append]

/-- A character takes at most four bytes. -/
theorem length_utf8_le (text : String) : (utf8 text).length ≤ 4 * text.length := by
  rw [utf8, ← String.length_toList, List.length_flatMap]
  have hbound : ∀ size ∈ text.toList.map fun symbol ↦ (String.utf8EncodeChar symbol).length,
      size ≤ 4 := by
    intro size hsize
    obtain ⟨symbol, -, rfl⟩ := List.mem_map.mp hsize
    rw [String.length_utf8EncodeChar]
    exact Char.utf8Size_le_four symbol
  have hsum := List.sum_le_card_nsmul _ 4 hbound
  rw [List.length_map, smul_eq_mul] at hsum
  omega

/-- An ASCII character is one byte, its code. -/
theorem utf8EncodeChar_ascii {symbol : Char} (hascii : symbol.toNat ≤ 127) :
    String.utf8EncodeChar symbol = [UInt8.ofNat symbol.toNat] := by
  have hle : symbol.val.toNat ≤ 127 := hascii
  simp only [String.utf8EncodeChar, if_pos hle]
  rfl

/-- Assumes: an ASCII character at the head of the text. The first byte is its code. -/
theorem head?_utf8 {text : String} {head : Char} (hhead : text.toList.head? = some head)
    (hascii : head.toNat ≤ 127) : (utf8 text).head? = some (UInt8.ofNat head.toNat) := by
  obtain ⟨rest, hrest⟩ : ∃ rest, text.toList = head :: rest := by
    cases hlist : text.toList with
    | nil => simp [hlist] at hhead
    | cons first rest =>
      obtain rfl : first = head := by simpa [hlist] using hhead
      exact ⟨rest, rfl⟩
  rw [utf8, hrest, List.flatMap_cons, utf8EncodeChar_ascii hascii]
  rfl

/-- The bytes of an ASCII text are the codes of its characters. -/
theorem utf8_eq_map {text : String} (hascii : ∀ symbol ∈ text.toList, symbol.toNat ≤ 127) :
    utf8 text = text.toList.map fun symbol ↦ UInt8.ofNat symbol.toNat := by
  unfold utf8
  generalize text.toList = symbols at hascii ⊢
  induction symbols with
  | nil => rfl
  | cons head rest ih =>
    rw [List.flatMap_cons, List.map_cons, utf8EncodeChar_ascii (hascii head List.mem_cons_self),
      ih fun symbol hmem ↦ hascii symbol (List.mem_cons_of_mem _ hmem)]
    rfl

/-- The first byte of a character that is not ASCII is 128 at least. -/
theorem exists_mem_utf8EncodeChar {symbol : Char} (hlarge : 127 < symbol.toNat) :
    ∃ byte ∈ String.utf8EncodeChar symbol, 128 ≤ byte.toNat := by
  have hnot : ¬ symbol.val.toNat ≤ 127 := not_le.mpr hlarge
  unfold String.utf8EncodeChar
  simp only [if_neg hnot]
  split_ifs
  · exact ⟨_, List.mem_cons_self, by rw [UInt8.toNat_ofNat']; omega⟩
  · exact ⟨_, List.mem_cons_self, by rw [UInt8.toNat_ofNat']; omega⟩
  · exact ⟨_, List.mem_cons_self, by rw [UInt8.toNat_ofNat']; omega⟩

/-- A text whose bytes are all below 128 is ASCII. -/
theorem ascii_of_utf8 {text : String} (hbytes : ∀ byte ∈ utf8 text, byte.toNat < 128)
    {symbol : Char} (hmem : symbol ∈ text.toList) : symbol.toNat ≤ 127 := by
  by_contra hlarge
  obtain ⟨byte, hbyte, hhigh⟩ := exists_mem_utf8EncodeChar (not_le.mp hlarge)
  have hlow := hbytes byte (List.mem_flatMap.mpr ⟨symbol, hmem, hbyte⟩)
  omega

/-- Each byte as the character with its number. -/
def latin1 (bytes : List UInt8) : List Char :=
  bytes.map fun byte ↦ Char.ofNat byte.toNat

/-- The bytes of an ASCII text are its characters. -/
theorem latin1_utf8 {text : String} (hascii : ∀ symbol ∈ text.toList, symbol.toNat ≤ 127) :
    latin1 (utf8 text) = text.toList := by
  rw [latin1, utf8_eq_map hascii, List.map_map]
  refine (List.map_congr_left fun symbol hmem ↦ ?_).trans (List.map_id _)
  have hle := hascii symbol hmem
  have hbyte : (UInt8.ofNat symbol.toNat).toNat = symbol.toNat := by
    rw [UInt8.toNat_ofNat']
    omega
  rw [Function.comp_apply, hbyte, Char.ofNat_toNat, id_eq]

/-! ### Fields with a separator between them -/

/-- A list with a separator in it is cut at the first separator in one way. -/
theorem separator_inj {Symbol : Type*} {separator : Symbol} {first second rest tail : List Symbol}
    (hfirst : separator ∉ first) (hsecond : separator ∉ second)
    (heq : first ++ separator :: rest = second ++ separator :: tail) :
    first = second ∧ rest = tail := by
  induction first generalizing second with
  | nil =>
    cases second with
    | nil => exact ⟨rfl, by simpa using heq⟩
    | cons symbol others =>
      obtain ⟨rfl, -⟩ : separator = symbol ∧ _ := by simpa using heq
      exact absurd List.mem_cons_self hsecond
  | cons symbol others ih =>
    cases second with
    | nil =>
      obtain ⟨rfl, -⟩ : symbol = separator ∧ _ := by simpa using heq
      exact absurd List.mem_cons_self hfirst
    | cons symbol' others' =>
      obtain ⟨rfl, hothers⟩ : symbol = symbol' ∧ others ++ separator :: rest =
          others' ++ separator :: tail := by simpa using heq
      obtain ⟨rfl, hrest⟩ := ih (fun hmem ↦ hfirst (List.mem_cons_of_mem _ hmem))
        (fun hmem ↦ hsecond (List.mem_cons_of_mem _ hmem)) hothers
      exact ⟨rfl, hrest⟩

/-- Assumes: first fields without a colon. Texts that start with such a field and a colon are equal
only when the fields and the remainders are. -/
theorem colon_inj {first second rest tail : String} (hfirst : ':' ∉ first.toList)
    (hsecond : ':' ∉ second.toList) (heq : first ++ ":" ++ rest = second ++ ":" ++ tail) :
    first = second ∧ rest = tail := by
  have hlist : first.toList ++ ':' :: rest.toList = second.toList ++ ':' :: tail.toList := by
    have htext := congrArg String.toList heq
    simpa [String.toList_append] using htext
  obtain ⟨hfield, hremainder⟩ := separator_inj hfirst hsecond hlist
  exact ⟨String.toList_inj.mp hfield, String.toList_inj.mp hremainder⟩

/-! ### Decimal integers -/

theorem isDigit_of_mem_repr {number : ℕ} {symbol : Char} (hmem : symbol ∈ number.repr.toList) :
    symbol.isDigit := by
  rw [Nat.toList_repr] at hmem
  exact Nat.isDigit_of_mem_toDigits (by decide) (by decide) hmem

/-- The decimal text of an integer has only digits and minus signs in it. -/
theorem isDigit_or_minus_of_mem_toString {number : ℤ} {symbol : Char}
    (hmem : symbol ∈ (toString number).toList) : symbol.isDigit ∨ symbol = '-' := by
  rw [Int.toString_eq_repr, Int.repr_eq_if] at hmem
  split_ifs at hmem with hsign
  · exact Or.inl (isDigit_of_mem_repr hmem)
  · rw [String.toList_append] at hmem
    rcases List.mem_append.mp hmem with hminus | hdigits
    · exact Or.inr (by simpa using hminus)
    · exact Or.inl (isDigit_of_mem_repr hdigits)

theorem colon_notMem_toString (number : ℤ) : ':' ∉ (toString number).toList := by
  intro hmem
  rcases isDigit_or_minus_of_mem_toString hmem with hdigit | hminus
  · exact absurd hdigit (by decide)
  · exact absurd hminus (by decide)

theorem toString_int_injective : Function.Injective (toString : ℤ → String) := by
  intro first second heq
  rw [Int.toString_eq_repr, Int.toString_eq_repr] at heq
  exact Int.repr_injective heq

/-- The decimal text of an integer is not empty: it starts with a digit or a minus sign. -/
theorem head?_toString (number : ℤ) :
    ∃ head, (toString number).toList.head? = some head ∧ (head.isDigit ∨ head = '-') := by
  cases hlist : (toString number).toList with
  | nil =>
    exfalso
    rw [Int.toString_eq_repr, Int.repr_eq_if] at hlist
    split_ifs at hlist with hsign
    · exact Nat.repr_ne_empty (String.toList_eq_nil_iff.mp hlist)
    · simp [String.toList_append] at hlist
  | cons head rest =>
    have hmem : head ∈ (toString number).toList := hlist ▸ List.mem_cons_self
    exact ⟨head, rfl, isDigit_or_minus_of_mem_toString hmem⟩

end MessagingRelayer.Foundation
