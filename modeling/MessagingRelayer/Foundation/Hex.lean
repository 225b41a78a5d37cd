import MessagingRelayer.Foundation.Text

/-!
# Hexadecimal text

The codec the `hex` crate documents: `encode` writes two lower-case digits a byte, `decode` accepts
an even number of digits in either case, and reads the bytes of a text, so that its errors count
bytes and show them one by one. `decode_encode` is the round trip. The other way round is
not the identity: `encode_eq_iff_of_decode` says that encoding what was decoded gives the text back
exactly when the text has no upper-case digit.
-/

set_option autoImplicit false
set_option relaxedAutoImplicit false

namespace MessagingRelayer.Foundation.Hex

/-! ### Digits -/

/-- The value of a hexadecimal digit in either case. -/
def digitValue (symbol : Char) : Option Nat :=
  if '0' ≤ symbol ∧ symbol ≤ '9' then some (symbol.toNat - 48)
  else if 'a' ≤ symbol ∧ symbol ≤ 'f' then some (symbol.toNat - 87)
  else if 'A' ≤ symbol ∧ symbol ≤ 'F' then some (symbol.toNat - 55)
  else none

/-- A character that is not one of the letters `A` to `F`. -/
def IsLower (symbol : Char) : Prop :=
  ¬('A' ≤ symbol ∧ symbol ≤ 'F')

instance (symbol : Char) : Decidable (IsLower symbol) :=
  inferInstanceAs (Decidable (¬_))

theorem digitValue_digitChar {value : Nat} (hvalue : value < 16) :
    digitValue value.digitChar = some value := by
  revert value
  decide

theorem isLower_digitChar {value : Nat} (hvalue : value < 16) : IsLower value.digitChar := by
  revert value
  decide

/-- Only ASCII characters are digits. -/
theorem toNat_lt_of_digitValue {symbol : Char} {value : Nat}
    (hvalue : digitValue symbol = some value) : symbol.toNat < 128 := by
  have hle : symbol ≤ '9' ∨ symbol ≤ 'f' ∨ symbol ≤ 'F' := by
    unfold digitValue at hvalue
    split_ifs at hvalue with hdigit hlower hupper
    · exact Or.inl hdigit.2
    · exact Or.inr (Or.inl hlower.2)
    · exact Or.inr (Or.inr hupper.2)
  have hnine : ('9').toNat = 57 := rfl
  have hf : ('f').toNat = 102 := rfl
  have hF : ('F').toNat = 70 := rfl
  simp only [Char.le_def, UInt32.le_iff_toNat_le, Char.toNat_val] at hle
  omega

/-- A digit is the lower-case digit of its value when it is in lower case. -/
theorem digitChar_of_digitValue {symbol : Char} {value : Nat}
    (hvalue : digitValue symbol = some value) :
    value < 16 ∧ symbol ≠ ':' ∧ (IsLower symbol → value.digitChar = symbol) := by
  have htable : ∀ code < 128, ∀ value ∈ digitValue (Char.ofNat code),
      value < 16 ∧ Char.ofNat code ≠ ':' ∧
        (IsLower (Char.ofNat code) → value.digitChar = Char.ofNat code) := by
    decide
  have hcode := htable symbol.toNat (toNat_lt_of_digitValue hvalue) value
  rw [Char.ofNat_toNat] at hcode
  exact hcode hvalue

/-! ### Encoding -/

/-- The two digits of a byte, the high one first. -/
def encodeByte (byte : UInt8) : List Char :=
  [(byte.toNat / 16).digitChar, (byte.toNat % 16).digitChar]

/-- Lower-case hexadecimal text of a list of bytes. -/
def encode (bytes : List UInt8) : String :=
  String.ofList (bytes.flatMap encodeByte)

theorem toList_encode (bytes : List UInt8) : (encode bytes).toList = bytes.flatMap encodeByte := by
  rw [encode, String.toList_ofList]

/-- Every character of an encoding is the lower-case digit of a value below sixteen. -/
theorem exists_digitChar_of_mem_encode {bytes : List UInt8} {symbol : Char}
    (hmem : symbol ∈ (encode bytes).toList) : ∃ value < 16, symbol = value.digitChar := by
  rw [toList_encode, List.mem_flatMap] at hmem
  obtain ⟨byte, -, hbyte⟩ := hmem
  have hlt := byte.toNat_lt
  simp only [encodeByte, List.mem_cons, List.not_mem_nil, or_false] at hbyte
  rcases hbyte with rfl | rfl
  · exact ⟨_, by omega, rfl⟩
  · exact ⟨_, by omega, rfl⟩

theorem isLower_of_mem_encode {bytes : List UInt8} {symbol : Char}
    (hmem : symbol ∈ (encode bytes).toList) : IsLower symbol := by
  obtain ⟨value, hvalue, rfl⟩ := exists_digitChar_of_mem_encode hmem
  exact isLower_digitChar hvalue

theorem colon_notMem_encode (bytes : List UInt8) : ':' ∉ (encode bytes).toList := by
  intro hmem
  obtain ⟨value, hvalue, hcolon⟩ := exists_digitChar_of_mem_encode hmem
  exact (digitChar_of_digitValue (digitValue_digitChar hvalue)).2.1 hcolon.symm

/-! ### Decoding -/

/-- Why a text is not hexadecimal. -/
inductive FromHexError
  | invalidHexCharacter (c : Char) (index : Nat)
  | oddLength
deriving DecidableEq, Repr

/-- A character below 256 as it is printed for debugging: in single quotes, and escaped when it is
one, a backslash or not printable. -/
def debugChar (symbol : Char) : String :=
  let code := symbol.toNat
  let shown :=
    if code = 0 then "\\0"
    else if code = 9 then "\\t"
    else if code = 10 then "\\n"
    else if code = 13 then "\\r"
    else if code = 39 then "\\\x27"
    else if code = 92 then "\\\\"
    else if code < 32 ∨ (127 ≤ code ∧ code ≤ 160) ∨ code = 173 then
      "\\u\x7b" ++ String.ofList (Nat.toDigits 16 code) ++ "\x7d"
    else String.singleton symbol
  "\x27" ++ shown ++ "\x27"

/-- The text of a decoding error. -/
def FromHexError.toString : FromHexError → String
  | .invalidHexCharacter c index => s!"Invalid character {debugChar c} at position {index}"
  | .oddLength => "Odd number of digits"

/-- Decodes pairs of digits, the first of them at `index`. -/
def decodeList (index : Nat) : List Char → Except FromHexError (List UInt8)
  | [] => .ok []
  | [_] => .error .oddLength
  | high :: low :: rest =>
    match digitValue high, digitValue low with
    | none, _ => .error (.invalidHexCharacter high index)
    | some _, none => .error (.invalidHexCharacter low (index + 1))
    | some highValue, some lowValue =>
      (decodeList (index + 2) rest).map (UInt8.ofNat (16 * highValue + lowValue) :: ·)

/-- Decodes hexadecimal text by its bytes; their number is checked before any digit. -/
def decode (text : String) : Except FromHexError (List UInt8) :=
  let symbols := latin1 (utf8 text)
  if symbols.length % 2 ≠ 0 then .error .oddLength else decodeList 0 symbols

/-- What an accepted list of digits looks like: a first pair of digits, and an accepted rest. -/
theorem decodeList_cons_cons_eq_ok {index : Nat} {high low : Char} {rest : List Char}
    {bytes : List UInt8} (hdecode : decodeList index (high :: low :: rest) = .ok bytes) :
    ∃ highValue lowValue others, digitValue high = some highValue ∧
      digitValue low = some lowValue ∧ decodeList (index + 2) rest = .ok others ∧
      bytes = UInt8.ofNat (16 * highValue + lowValue) :: others := by
  rw [decodeList] at hdecode
  cases hhigh : digitValue high with
  | none => simp [hhigh] at hdecode
  | some highValue =>
    cases hlow : digitValue low with
    | none => simp [hhigh, hlow] at hdecode
    | some lowValue =>
      cases hrest : decodeList (index + 2) rest with
      | error err => simp [hhigh, hlow, hrest, Except.map] at hdecode
      | ok others =>
        simp only [hhigh, hlow, hrest, Except.map, Except.ok.injEq] at hdecode
        exact ⟨highValue, lowValue, others, rfl, rfl, rfl, hdecode.symm⟩

theorem decodeList_flatMap_encodeByte (bytes : List UInt8) (index : Nat) :
    decodeList index (bytes.flatMap encodeByte) = .ok bytes := by
  induction bytes generalizing index with
  | nil => rfl
  | cons byte rest ih =>
    have hlt := byte.toNat_lt
    have hhigh := digitValue_digitChar (show byte.toNat / 16 < 16 by omega)
    have hlow := digitValue_digitChar (show byte.toNat % 16 < 16 by omega)
    have hbyte : UInt8.ofNat (16 * (byte.toNat / 16) + byte.toNat % 16) = byte := by
      rw [Nat.div_add_mod, UInt8.ofNat_toNat]
    simp only [List.flatMap_cons, encodeByte, List.cons_append, List.nil_append, decodeList, hhigh,
      hlow, ih, Except.map, hbyte]

theorem length_flatMap_encodeByte (bytes : List UInt8) :
    (bytes.flatMap encodeByte).length = 2 * bytes.length := by
  induction bytes with
  | nil => rfl
  | cons byte rest ih =>
    rw [List.flatMap_cons, List.length_append, ih, List.length_cons]
    simp only [encodeByte, List.length_cons, List.length_nil]
    omega

theorem length_encode (bytes : List UInt8) : (encode bytes).length = 2 * bytes.length := by
  rw [← String.length_toList, toList_encode, length_flatMap_encodeByte]

/-- The digits of an encoding are ASCII. -/
theorem ascii_of_mem_encode {bytes : List UInt8} {symbol : Char}
    (hmem : symbol ∈ (encode bytes).toList) : symbol.toNat ≤ 127 := by
  obtain ⟨value, hvalue, rfl⟩ := exists_digitChar_of_mem_encode hmem
  have hlt := toNat_lt_of_digitValue (digitValue_digitChar hvalue)
  omega

/-- Decoding undoes encoding. -/
theorem decode_encode (bytes : List UInt8) : decode (encode bytes) = .ok bytes := by
  have hsymbols : latin1 (utf8 (encode bytes)) = bytes.flatMap encodeByte :=
    (latin1_utf8 fun _ ↦ ascii_of_mem_encode).trans (toList_encode bytes)
  simp only [decode, hsymbols]
  rw [length_flatMap_encodeByte, if_neg (by omega)]
  exact decodeList_flatMap_encodeByte bytes 0

theorem encode_injective : Function.Injective encode := by
  intro first second heq
  have hdecode := decode_encode first
  rw [heq, decode_encode] at hdecode
  exact (Except.ok.inj hdecode).symm

/-- An accepted list has only digits in it, and it is the encoding of the decoded bytes when all of
them are in lower case. -/
theorem of_decodeList : ∀ {text : List Char} {index : Nat} {bytes : List UInt8},
    decodeList index text = .ok bytes →
      (∀ symbol ∈ text, ∃ value, digitValue symbol = some value) ∧
        ((∀ symbol ∈ text, IsLower symbol) → bytes.flatMap encodeByte = text)
  | [], _, bytes, hdecode => by
    obtain rfl : [] = bytes := by simpa [decodeList] using hdecode
    exact ⟨by simp, fun _ ↦ rfl⟩
  | [_], _, _, hdecode => by simp [decodeList] at hdecode
  | high :: low :: rest, index, bytes, hdecode => by
    obtain ⟨highValue, lowValue, others, hhigh, hlow, hrest, rfl⟩ :=
      decodeList_cons_cons_eq_ok hdecode
    obtain ⟨hdigits, hencode⟩ := of_decodeList hrest
    obtain ⟨hhighLt, -, hhighChar⟩ := digitChar_of_digitValue hhigh
    obtain ⟨hlowLt, -, hlowChar⟩ := digitChar_of_digitValue hlow
    refine ⟨?_, fun hlower ↦ ?_⟩
    · simp only [List.mem_cons, forall_eq_or_imp]
      exact ⟨⟨highValue, hhigh⟩, ⟨lowValue, hlow⟩, hdigits⟩
    · simp only [List.mem_cons, forall_eq_or_imp] at hlower
      have hbyte : (UInt8.ofNat (16 * highValue + lowValue)).toNat = 16 * highValue + lowValue := by
        rw [UInt8.toNat_ofNat']
        omega
      rw [List.flatMap_cons, hencode hlower.2.2, encodeByte, hbyte,
        show (16 * highValue + lowValue) / 16 = highValue by omega,
        show (16 * highValue + lowValue) % 16 = lowValue by omega, hhighChar hlower.1,
        hlowChar hlower.2.1]
      rfl

/-- A text that is decoded is ASCII, so its bytes are its characters. -/
theorem decodeList_of_decode {text : String} {bytes : List UInt8}
    (hdecode : decode text = .ok bytes) : decodeList 0 text.toList = .ok bytes := by
  simp only [decode] at hdecode
  split_ifs at hdecode with hlength
  have hbytes : ∀ byte ∈ utf8 text, byte.toNat < 128 := by
    intro byte hmem
    obtain ⟨value, hvalue⟩ := (of_decodeList hdecode).1 _ (List.mem_map_of_mem hmem)
    have hascii := toNat_lt_of_digitValue hvalue
    have hlt := byte.toNat_lt
    rwa [Char.toNat_ofNat, if_pos (Or.inl (by omega))] at hascii
  rw [← latin1_utf8 fun _ ↦ ascii_of_utf8 hbytes]
  exact hdecode

/-- Hexadecimal text has no colon in it. -/
theorem colon_notMem_of_decode {text : String} {bytes : List UInt8}
    (hdecode : decode text = .ok bytes) : ':' ∉ text.toList := by
  intro hmem
  obtain ⟨value, hvalue⟩ := (of_decodeList (decodeList_of_decode hdecode)).1 ':' hmem
  exact (digitChar_of_digitValue hvalue).2.1 rfl

/-- Assumes: a text that decodes to `bytes`. Encoding the bytes gives the text back exactly when the
text is in lower case. -/
theorem encode_eq_iff_of_decode {text : String} {bytes : List UInt8}
    (hdecode : decode text = .ok bytes) :
    encode bytes = text ↔ ∀ symbol ∈ text.toList, IsLower symbol := by
  constructor
  · rintro rfl symbol hmem
    exact isLower_of_mem_encode hmem
  · intro hlower
    rw [encode, (of_decodeList (decodeList_of_decode hdecode)).2 hlower, String.ofList_toList]

end MessagingRelayer.Foundation.Hex
