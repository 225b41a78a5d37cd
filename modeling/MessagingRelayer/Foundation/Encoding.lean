import MessagingRelayer.Foundation.Json

/-!
# Derived encoding

The other direction of derived decoding: how a derived serializer writes bytes, options, sequences
and the variants of an enumeration, and how a derived deserializer reads them. What is written is
read back: a decoder that reads the encoding of each element reads the encoding of a sequence
(`asVec_map`), an option (`asOption_ofOption`) and bytes (`asBytes_ofBytes`); and variants with
different names are told apart (`asVariant_ofVariant`).
-/

set_option autoImplicit false
set_option relaxedAutoImplicit false

namespace MessagingRelayer.Foundation.Json

variable {Value : Type}

/-! ### Encoding -/

/-- Bytes, as a sequence of numbers. -/
def ofBytes (bytes : List UInt8) : Json :=
  .arr (bytes.map fun byte ↦ .int byte.toNat)

/-- An option: `null`, or its value. -/
def ofOption (encode : Value → Json) : Option Value → Json
  | none => .null
  | some value => encode value

/-! ### Decoding -/

/-- An unsigned 8-bit integer. -/
def asU8 : Json → Except String UInt8
  | .int value =>
    if 0 ≤ value ∧ value < 256 then .ok (UInt8.ofNat value.toNat)
    else .error "invalid value, expected u8"
  | _ => .error "invalid type, expected u8"

/-- A sequence of bytes. -/
def asBytes : Json → Except String (List UInt8) :=
  asVec asU8

/-- `null`, or a value. -/
def asOption (decode : Json → Except String Value) : Json → Except String (Option Value)
  | .null => .ok none
  | json => (decode json).map some

/-- A variant without fields, by its name: a string, or the one member of an object, which is
`null`. -/
def asVariant (variants : List (String × Value)) : Json → Except String Value
  | .str name => find name
  | .obj [(name, .null)] => find name
  | _ => .error "invalid type, expected a variant"
where
  find (name : String) : Except String Value :=
    match variants.lookup name with
    | none => .error s!"unknown variant `{name}`"
    | some value => .ok value

/-! ### What is written is read back -/

theorem asU8_int (byte : UInt8) : asU8 (.int byte.toNat) = .ok byte := by
  have hbyte : (0 : Int) ≤ byte.toNat ∧ (byte.toNat : Int) < 256 := by
    have hlt := byte.toNat_lt
    omega
  unfold asU8
  simp only [if_pos hbyte, Int.toNat_natCast, UInt8.ofNat_toNat]

/-- Assumes: the encoding of every element is read back. So is that of the sequence. -/
theorem asVec_map {decode : Json → Except String Value} {encode : Value → Json}
    {values : List Value} (hread : ∀ value ∈ values, decode (encode value) = .ok value) :
    asVec decode (.arr (values.map encode)) = .ok values := by
  unfold asVec
  simp only
  induction values with
  | nil => rfl
  | cons value rest ih =>
    rw [List.map_cons, List.mapM_cons]
    refine bind_eq_ok_iff.mpr ⟨value, hread value List.mem_cons_self, ?_⟩
    exact bind_eq_ok_iff.mpr
      ⟨rest, ih fun other hother ↦ hread other (List.mem_cons_of_mem value hother), rfl⟩

theorem asBytes_ofBytes (bytes : List UInt8) : asBytes (ofBytes bytes) = .ok bytes :=
  asVec_map fun byte _ ↦ asU8_int byte

/-- Assumes: values are not written as `null`, and read back. So is an option. -/
theorem asOption_ofOption {decode : Json → Except String Value} {encode : Value → Json}
    {option : Option Value} (hnull : ∀ value ∈ option, encode value ≠ .null)
    (hread : ∀ value ∈ option, decode (encode value) = .ok value) :
    asOption decode (ofOption encode option) = .ok option := by
  cases option with
  | none => rfl
  | some value =>
    have hvalue := hread value rfl
    unfold ofOption asOption
    split
    · next hjson => exact absurd hjson (hnull value rfl)
    · rw [hvalue]
      rfl

/-- Assumes: no two variants have one name. A name is read back as its variant. -/
theorem asVariant_ofVariant {variants : List (String × Value)} {name : String} {value : Value}
    (hdistinct : (variants.map Prod.fst).Nodup) (hmem : (name, value) ∈ variants) :
    asVariant variants (.str name) = .ok value := by
  have hlookup : variants.lookup name = some value := by
    induction variants with
    | nil => simp at hmem
    | cons first rest ih =>
      rw [List.map_cons, List.nodup_cons] at hdistinct
      rcases List.mem_cons.mp hmem with rfl | hrest
      · exact List.lookup_cons_self
      · have hother : name ≠ first.1 := by
          rintro rfl
          exact hdistinct.1 (List.mem_map.mpr ⟨_, hrest, rfl⟩)
        rw [List.lookup_cons, beq_false_of_ne hother]
        exact ih hdistinct.2 hrest
  unfold asVariant asVariant.find
  simp only [hlookup]

end MessagingRelayer.Foundation.Json
