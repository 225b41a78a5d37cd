import MessagingRelayer.Foundation.Infix

/-!
# Type names of Move

The type name of an event is the text of a Move type: a struct with its address, its module and its
name, and between angle brackets its type arguments, which are Move types again. A text
`::Name<` occurs in it exactly when the type mentions a generic struct of that name, at any depth
(`marker_infix_symbols_iff`).
-/

set_option autoImplicit false
set_option relaxedAutoImplicit false

namespace MessagingRelayer

open Foundation

/-! ### The grammar -/

/-- The symbols of addresses and identifiers. -/
def isWordSymbol (symbol : Char) : Bool :=
  symbol.isAlphanum || symbol == '_' || symbol == '$'

/-- An address or an identifier. -/
abbrev Word :=
  {text : String // text.toList.all isWordSymbol = true}

/-- The types of Move without parameters. -/
inductive PrimitiveType
  | bool
  | u8
  | u16
  | u32
  | u64
  | u128
  | u256
  | address
  | signer
deriving DecidableEq

def PrimitiveType.text : PrimitiveType → String
  | bool => "bool"
  | u8 => "u8"
  | u16 => "u16"
  | u32 => "u32"
  | u64 => "u64"
  | u128 => "u128"
  | u256 => "u256"
  | address => "address"
  | signer => "signer"

/-- A Move type. -/
inductive MoveType
  | primitive (type : PrimitiveType)
  | vector (element : MoveType)
  | struct (address moduleName name : Word) (typeArguments : List MoveType)

/-- What stands between type arguments. -/
inductive ArgumentSeparator
  | comma
  | commaSpace
deriving DecidableEq

def ArgumentSeparator.symbols : ArgumentSeparator → List Char
  | comma => [',']
  | commaSpace => [',', ' ']

/-- The qualified name of a struct. -/
def structPath (address moduleName name : Word) : List Char :=
  address.val.toList ++ ':' :: ':' :: (moduleName.val.toList ++ ':' :: ':' :: name.val.toList)

mutual

/-- The text of a type. -/
def MoveType.symbols (separator : ArgumentSeparator) : MoveType → List Char
  | .primitive type => type.text.toList
  | .vector element => "vector".toList ++ '<' :: (element.symbols separator ++ ['>'])
  | .struct address moduleName name [] => structPath address moduleName name
  | .struct address moduleName name (first :: rest) =>
    structPath address moduleName name ++
      '<' :: (first.symbols separator ++ symbolsRest separator rest)

/-- The text of the type arguments after the first one, and the closing bracket. -/
def symbolsRest (separator : ArgumentSeparator) : List MoveType → List Char
  | [] => ['>']
  | type :: rest => separator.symbols ++ (type.symbols separator ++ symbolsRest separator rest)

end

/-- The type name as the fullnode reports it. -/
def MoveType.text (separator : ArgumentSeparator) (type : MoveType) : String :=
  String.ofList (type.symbols separator)

mutual

/-- The type is a struct of this name with type arguments, or has such a type inside. -/
def MoveType.mentions (wanted : String) : MoveType → Bool
  | .primitive _ => false
  | .vector element => element.mentions wanted
  | .struct _ _ name typeArguments =>
    (decide (name.val = wanted) && !typeArguments.isEmpty) || mentionsAny wanted typeArguments

/-- One of the types mentions a struct of this name. -/
def mentionsAny (wanted : String) : List MoveType → Bool
  | [] => false
  | type :: rest => type.mentions wanted || mentionsAny wanted rest

end

/-- The text by which a generic struct is found. -/
def marker (wanted : Word) : List Char :=
  ':' :: ':' :: wanted.val.toList ++ ['<']

/-! ### Where a marker occurs -/

section Markers

variable {wanted : Word} {separator : ArgumentSeparator}

theorem notMem_word {symbol : Char} (hsymbol : isWordSymbol symbol = false) (word : Word) :
    symbol ∉ word.val.toList := by
  intro hmem
  have hword := List.all_eq_true.mp word.property symbol hmem
  rw [hsymbol] at hword
  exact absurd hword (by decide)

theorem notMem_marker {symbol : Char} (hsymbol : isWordSymbol symbol = false)
    (hcolon : symbol ≠ ':') (hopen : symbol ≠ '<') : symbol ∉ marker wanted := by
  simp [marker, hcolon, hopen, notMem_word hsymbol wanted]

theorem notMem_structPath {symbol : Char} (hsymbol : isWordSymbol symbol = false)
    (hcolon : symbol ≠ ':') (address moduleName name : Word) :
    symbol ∉ structPath address moduleName name := by
  simp [structPath, hcolon, notMem_word hsymbol address, notMem_word hsymbol moduleName,
    notMem_word hsymbol name]

theorem not_marker_infix_nil : ¬ marker wanted <:+: [] := by
  rw [List.infix_nil]
  exact List.cons_ne_nil _ _

theorem separator_symbols (symbol : Char) (hmem : symbol ∈ separator.symbols) :
    symbol ∉ marker wanted := by
  cases separator with
  | comma =>
    obtain rfl := List.mem_singleton.mp hmem
    exact notMem_marker (by decide) (by decide) (by decide)
  | commaSpace =>
    rcases List.mem_cons.mp hmem with rfl | hspace
    · exact notMem_marker (by decide) (by decide) (by decide)
    · obtain rfl := List.mem_singleton.mp hspace
      exact notMem_marker (by decide) (by decide) (by decide)

theorem separator_symbols_ne_nil : separator.symbols ≠ [] := by
  cases separator with
  | comma => exact List.cons_ne_nil _ _
  | commaSpace => exact List.cons_ne_nil _ _

/-- A path ends in the name of its struct. -/
theorem name_suffix_structPath_iff (address moduleName name : Word) :
    ':' :: ':' :: wanted.val.toList <:+ structPath address moduleName name ↔ name = wanted := by
  have hcolon (word : Word) : ':' ∉ word.val.toList := notMem_word (by decide) word
  have hpath : structPath address moduleName name =
      (address.val.toList ++ ':' :: ':' :: moduleName.val.toList) ++
        ':' :: ':' :: name.val.toList := by
    simp [structPath]
  constructor
  · intro hsuffix
    have hlast : ':' :: wanted.val.toList <:+
        (address.val.toList ++ ':' :: ':' :: moduleName.val.toList ++ [':']) ++
          ':' :: name.val.toList := by
      refine (List.suffix_cons ':' (':' :: wanted.val.toList)).trans ?_
      simpa [hpath] using hsuffix
    have hname := (separated_suffix_iff (hcolon wanted) (hcolon name)).mp hlast
    exact Subtype.ext (String.toList_inj.mp hname.symm)
  · rintro rfl
    rw [hpath]
    exact List.suffix_append _ _

/-- A marker occurs after a path with type arguments exactly when it is that of the path's name, or
occurs in the type arguments. -/
theorem marker_infix_structPath_iff (address moduleName name : Word) (rest : List Char) :
    marker wanted <:+: structPath address moduleName name ++ '<' :: rest ↔
      name = wanted ∨ marker wanted <:+: rest := by
  have hopen : '<' ∉ structPath address moduleName name :=
    notMem_structPath (by decide) (by decide) address moduleName name
  have hword : '<' ∉ ':' :: ':' :: wanted.val.toList := by
    simp [notMem_word (show isWordSymbol '<' = false by decide) wanted]
  rw [← name_suffix_structPath_iff address moduleName name]
  exact infix_concat_iff hword hopen

mutual

/-- A marker occurs in the text of a type exactly when the type mentions a generic struct of its
name. -/
theorem marker_infix_symbols_iff : (type : MoveType) →
    (marker wanted <:+: type.symbols separator ↔ type.mentions wanted.val = true)
  | .primitive type => by
    have hcolon : ':' ∉ (MoveType.primitive type).symbols separator := by
      rw [MoveType.symbols]
      cases type <;> decide
    exact iff_of_false (not_infix_of_notMem List.mem_cons_self hcolon) (by simp [MoveType.mentions])
  | .vector element => by
    have hword : '<' ∉ ':' :: ':' :: wanted.val.toList := by
      simp [notMem_word (show isWordSymbol '<' = false by decide) wanted]
    have hsuffix : ¬ ':' :: ':' :: wanted.val.toList <:+ "vector".toList := fun hsuffix ↦
      absurd (hsuffix.subset List.mem_cons_self) (by decide)
    have hclose : '>' ∉ marker wanted := notMem_marker (by decide) (by decide) (by decide)
    rw [MoveType.symbols, MoveType.mentions, ← marker_infix_symbols_iff element]
    refine (infix_concat_iff hword (by decide)).trans ((or_iff_right hsuffix).trans ?_)
    exact (infix_append_cons_iff hclose).trans (or_iff_left not_marker_infix_nil)
  | .struct address moduleName name [] => by
    have hopen : '<' ∉ structPath address moduleName name :=
      notMem_structPath (by decide) (by decide) address moduleName name
    rw [MoveType.symbols]
    exact iff_of_false (not_infix_of_notMem (by simp [marker]) hopen)
      (by simp [MoveType.mentions, mentionsAny])
  | .struct address moduleName name (first :: rest) => by
    rw [MoveType.symbols, marker_infix_structPath_iff, marker_infix_append_symbolsRest_iff _ rest,
      marker_infix_symbols_iff first]
    simp [MoveType.mentions, mentionsAny, Subtype.ext_iff]

/-- A marker occurs before the closing bracket of the type arguments exactly when it occurs in the
text of the first one, or a later one mentions a struct of its name. -/
theorem marker_infix_append_symbolsRest_iff (front : List Char) : (types : List MoveType) →
    (marker wanted <:+: front ++ symbolsRest separator types ↔
      marker wanted <:+: front ∨ mentionsAny wanted.val types = true)
  | [] => by
    have hclose : '>' ∉ marker wanted := notMem_marker (by decide) (by decide) (by decide)
    rw [symbolsRest, infix_append_cons_iff hclose, or_iff_left not_marker_infix_nil]
    simp [mentionsAny]
  | type :: rest => by
    rw [symbolsRest, infix_separated_iff separator_symbols_ne_nil separator_symbols,
      marker_infix_append_symbolsRest_iff _ rest, marker_infix_symbols_iff type]
    simp [mentionsAny]

end

end Markers

end MessagingRelayer
