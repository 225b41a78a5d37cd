import MessagingRelayer.Foundation.Text
import Mathlib.Data.List.Basic

/-!
# Requests

An HTTP request as the router and the middleware see it: a method, one of the authenticated routes,
the query string, the headers and the body. Header names are in lower case; the body is missing when
it cannot be read. `getHeader` is the header lookup of the middleware, and `parseI64` and
`parseUsize` are the integer parsers of the language, with `parseI64Error` and `parseUsizeError` for
why they refuse a text.
-/

set_option autoImplicit false
set_option relaxedAutoImplicit false

namespace MessagingRelayer

open Foundation

/-- Request methods. `options` is the one that the CORS layer answers itself, and `other` stands for
those without a handler and without a permission. -/
inductive Method
  | get
  | post
  | put
  | delete
  | head
  | options
  | other
deriving DecidableEq

/-- The authenticated routes: `/messages`, and `/messages/:message_id` with its path segment. -/
inductive Route
  | messages
  | message (messageId : String)
deriving DecidableEq

/-- A request. -/
structure Request where
  method : Method
  route : Route
  query : String
  headers : List (String × List UInt8)
  body : Option (List UInt8)
deriving DecidableEq

/-! ### Headers -/

/-- The bytes a header value may have to be read as text: visible ASCII, space and tab. -/
def isHeaderText (byte : UInt8) : Bool :=
  byte = 9 || (32 ≤ byte && byte < 127)

/-- The text without white space at its ends. -/
def trimBytes (bytes : List UInt8) : List UInt8 :=
  let isSpace := fun byte : UInt8 ↦ byte = 9 || byte = 32
  ((bytes.dropWhile isSpace).reverse.dropWhile isSpace).reverse

/-- ASCII bytes as text. -/
def asciiText (bytes : List UInt8) : String :=
  String.ofList (bytes.map fun byte ↦ Char.ofNat byte.toNat)

/-- Extracts a header value as a trimmed string. -/
def getHeader (headers : List (String × List UInt8)) (name : String) : Option String :=
  match headers.lookup name with
  | none => none
  | some value => if value.all isHeaderText then some (asciiText (trimBytes value)) else none

/-! ### Integers in text -/

/-- The value of a non-empty string of decimal digits. -/
def decimalValue (digits : List Char) : Option Nat :=
  if digits ≠ [] ∧ digits.all Char.isDigit then
    some (digits.foldl (fun value digit ↦ 10 * value + (digit.toNat - '0'.toNat)) 0)
  else
    none

/-- `i64::from_str`: an optional sign, then digits, within the range. -/
def parseI64 (text : String) : Option Int := do
  let value ← match text.toList with
    | '-' :: digits => (decimalValue digits).map fun value ↦ -(value : Int)
    | '+' :: digits => (decimalValue digits).map fun value ↦ (value : Int)
    | digits => (decimalValue digits).map fun value ↦ (value : Int)
  if -2 ^ 63 ≤ value ∧ value < 2 ^ 63 then some value else none

/-- `usize::from_str` on a 64-bit machine. -/
def parseUsize (text : String) : Option Nat := do
  let value ← match text.toList with
    | '+' :: digits => decimalValue digits
    | digits => decimalValue digits
  if value < 2 ^ 64 then some value else none

/-- Why a text is not an integer of a type. -/
inductive IntErrorKind
  | empty
  | invalidDigit
  | posOverflow
  | negOverflow
deriving DecidableEq

/-- The text of a refusal. -/
def IntErrorKind.toString : IntErrorKind → String
  | empty => "cannot parse integer from empty string"
  | invalidDigit => "invalid digit found in string"
  | posOverflow => "number too large to fit in target type"
  | negOverflow => "number too small to fit in target type"

/-- Where the digits of a refused text fail: at the first character that is no digit, or at the
first digit that takes the value above the largest one. -/
def firstFailure (largest : Nat) (overflow : IntErrorKind) (value : Nat) :
    List Char → IntErrorKind
  | [] => overflow
  | symbol :: rest =>
    if symbol.isDigit = false then .invalidDigit
    else
      let next := 10 * value + (symbol.toNat - '0'.toNat)
      if largest < next then overflow else firstFailure largest overflow next rest

/-- Why a text is not an `i64`. -/
def parseI64Error (text : String) : IntErrorKind :=
  match text.toList with
  | [] => .empty
  | ['-'] => .invalidDigit
  | ['+'] => .invalidDigit
  | '-' :: digits => firstFailure (2 ^ 63) .negOverflow 0 digits
  | '+' :: digits => firstFailure (2 ^ 63 - 1) .posOverflow 0 digits
  | digits => firstFailure (2 ^ 63 - 1) .posOverflow 0 digits

/-- Why a text is not a `usize`. -/
def parseUsizeError (text : String) : IntErrorKind :=
  match text.toList with
  | [] => .empty
  | ['+'] => .invalidDigit
  | '+' :: digits => firstFailure (2 ^ 64 - 1) .posOverflow 0 digits
  | digits => firstFailure (2 ^ 64 - 1) .posOverflow 0 digits

end MessagingRelayer
